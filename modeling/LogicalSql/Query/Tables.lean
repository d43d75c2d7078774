import LogicalSql.Query.Basic

/-! The names of the realized tables that a query reads. -/
namespace LogicalSql

mutual

/-- In the order of the text, a name as often as it stands there. Grouping, ordering and row limits
are passed over, and so are the operand of `CASE` and the filter of an aggregate. -/
def Query.tableNames : Query → List String
  | .select s => s.tableNames
  | .withCtes _ ctes body => cteTableNames ctes ++ body.tableNames
  | .raw _ => []

def cteTableNames : List Cte → List String
  | [] => []
  | ⟨_, _, query⟩ :: cs => query.tableNames ++ cteTableNames cs

def Select.tableNames : Select → List String
  | { projections, sources, joins, filter, having, setOperation, .. } =>
    sourceTableNames sources ++ joinSourceTableNames joins ++ itemTableNames projections ++
      conditionTableNames joins ++ optionTableNames filter ++ optionTableNames having ++
      setOperationTableNames setOperation

def setOperationTableNames : Option SetOperation → List String
  | none => []
  | some ⟨_, _, right⟩ => right.tableNames

def sourceTableNames : List Source → List String
  | [] => []
  | s :: ss => s.tableNames ++ sourceTableNames ss

def Source.tableNames : Source → List String
  | .table _ name _ => [name]
  | .subquery query _ => query.tableNames
  | .function _ _ _ => []

def joinSourceTableNames : List Join → List String
  | [] => []
  | ⟨_, source, _⟩ :: js => source.tableNames ++ joinSourceTableNames js

def conditionTableNames : List Join → List String
  | [] => []
  | ⟨_, _, none⟩ :: js => conditionTableNames js
  | ⟨_, _, some condition⟩ :: js => condition.tableNames ++ conditionTableNames js

def JoinCondition.tableNames : JoinCondition → List String
  | .on e => e.tableNames
  | .using _ => []
  | .natural => []

def itemTableNames : List SelectItem → List String
  | [] => []
  | i :: is => i.tableNames ++ itemTableNames is

def SelectItem.tableNames : SelectItem → List String
  | .wildcard => []
  | .wildcardOf _ => []
  | .expr e _ => e.tableNames

def optionTableNames : Option Expr → List String
  | none => []
  | some e => e.tableNames

def exprTableNames : List Expr → List String
  | [] => []
  | e :: es => e.tableNames ++ exprTableNames es

def whenTableNames : List (Expr × Expr) → List String
  | [] => []
  | (condition, result) :: ws => condition.tableNames ++ result.tableNames ++ whenTableNames ws

def Expr.tableNames : Expr → List String
  | .column _ _ => []
  | .literal _ => []
  | .binary left _ right => left.tableNames ++ right.tableNames
  | .unary _ e => e.tableNames
  | .call _ args => exprTableNames args
  | .function _ args _ => exprTableNames args
  | .aggregate _ args _ _ => exprTableNames args
  | .case _ whens otherwise => whenTableNames whens ++ optionTableNames otherwise
  | .subquery query => query.tableNames
  | .exists query => query.tableNames
  | .inList e list _ => e.tableNames ++ exprTableNames list
  | .inSubquery e query _ => e.tableNames ++ query.tableNames
  | .between e low high _ => e.tableNames ++ low.tableNames ++ high.tableNames
  | .isNull e _ => e.tableNames
  | .cast e _ => e.tableNames
  | .wildcard => []
  | .parameter _ => []
  | .nested e => e.tableNames

end

/-- Inserts into a list that is sorted by code points and holds each name once. -/
def insertName (name : String) : List String → List String
  | [] => [name]
  | n :: ns => if name < n then name :: n :: ns else if name = n then n :: ns else n :: insertName name ns

/-- The table names in the order of their code points, each once. -/
def Query.tableNameSet (q : Query) : List String := q.tableNames.foldr insertName []

end LogicalSql
