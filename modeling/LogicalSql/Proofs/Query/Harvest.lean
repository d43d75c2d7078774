import LogicalSql.Query.Scope

/-! What stands in a query: its realized tables and its calls of logical functions, those inside the
arguments of table functions told apart from all others. -/
namespace LogicalSql

/-- What a realized table and a call contribute to a harvest. -/
structure Harvest (α : Type) where
  table : String → List α := fun _ => []
  call : LogicalFunction → List α := fun _ => []

variable {α : Type}

namespace Harvest

/-- The harvest of the tables alone. -/
def tables (v : Harvest α) : Harvest α where
  table := v.table

@[simp] theorem tables_table (v : Harvest α) : v.tables.table = v.table := rfl

@[simp] theorem tables_call (v : Harvest α) (f : LogicalFunction) : v.tables.call f = [] := rfl

/-- The names of the realized tables. -/
def names : Harvest String where
  table name := [name]

/-- The functions called. -/
def calls : Harvest LogicalFunction where
  call f := [f]

end Harvest

mutual

/-- `v` is gathered everywhere but in the arguments of table functions, and `w` is gathered
there. -/
def Query.harvest (v w : Harvest α) : Query → List α
  | .select s => s.harvest v w
  | .withCtes _ ctes body => cteHarvest v w ctes ++ body.harvest v w
  | .raw _ => []

def cteHarvest (v w : Harvest α) : List Cte → List α
  | [] => []
  | ⟨_, _, query⟩ :: cs => query.harvest v w ++ cteHarvest v w cs

def Select.harvest (v w : Harvest α) : Select → List α
  | { projections, sources, joins, filter, groupBy, having, orderBy, limit, offset,
      setOperation, .. } =>
    sourceHarvest v w sources ++ joinSourceHarvest v w joins ++ itemHarvest v w projections ++
      joinConditionHarvest v w joins ++ optionHarvest v w filter ++ exprHarvest v w groupBy ++
      optionHarvest v w having ++ orderHarvest v w orderBy ++ optionHarvest v w limit ++
      optionHarvest v w offset ++ setOperationHarvest v w setOperation

def setOperationHarvest (v w : Harvest α) : Option SetOperation → List α
  | none => []
  | some ⟨_, _, right⟩ => right.harvest v w

def sourceHarvest (v w : Harvest α) : List Source → List α
  | [] => []
  | s :: ss => s.harvest v w ++ sourceHarvest v w ss

def Source.harvest (v w : Harvest α) : Source → List α
  | .table _ name _ => v.table name
  | .subquery query _ => query.harvest v w
  | .function _ args _ => exprHarvest w w args

def joinSourceHarvest (v w : Harvest α) : List Join → List α
  | [] => []
  | ⟨_, source, _⟩ :: js => source.harvest v w ++ joinSourceHarvest v w js

def joinConditionHarvest (v w : Harvest α) : List Join → List α
  | [] => []
  | ⟨_, _, condition⟩ :: js => conditionHarvest v w condition ++ joinConditionHarvest v w js

def conditionHarvest (v w : Harvest α) : Option JoinCondition → List α
  | some (.on e) => e.harvest v w
  | some (.using _) => []
  | some .natural => []
  | none => []

def itemHarvest (v w : Harvest α) : List SelectItem → List α
  | [] => []
  | i :: is => i.harvest v w ++ itemHarvest v w is

def SelectItem.harvest (v w : Harvest α) : SelectItem → List α
  | .wildcard => []
  | .wildcardOf _ => []
  | .expr e _ => e.harvest v w

def orderHarvest (v w : Harvest α) : List OrderItem → List α
  | [] => []
  | ⟨e, _, _⟩ :: os => e.harvest v w ++ orderHarvest v w os

def optionHarvest (v w : Harvest α) : Option Expr → List α
  | none => []
  | some e => e.harvest v w

def exprHarvest (v w : Harvest α) : List Expr → List α
  | [] => []
  | e :: es => e.harvest v w ++ exprHarvest v w es

def whenHarvest (v w : Harvest α) : List (Expr × Expr) → List α
  | [] => []
  | (condition, result) :: ws =>
    condition.harvest v w ++ result.harvest v w ++ whenHarvest v w ws

def Expr.harvest (v w : Harvest α) : Expr → List α
  | .column _ _ => []
  | .literal _ => []
  | .binary left _ right => left.harvest v w ++ right.harvest v w
  | .unary _ e => e.harvest v w
  | .call function args => v.call function ++ exprHarvest v w args
  | .function _ args _ => exprHarvest v w args
  | .aggregate _ args _ filter => exprHarvest v w args ++ optionHarvest v w filter
  | .case operand whens otherwise =>
    optionHarvest v w operand ++ whenHarvest v w whens ++ optionHarvest v w otherwise
  | .subquery query => query.harvest v w
  | .exists query => query.harvest v w
  | .inList e list _ => e.harvest v w ++ exprHarvest v w list
  | .inSubquery e query _ => e.harvest v w ++ query.harvest v w
  | .between e low high _ => e.harvest v w ++ low.harvest v w ++ high.harvest v w
  | .isNull e _ => e.harvest v w
  | .cast e _ => e.harvest v w
  | .wildcard => []
  | .parameter _ => []
  | .nested e => e.harvest v w

end

def conditionsHarvest (v w : Harvest α) : List (Option JoinCondition) → List α
  | [] => []
  | c :: cs => conditionHarvest v w c ++ conditionsHarvest v w cs

def Scope.harvest (v w : Harvest α) (s : Scope) : List α :=
  sourceHarvest v w s.sources ++ sourceHarvest v w s.joined

variable {v w : Harvest α}

theorem joinSourceHarvest_eq (joins : List Join) :
    joinSourceHarvest v w joins = sourceHarvest v w (joins.map Join.source) := by
  induction joins with
  | nil => simp only [joinSourceHarvest, List.map_nil, sourceHarvest]
  | cons j joins ih =>
    obtain ⟨kind, source, condition⟩ := j
    simp only [joinSourceHarvest, List.map_cons, sourceHarvest, ih]

theorem joinConditionHarvest_eq (joins : List Join) :
    joinConditionHarvest v w joins = conditionsHarvest v w (joins.map Join.condition) := by
  induction joins with
  | nil => simp only [joinConditionHarvest, List.map_nil, conditionsHarvest]
  | cons j joins ih =>
    obtain ⟨kind, source, condition⟩ := j
    simp only [joinConditionHarvest, List.map_cons, conditionsHarvest, ih]

theorem sourceHarvest_append (xs ys : List Source) :
    sourceHarvest v w (xs ++ ys) = sourceHarvest v w xs ++ sourceHarvest v w ys := by
  induction xs with
  | nil => simp only [List.nil_append, sourceHarvest]
  | cons x xs ih => simp only [List.cons_append, sourceHarvest, ih, List.append_assoc]

theorem itemHarvest_append (xs ys : List SelectItem) :
    itemHarvest v w (xs ++ ys) = itemHarvest v w xs ++ itemHarvest v w ys := by
  induction xs with
  | nil => simp only [List.nil_append, itemHarvest]
  | cons x xs ih => simp only [List.cons_append, itemHarvest, ih, List.append_assoc]

/-- The names of all realized tables that a walk comes by. -/
def Query.readTables (q : Query) : List String := q.harvest .names {}

end LogicalSql
