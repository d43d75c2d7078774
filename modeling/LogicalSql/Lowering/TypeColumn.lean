import LogicalSql.Lowering.Error
import LogicalSql.Mapping.Set
import LogicalSql.Query.Print
import LogicalSql.Query.Scope

/-! The type of the row that a reference column points to, as an expression. -/
namespace LogicalSql.Lowering

/-- How a realized table tells the type behind one of its columns. -/
def realizedTypeColumn (mappings : MappingSource) (table : String) (qualifier : Option String)
    (column : String) : Except LoweringError Expr := do
  let shown := qualifiedSql qualifier column
  let some mapping ← (mappings.physical table).mapError .mapping
    | throw (.unmappedTable table shown)
  let single? := mapping.properties.findSome? fun p =>
    match p.layout with
    | .single c target => if c = column then some target else none
    | .union _ _ => none
  let union? := mapping.properties.findSome? fun p =>
    match p.layout with
    | .single _ _ => none
    | .union c typeColumn => if c = column then some typeColumn else none
  match single?, union? with
  | some none, _ => throw (.nonReferenceColumn shown)
  | some (some nested), _ =>
    match (← (mappings.logical nested).mapError .mapping).bind TableMapping.index with
    | some index => return .literal (.typeIndex index)
    | none => throw (.nestedTableUnmapped nested shown)
  | none, some typeColumn => return .column qualifier typeColumn
  | none, none => throw (.unresolvedColumn shown)

def typeAlias (column : String) : String := column ++ "_Type"

def hasAlias (name : String) : SelectItem → Bool
  | .expr _ (some a) => a == name
  | _ => false

def exprWithAlias? (name : String) : SelectItem → Option Expr
  | .expr e (some a) => if a = name then some e else none
  | _ => none

def exprOfColumn? (name : String) : SelectItem → Option Expr
  | .expr (.column t c) _ => if c = name then some (.column t c) else none
  | _ => none

/-- The one field with the column's name as its alias or, where no field has that alias, the one
field that refers to a column of that name. -/
def branchField (projections : List SelectItem) (column : String) : Except LoweringError Expr :=
  let byAlias := projections.filterMap (exprWithAlias? column)
  let candidates :=
    if byAlias.isEmpty then projections.filterMap (exprOfColumn? column) else byAlias
  match candidates with
  | [field] => .ok field
  | [] => .error (.missingUnionField column)
  | _ => .error (.ambiguousUnionField column)

/-- Finds the type expression of a column in a scope, and the scope changed on the way. -/
abbrev Resolver := Option String → String → Scope → Except LoweringError (Expr × Scope)

/-- One branch of a derived table gets the field `typeAlias column`, unless it has it. -/
def addToBranch (resolve : Resolver) (column : String) (select : Select) :
    Except LoweringError Select := do
  if select.projections.any (hasAlias (typeAlias column)) then return select
  let .column table name ← branchField select.projections column
    | throw (.unionFieldNotColumn column)
  let (type, scope) ← resolve table name ⟨select.sources, select.joins.map Join.source⟩
  return { select with
    projections := select.projections ++ [.expr type (some (typeAlias column))]
    sources := scope.sources
    joins := select.joins.zipWith (fun j s => { j with source := s }) scope.joined }

mutual

/-- Every branch of a derived table gets the field, the first branch first. -/
def addToQuery (resolve : Resolver) (column : String) : Query → Except LoweringError Query
  | .select ⟨distinct, projections, sources, joins, filter, groupBy, having, orderBy, limit, offset,
      setOperation⟩ => do
    let first ← addToBranch resolve column
      { distinct, projections, sources, joins, filter, groupBy, having, orderBy, limit, offset }
    return .select { first with setOperation := ← addToRest resolve column setOperation }
  | .withCtes recursive ctes body => return .withCtes recursive ctes (← addToQuery resolve column body)
  | .raw _ => throw (.unsupportedSubquery column)

def addToRest (resolve : Resolver) (column : String) :
    Option SetOperation → Except LoweringError (Option SetOperation)
  | none => return none
  | some ⟨op, all, right⟩ => return some ⟨op, all, ← addToQuery resolve column right⟩

end

/-- How many derived tables may be nested behind one column. -/
def maxDepth : Nat := 32

/-- `depth` is the number of derived tables that may still be entered. -/
def typeColumn (mappings : MappingSource) : Nat → Resolver
  | depth, qualifier, column, scope =>
    let shown := qualifiedSql qualifier column
    match scope.find? qualifier with
    | none => throw (.unresolvedTable shown)
    | some (.table _ name _) => do
      return (← realizedTypeColumn mappings name qualifier column, scope)
    | some (.function _ _ _) => throw (.unsupportedTable shown)
    | some (.subquery query a) =>
      match depth with
      | 0 => throw (.unionDepthExceeded shown maxDepth)
      | depth + 1 => do
        let query ← addToQuery (typeColumn mappings depth) column query
        return (.column qualifier (typeAlias column), scope.replace qualifier (.subquery query a))

end LogicalSql.Lowering
