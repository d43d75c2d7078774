import LogicalSql.Surface.Reader.Infix

/-! Names for tables, and tables whose rows are turned into columns or back. -/
namespace LogicalSql.Surface.Reader

open Outline

variable (L : Level)

/-- The columns behind a name, each with an optional type. -/
def aliasColumns : Reader (List (Ident × Option DataType)) := do
  if ← symbol "(" then
    let columns ← commaSeparated (do
      let name ← identifier
      return (name, ← attempt dataType))
    expectSymbol ")"
    return columns
  else return []

def tableAlias? : Reader (Option TableAlias) := do
  match ← aliasName? reservedForTableAliases with
  | some name => return some ⟨name, ← aliasColumns⟩
  | none => return none

/-- An expression with a name behind it. -/
def withName (e : Expr) (name : Option Ident) : Shown :=
  ⟨e.show ++ (name.map fun i => " AS " ++ i.show).getD "",
    record "ExprWithAlias" [("expr", e.outline), ("alias", optional (name.map Ident.outline))]⟩

def nameBehindAs? : Reader (Option Ident) := option (keyword "AS") identifier

/-- An aggregate that makes the values of a new column. -/
def pivotCall : Reader Shown := do
  match ← next with
  | .word text _ =>
    let call ← callOf L [⟨text, none, .nowhere⟩]
    return withName (.function call) (← nameBehindAs?)
  | _ => fail

/-- The values that become columns. -/
def pivotValues : Reader Shown := do
  if ← keyword "ANY" then
    let order ← orderBy? L
    return ⟨"ANY" ++ showListed " ORDER BY " (showOrder order),
      tuple "Any" [listed (outlineOrder order)]⟩
  else if ← peekQuery then
    let query ← L.query
    return ⟨query.show, tuple "Subquery" [query.outline]⟩
  else
    let values ← commaSeparated (do
      let e ← L.anyExpr
      return withName e (← nameBehindAs?))
    return ⟨commaList (values.map (·.text)), tuple "List" [outlineClauses values]⟩

def pivot (table : TableFactor) : Reader TableFactor := do
  expectSymbol "("
  let calls ← commaSeparated (pivotCall L)
  expectKeyword "FOR"
  let column ← objectName
  expectKeyword "IN"
  let values ← parenthesized (pivotValues L)
  let missing ← option (keywords ["DEFAULT", "ON", "NULL"]) (parenthesized L.anyExpr)
  expectSymbol ")"
  let name ← tableAlias?
  return .other ⟨table.show ++ " PIVOT(" ++ commaList (calls.map (·.text)) ++ " FOR " ++
      showName column ++ " IN (" ++ values.text ++ ")" ++ showOption " DEFAULT ON NULL (" ")" missing ++
      ")" ++ showAlias name,
    record "Pivot" [("table", table.outline), ("aggregate_functions", outlineClauses calls),
      ("value_column", outlineIdents column), ("value_source", values.outline),
      ("default_on_null", outlineOption missing), ("alias", outlineAlias name)]⟩

def unpivot (table : TableFactor) : Reader TableFactor := do
  expectSymbol "("
  let value ← identifier
  expectKeyword "FOR"
  let source ← identifier
  expectKeyword "IN"
  let columns ← identList
  expectSymbol ")"
  let name ← tableAlias?
  return .other ⟨table.show ++ " UNPIVOT(" ++ value.show ++ " FOR " ++ source.show ++ " IN (" ++
      showIdents columns ++ "))" ++ showAlias name,
    record "Unpivot" [("table", table.outline), ("value", value.outline), ("name", source.outline),
      ("columns", outlineIdents columns), ("alias", outlineAlias name)]⟩

def pivotsLoop : Nat → TableFactor → Reader TableFactor
  | 0, table => return table
  | n + 1, table => do
    match ← oneOf? ["PIVOT", "UNPIVOT"] with
    | some "PIVOT" => pivotsLoop n (← pivot L table)
    | some _ => pivotsLoop n (← unpivot table)
    | none => return table

/-- The table turned by everything that follows it. -/
def pivots (table : TableFactor) : Reader TableFactor := do
  pivotsLoop L (← get).length table

end LogicalSql.Surface.Reader
