import LogicalSql.Surface.Reader.Table
import LogicalSql.Text.Lower

/-! The clauses of one `SELECT`. -/
namespace LogicalSql.Surface.Reader

open Outline

variable (L : Level)

/-- `DISTINCT` with the expressions it may be limited to. -/
def distinct? : Reader (Option Shown) := do
  let all ← keyword "ALL"
  if ← keyword "DISTINCT" then
    if all then fail
    else if ← keyword "ON" then
      expectSymbol "("
      let on ← if ← peekSymbol ")" then pure [] else L.exprs
      expectSymbol ")"
      return some ⟨"DISTINCT ON (" ++ commaList (showExprs on) ++ ")",
        Outline.tuple "On" [listed (outlineExprs on)]⟩
    else return some ⟨"DISTINCT", "Distinct"⟩
  else return none

/-- A bound on the number of rows, in front of the columns. -/
def top? : Reader (Option Shown) := do
  if ← keyword "TOP" then
    let amount : Shown ← if ← symbol "(" then do
        let e ← L.anyExpr
        expectSymbol ")"
        pure ⟨"(" ++ e.show ++ ")", Outline.tuple "Expr" [e.outline]⟩
      else do
        let n ← natural
        pure ⟨toString n, Outline.tuple "Constant" [toString n]⟩
    let percent ← keyword "PERCENT"
    let ties ← keywords ["WITH", "TIES"]
    return some ⟨"TOP " ++ amount.text ++ (if percent then " PERCENT" else "") ++
        if ties then " WITH TIES" else "",
      record "Top" [("with_ties", bool ties), ("percent", bool percent),
        ("quantity", optional (some amount.outline))]⟩
  else return none

def item : Reader Item := do
  match ← wildcard? with
  | some i => return i
  | none =>
    match ← L.anyExpr with
    | .wildcardOf name extent => return .wildcardOf name extent
    | e =>
      let isFrom := match e with
        | .identifier ⟨text, none, _⟩ => Text.lower text == "from"
        | _ => false
      if isFrom then fail else return .expr e (← aliasName? reservedForColumnAliases)

def items : Reader (List Item) := commaSeparated (item L)

/-- The table that the rows go into. -/
def into? : Reader (Option Shown) := do
  if ← keyword "INTO" then
    let temporary := (← oneOf? ["TEMP", "TEMPORARY"]).isSome
    let unlogged ← keyword "UNLOGGED"
    let table ← keyword "TABLE"
    let name ← objectName
    return some ⟨"INTO" ++ (if temporary then " TEMPORARY" else "") ++
        (if unlogged then " UNLOGGED" else "") ++ (if table then " TABLE" else "") ++ " " ++
        showName name,
      record "SelectInto" [("temporary", bool temporary), ("unlogged", bool unlogged),
        ("table", bool table), ("name", outlineName name)]⟩
  else return none

/-- A table made of each row by an expression, with names for it and its columns. -/
def lateralView? : Reader (Option Shown) := do
  if ← keywords ["LATERAL", "VIEW"] then
    let outer ← keyword "OUTER"
    let e ← L.anyExpr
    let name ← objectName
    let columns := (← commaSeparated
      (aliasName? ["WHERE", "GROUP", "CLUSTER", "HAVING", "LATERAL"])).filterMap id
    return some ⟨"LATERAL VIEW" ++ (if outer then " OUTER" else "") ++ " " ++ e.show ++ " " ++
        showName name ++ (if columns.isEmpty then "" else " AS " ++ showIdents columns),
      record "LateralView" [("lateral_view", e.outline), ("lateral_view_name", outlineName name),
        ("lateral_col_alias", outlineIdents columns), ("outer", bool outer)]⟩
  else return none

/-- Expressions in parentheses, perhaps none. -/
def rowOf : Reader (List Expr) := do
  expectSymbol "("
  if ← symbol ")" then return []
  else
    let es ← L.exprs
    expectSymbol ")"
    return es

/-- Expressions in parentheses, or one without. -/
def looseRow : Reader (List Expr) := do
  if ← peekSymbol "(" then rowOf L else return [← L.anyExpr]

def showRow (es : List Expr) : String := "(" ++ commaList (showExprs es) ++ ")"

def showLooseRow : List Expr → String
  | [e] => e.show
  | es => showRow es

/-- Rows of expressions behind a keyword that groups by each of them. -/
def groupingSets (shown name : String) (sets : List (List Expr)) (showSet : List Expr → String) : Expr :=
  .other ⟨shown ++ " (" ++ commaList (sets.map showSet) ++ ")",
    Outline.tuple name [listed (sets.map fun es => listed (outlineExprs es))]⟩

def groupItem : Reader Expr := do
  if ← keywords ["GROUPING", "SETS"] then
    return groupingSets "GROUPING SETS" "GroupingSets"
      (← parenthesized (commaSeparated (rowOf L))) showRow
  else
    match ← oneOf? ["CUBE", "ROLLUP"] with
    | some word =>
      return groupingSets word (if word = "CUBE" then "Cube" else "Rollup")
        (← parenthesized (commaSeparated (looseRow L))) showLooseRow
    | none =>
      match ← get with
      | ⟨.symbol "(", _, _⟩ :: ⟨.symbol ")", _, _⟩ :: ls =>
        set ls
        return .other ⟨"()", Outline.tuple "Tuple" [listed []]⟩
      | _ => L.anyExpr

/-- The list behind a keyword and `BY`. -/
def listBehind (word : String) : Reader (List Expr) := do
  if ← keywords [word, "BY"] then L.exprs else return []

def namedWindow : Reader Shown := do
  let name ← identifier
  expectKeyword "AS"
  expectSymbol "("
  let spec ← windowSpec L
  return ⟨name.show ++ " AS " ++ spec.text,
    Outline.tuple "NamedWindowDefinition" [name.outline, spec.outline]⟩

def windows : Reader (List Shown) := do
  if ← keyword "WINDOW" then commaSeparated (namedWindow L) else return []

def select : Reader Select := do
  let opening ← nextLexeme
  let distinct ← distinct? L
  let top ← top? L
  let projection ← items L
  let into ← into?
  let sources ← if ← keyword "FROM" then commaSeparated L.tableItem else pure []
  let lateralViews ← many (lateralView? L)
  let filter ← option (keyword "WHERE") L.anyExpr
  let grouped ← keywords ["GROUP", "BY"]
  let groupAll ← if grouped then keyword "ALL" else pure false
  let groupBy ← if grouped && !groupAll then commaSeparated (groupItem L) else pure []
  let clusterBy ← listBehind L "CLUSTER"
  let distributeBy ← listBehind L "DISTRIBUTE"
  let sortBy ← listBehind L "SORT"
  let having ← option (keyword "HAVING") L.anyExpr
  let windowsFirst ← peekKeyword "WINDOW"
  let early ← windows L
  let qualify ← option (keyword "QUALIFY") L.anyExpr
  let late ← if windowsFirst || qualify.isNone then pure [] else windows L
  return ⟨opening, distinct, top, projection, into, sources, lateralViews, filter, groupAll, groupBy,
    clusterBy, distributeBy, sortBy, having, early ++ late, qualify, windowsFirst⟩

end LogicalSql.Surface.Reader
