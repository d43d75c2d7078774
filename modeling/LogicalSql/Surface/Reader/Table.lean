import LogicalSql.Surface.Reader.JsonTable

/-! Tables, derived tables and joins. -/
namespace LogicalSql.Surface.Reader

open Outline

variable (L : Level)

/-- A query behind an open parenthesis, the parenthesis that closes it, and its alias. -/
def derivedTable (lateral : Bool) : Reader TableFactor := do
  let query ← L.query
  expectSymbol ")"
  return .derived lateral query (← tableAlias?)

/-- Arguments behind an open parenthesis, and the parenthesis that closes them. -/
def tableArguments : Reader (List Argument) := do
  if ← symbol ")" then return []
  else
    let args ← commaSeparated (argument L)
    expectSymbol ")"
    return args

def lateralTable : Reader TableFactor := do
  if ← symbol "(" then derivedTable L true
  else
    let name ← objectName
    expectSymbol "("
    let args ← tableArguments L
    let a ← tableAlias?
    return .other ⟨"LATERAL " ++ showName name ++ "(" ++ commaList (showArguments args) ++ ")" ++
        showAlias a,
      record "Function" [("lateral", bool true), ("name", outlineName name),
        ("args", listed (outlineArguments args)), ("alias", outlineAlias a)]⟩

def unnestTable : Reader TableFactor := do
  let arrays ← parenthesized L.exprs
  let ordinality ← keywords ["WITH", "ORDINALITY"]
  let a ← tableAlias?
  -- `WITH` is taken even where no offset follows it.
  let offset ← if ← keyword "WITH" then keyword "OFFSET" else pure false
  let offsetName ← if offset then aliasName? reservedForColumnAliases else pure none
  return .other ⟨"UNNEST(" ++ commaList (showExprs arrays) ++ ")" ++
      (if ordinality then " WITH ORDINALITY" else "") ++ showAlias a ++
      (if offset then " WITH OFFSET" else "") ++ (offsetName.map fun i => " AS " ++ i.show).getD "",
    record "UNNEST" [("alias", outlineAlias a), ("array_exprs", listed (outlineExprs arrays)),
      ("with_offset", bool offset), ("with_offset_alias", optional (offsetName.map Ident.outline)),
      ("with_ordinality", bool ordinality)]⟩

/-- Hints in parentheses behind `WITH`. -/
def tableHints : Reader (List Expr) := do
  let ls ← get
  if ← keyword "WITH" then
    if ← symbol "(" then
      let hints ← L.exprs
      expectSymbol ")"
      return hints
    else
      set ls
      return []
  else return []

/-- A table or a function by its name. -/
def namedTable : Reader TableFactor := do
  let name ← objectName
  let args ← option (symbol "(") (tableArguments L)
  let ordinality ← keywords ["WITH", "ORDINALITY"]
  let a ← tableAlias?
  pivots L (.table name args ordinality a (← tableHints L))

/-- Joined tables behind an open parenthesis, and the parenthesis that closes them. A table alone
is refused. -/
def nestedJoin : Reader TableFactor := do
  let item ← L.tableItem
  let isJoin := match item with
    | ⟨.nestedJoin _ _, _⟩ => true
    | ⟨_, joins⟩ => !joins.isEmpty
  if isJoin then
    expectSymbol ")"
    return .nestedJoin item (← tableAlias?)
  else fail

/-- Takes a keyword with an open parenthesis behind it. -/
def keywordCall (word : String) : Reader Bool := do
  if (← peekKeyword word) && (← peekSecond?).map (isSymbol "(") == some true then
    skip 2
    return true
  else return false

def tableFactor : Reader TableFactor := do
  if ← keyword "LATERAL" then lateralTable L
  else if ← keyword "TABLE" then
    let e ← parenthesized L.anyExpr
    return .function e (← tableAlias?)
  else if ← symbol "(" then
    match ← attempt (derivedTable L false) with
    | some factor => pivots L factor
    | none => nestedJoin L
  else if ← keyword "UNNEST" then unnestTable L
  else if ← keywordCall "JSON_TABLE" then jsonTable L
  else if ← keywordCall "OPENJSON" then openJson L
  else namedTable L

/-- A join on one side, by the keyword of the side and the name it goes by. -/
def sideJoin (side name : String) (kind : JoinKind) : Reader JoinOperator := do
  match ← expectOneOf ["OUTER", "SEMI", "ANTI", "JOIN"] with
  | "JOIN" => return .known kind
  | word =>
    expectKeyword "JOIN"
    match word with
    | "SEMI" => return .other (side ++ " SEMI JOIN") (name ++ "Semi")
    | "ANTI" => return .other (side ++ " ANTI JOIN") (name ++ "Anti")
    | _ => return .known kind

/-- The kind of a join that may have a constraint. -/
def joinOperator? : Reader (Option JoinOperator) := do
  match ← oneOf? ["INNER", "JOIN", "LEFT", "RIGHT", "FULL", "SEMI", "ANTI"] with
  | some "INNER" =>
    expectKeyword "JOIN"
    return some (.known .inner)
  | some "JOIN" => return some (.known .inner)
  | some "LEFT" => return some (← sideJoin "LEFT" "Left" .left)
  | some "RIGHT" => return some (← sideJoin "RIGHT" "Right" .right)
  | some "SEMI" =>
    expectKeyword "JOIN"
    return some (.other "SEMI JOIN" "Semi")
  | some "ANTI" =>
    expectKeyword "JOIN"
    return some (.other "ANTI JOIN" "Anti")
  | some _ =>
    let _ ← keyword "OUTER"
    expectKeyword "JOIN"
    return some (.known .full)
  | none => return none

def constraint : Reader Constraint := do
  if ← keyword "ON" then return .on (← L.anyExpr)
  else if ← keyword "USING" then return .using (← identList)
  else return .none

def join? : Reader (Option Join) := do
  let isGlobal ← keyword "GLOBAL"
  -- A join that no constraint follows.
  let free (operator : JoinOperator) : Reader (Option Join) :=
    return some ⟨isGlobal, operator, ← tableFactor L, .none⟩
  if ← keyword "CROSS" then
    match ← expectOneOf ["JOIN", "APPLY"] with
    | "JOIN" => free (.known .cross)
    | _ => free (.free "CROSS APPLY" "CrossApply")
  else if ← keyword "OUTER" then
    expectKeyword "APPLY"
    free (.free "OUTER APPLY" "OuterApply")
  else if ← keyword "ASOF" then
    expectKeyword "JOIN"
    let factor ← tableFactor L
    expectKeyword "MATCH_CONDITION"
    let condition ← parenthesized L.anyExpr
    return some ⟨isGlobal, .asOf condition, factor, ← constraint L⟩
  else
    let natural ← keyword "NATURAL"
    match ← joinOperator? with
    | some operator =>
      let factor ← tableFactor L
      return some ⟨isGlobal, operator, factor, ← if natural then pure .natural else constraint L⟩
    | none => if natural then fail else return none

/-- A table with the tables joined to it. -/
def joinedTable : Reader TableItem := do
  let factor ← tableFactor L
  return ⟨factor, ← many (join? L)⟩

/-- Tables in parentheses may nest as deeply as there are tokens. -/
def tableItemLoop : Nat → Reader TableItem
  | 0 => fail
  | n + 1 => joinedTable { L with tableItem := tableItemLoop n }

def tableItem : Reader TableItem := do tableItemLoop L ((← get).length + 1)

end LogicalSql.Surface.Reader
