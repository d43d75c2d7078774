import LogicalSql.Surface.Reader.Change

/-! Queries: set operations on selections, with what stands before and behind them. -/
namespace LogicalSql.Surface.Reader

open Outline

variable (L : Level)

/-- Rows of values, behind their keyword. -/
def valuesBody : Reader Body := do
  let rows ← commaSeparated (do
    let named ← keyword "ROW"
    return (named, ← parenthesized L.exprs))
  let named := rows.any (·.1)
  return .other ⟨"VALUES " ++ commaList (rows.map fun (_, es) =>
      (if named then "ROW" else "") ++ showRow es),
    Outline.tuple "Values" [record "Values" [("explicit_row", bool named),
      ("rows", listed (rows.map fun (_, es) => listed (outlineExprs es)))]]⟩

def tableByName (schema : Option String) (name : String) : Body :=
  .other ⟨"TABLE " ++ (schema.map (· ++ ".")).getD "" ++ name,
    Outline.tuple "Table" [record "Table" [("table_name", optional (some (Text.report name))),
      ("schema_name", optional (schema.map Text.report))]]⟩

/-- A table by its name, behind its keyword. Three tokens are taken where there are so many. -/
def tableBody : Reader Body := do
  let ts ← tokens
  skip 3
  match ts with
  | .word schema _ :: .symbol "." :: rest =>
    match rest with
    | .word name _ :: _ => return tableByName (some schema) name
    | _ => fail
  | .word name _ :: _ => return tableByName none name
  | _ => fail

def term : Reader Body := do
  if ← peekKeyword "SELECT" then return .select (← select L)
  else if ← symbol "(" then
    let query ← L.query
    expectSymbol ")"
    return .query query
  else if ← keyword "VALUES" then valuesBody L
  else
    expectKeyword "TABLE"
    tableBody

def quantifier : Reader SetQuantifier := do
  if ← keywords ["DISTINCT", "BY", "NAME"] then return .distinctByName
  else if ← keywords ["BY", "NAME"] then return .byName
  else if ← keyword "ALL" then
    if ← keywords ["BY", "NAME"] then return .allByName else return .all
  else if ← keyword "DISTINCT" then return .distinct
  else return .none

/-- Operands joined to the left by set operators. -/
def setLoop (operator : Reader (Option SetOperator)) (operand : Reader Body) :
    Nat → Body → Reader Body
  | 0, left => return left
  | n + 1, left => do
    match ← operator with
    | some op =>
      let quantifier ← quantifier
      let right ← operand
      setLoop operator operand n (.setOperation left op quantifier right)
    | none => return left

def intersect? : Reader (Option SetOperator) := do
  if ← keyword "INTERSECT" then return some .intersect else return none

def unionOrExcept? : Reader (Option SetOperator) := do
  if ← keyword "UNION" then return some .union
  else if ← keyword "EXCEPT" then return some .except
  else return none

def intersections : Reader Body := do
  let first ← term L
  setLoop intersect? (term L) (← get).length first

def body : Reader Body := do
  let first ← intersections L
  setLoop unionOrExcept? (intersections L) (← get).length first

def cte : Reader Cte := do
  let name ← identifier
  let columns ← if ← peekKeyword "AS" then pure [] else aliasColumns
  expectKeyword "AS"
  let materialized ← do
    if ← keyword "MATERIALIZED" then pure .yes
    else if ← keywords ["NOT", "MATERIALIZED"] then pure .no
    else pure .unsaid
  expectSymbol "("
  let query ← L.query
  let closing ← nextLexeme
  if isSymbol ")" closing.token then
    let source ← option (keyword "FROM") identifier
    return ⟨⟨name, columns⟩, materialized, query, source, closing⟩
  else fail

def with? : Reader (Option WithClause) := do
  if ← peekKeyword "WITH" then
    let opening ← nextLexeme
    let recursive ← keyword "RECURSIVE"
    return some ⟨opening, recursive, ← commaSeparated (cte L)⟩
  else return none

structure Bounds where
  limit : Option Expr
  offset : Option Expr
  /-- The word behind the offset. -/
  offsetRows : Option String

/-- A limit and an offset that are not known yet. -/
def moreBounds (b : Bounds) : Reader Bounds := do
  let limited ← if b.limit.isNone then keyword "LIMIT" else pure false
  let limit ← if limited then do
      if ← keyword "ALL" then pure none else pure (some (← L.anyExpr))
    else pure b.limit
  let shifted ← if b.offset.isNone then keyword "OFFSET" else pure false
  if shifted then
    let offset ← L.anyExpr
    return ⟨limit, some offset, ← oneOf? ["ROW", "ROWS"]⟩
  else return ⟨limit, b.offset, b.offsetRows⟩

/-- Limit and offset, in either order. -/
def bounds : Reader Bounds := do
  moreBounds L (← moreBounds L ⟨none, none, none⟩)

/-- The number of rows to fetch. -/
def fetch? : Reader (Option Shown) := do
  if ← keyword "FETCH" then
    let _ ← expectOneOf ["FIRST", "NEXT"]
    let (quantity, percent) ← match ← oneOf? ["ROW", "ROWS"] with
      | some _ => pure (none, false)
      | none => do
        let value ← constant
        let percent ← keyword "PERCENT"
        let _ ← expectOneOf ["ROW", "ROWS"]
        pure (some value, percent)
    let only ← keyword "ONLY"
    if !only then expectKeywords ["WITH", "TIES"]
    return some ⟨"FETCH FIRST" ++ (quantity.map fun v => " " ++ v.show).getD "" ++
        (if percent then " PERCENT" else "") ++ " ROWS " ++ (if only then "ONLY" else "WITH TIES"),
      record "Fetch" [("with_ties", bool !only), ("percent", bool percent),
        ("quantity", optional (quantity.map outlineValue))]⟩
  else return none

/-- A lock on the rows, behind `FOR`. -/
def lock : Reader Shown := do
  let kind ← expectOneOf ["UPDATE", "SHARE"]
  let table ← option (keyword "OF") objectName
  let wait : Option Shown ← do
    if ← keyword "NOWAIT" then pure (some ⟨"NOWAIT", "Nowait"⟩)
    else if ← keywords ["SKIP", "LOCKED"] then pure (some ⟨"SKIP LOCKED", "SkipLocked"⟩)
    else pure none
  return ⟨"FOR " ++ kind ++ (table.map fun name => " OF " ++ showName name).getD "" ++ showSpaced wait,
    record "LockClause" [("lock_type", if kind = "UPDATE" then "Update" else "Share"),
      ("of", optional (table.map outlineName)), ("nonblock", outlineShown wait)]⟩

/-- A choice about the document that rows are written to. -/
inductive FormChoice where
  | root (name : String)
  /-- A choice by its keywords. -/
  | plain (words : List String)
  deriving DecidableEq, Repr

/-- A name in parentheses. -/
def elementName : Reader String := parenthesized literalString

/-- One of the choices: a name for the root, or words of which the first one decides. -/
def formChoice? (plain : List (List String)) : Reader (Option FormChoice) := do
  if ← keyword "ROOT" then return some (.root (← elementName))
  else
    match ← oneOf? (plain.filterMap List.head?) with
    | some word =>
      let words := (plain.find? (·.head? == some word)).getD []
      expectKeywords (words.drop 1)
      return some (.plain words)
    | none => return none

/-- Choices behind commas. A comma that no choice follows is passed over. -/
def formChoicesLoop (plain : List (List String)) : Nat → Reader (List FormChoice)
  | 0 => return []
  | n + 1 => do
    if ← symbol "," then
      let choice ← formChoice? plain
      return choice.toList ++ (← formChoicesLoop plain n)
    else return []

def formChoices (plain : List (List String)) : Reader (List FormChoice) := do
  formChoicesLoop plain (← get).length

/-- The name for the root that was chosen last. -/
def rootName? (chosen : List FormChoice) : Option String :=
  chosen.foldl (fun found choice => match choice with
    | .root name => some name
    | .plain _ => found) none

def showChoice (chosen : List FormChoice) (words : List String) : String :=
  if chosen.contains (.plain words) then ", " ++ " ".intercalate words else ""

def showRoot (chosen : List FormChoice) : String :=
  ((rootName? chosen).map fun name => ", ROOT('" ++ name ++ "')").getD ""

/-- The form of a document that the rows are written to, behind `XML`. -/
def xmlPurpose : Reader Shown := do
  let word ← expectOneOf ["RAW", "AUTO", "EXPLICIT", "PATH"]
  let named := word = "RAW" || word = "PATH"
  let element ← if named && (← peekSymbol "(") then pure (some (← elementName)) else pure none
  let chosen ← formChoices [["ELEMENTS"], ["BINARY", "BASE64"], ["TYPE"]]
  let form := match word with
    | "RAW" => Outline.tuple "Raw" [optional (element.map Text.report)]
    | "PATH" => Outline.tuple "Path" [optional (element.map Text.report)]
    | "AUTO" => "Auto"
    | _ => "Explicit"
  let has (words : List String) := bool (chosen.contains (.plain words))
  return ⟨"FOR XML " ++ word ++ (element.map fun e => "('" ++ e ++ "')").getD "" ++
      showChoice chosen ["BINARY", "BASE64"] ++ showChoice chosen ["TYPE"] ++ showRoot chosen ++
      showChoice chosen ["ELEMENTS"],
    record "Xml" [("for_xml", form), ("elements", has ["ELEMENTS"]),
      ("binary_base64", has ["BINARY", "BASE64"]),
      ("root", optional ((rootName? chosen).map Text.report)), ("type", has ["TYPE"])]⟩

/-- The form of a document that the rows are written to, behind `JSON`. -/
def jsonPurpose : Reader Shown := do
  let word ← expectOneOf ["AUTO", "PATH"]
  let chosen ← formChoices [["INCLUDE_NULL_VALUES"], ["WITHOUT_ARRAY_WRAPPER"]]
  let has (word : String) := bool (chosen.contains (.plain [word]))
  return ⟨"FOR JSON " ++ word ++ showRoot chosen ++ showChoice chosen ["INCLUDE_NULL_VALUES"] ++
      showChoice chosen ["WITHOUT_ARRAY_WRAPPER"],
    record "Json" [("for_json", if word = "AUTO" then "Auto" else "Path"),
      ("root", optional ((rootName? chosen).map Text.report)),
      ("include_null_values", has "INCLUDE_NULL_VALUES"),
      ("without_array_wrapper", has "WITHOUT_ARRAY_WRAPPER")]⟩

def purposeLoop : Nat → Reader (List Shown × Option Shown)
  | 0 => return ([], none)
  | n + 1 => do
    if ← keyword "FOR" then
      if ← keyword "XML" then return ([], some (← xmlPurpose))
      else if ← keyword "JSON" then return ([], some (← jsonPurpose))
      else if ← keyword "BROWSE" then return ([], some ⟨"FOR BROWSE", "Browse"⟩)
      else
        let first ← lock
        let (locks, purpose) ← purposeLoop n
        return (first :: locks, purpose)
    else return ([], none)

/-- Locks on the rows, and behind them what the rows are read for. -/
def purpose : Reader (List Shown × Option Shown) := do purposeLoop (← get).length

/-- A query whose body is a change of rows. -/
def changeQuery (withClause : Option WithClause) (name : String) (change : Shown) : Query :=
  ⟨withClause, .other ⟨change.text, Outline.tuple name [change.outline]⟩, [], none, none, none, none,
    [], none⟩

def query : Reader Query := do
  let withClause ← with? L
  if ← keyword "INSERT" then return changeQuery withClause "Insert" (← insertion L)
  else if ← keyword "UPDATE" then return changeQuery withClause "Update" (← update L)
  else
    let body ← body L
    let order ← orderBy? L
    let bounds ← bounds L
    let fetch ← fetch?
    let (locks, purpose) ← purpose
    return ⟨withClause, body, order, bounds.limit, bounds.offset, bounds.offsetRows, fetch, locks,
      purpose⟩

end LogicalSql.Surface.Reader
