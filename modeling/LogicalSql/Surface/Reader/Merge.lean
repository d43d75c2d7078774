import LogicalSql.Surface.Reader.Inspect

/-! Statements that move many rows at once, kept as their normalized text. -/
namespace LogicalSql.Surface.Reader

variable (L : Level)

/-- Rows that a merge treats alike. -/
def mergeRows : Reader String := do
  expectKeyword "WHEN"
  if ← keyword "NOT" then
    expectKeyword "MATCHED"
    if ← keywords ["BY", "SOURCE"] then return "NOT MATCHED BY SOURCE"
    else if ← keywords ["BY", "TARGET"] then return "NOT MATCHED BY TARGET"
    else return "NOT MATCHED"
  else
    expectKeyword "MATCHED"
    return "MATCHED"

/-- Rows that are missing are inserted, and others are updated or deleted. -/
def mergeAction (isMissing : Bool) : Reader String := do
  if isMissing then
    expectKeyword "INSERT"
    let columns ← optionalColumns
    expectKeyword "VALUES"
    let values ← valuesBody L
    return "INSERT " ++ (if columns.isEmpty then "" else "(" ++ showIdents columns ++ ") ") ++
      values.show
  else
    match ← expectOneOf ["UPDATE", "DELETE"] with
    | "UPDATE" =>
      expectKeyword "SET"
      return "UPDATE SET " ++ showClauses (← assignments L)
    | _ => return "DELETE"

def mergeClause? : Reader (Option String) := do
  if (← get).isEmpty || (← peekSymbol ";") then return none
  else
    let rows ← mergeRows
    let condition ← option (keyword "AND") L.anyExpr
    expectKeyword "THEN"
    let action ← mergeAction L (rows = "NOT MATCHED" || rows = "NOT MATCHED BY TARGET")
    return some ("WHEN " ++ rows ++ showOption " AND " "" condition ++ " THEN " ++ action)

/-- A merge of one table into another, behind its first keyword. -/
def mergeText : Reader String := do
  let into ← textIf "INTO" " INTO"
  let table ← tableFactor L
  expectKeyword "USING"
  let source ← tableFactor L
  expectKeyword "ON"
  let condition ← L.anyExpr
  let clauses ← many (mergeClause? L)
  return "MERGE" ++ into ++ " " ++ table.show ++ " USING " ++ source.show ++ " ON " ++ condition.show ++
    " " ++ " ".intercalate clauses

/-- A string of one byte. -/
def literalChar : Reader String := do
  let text ← literalString
  if text.utf8ByteSize = 1 then return "'" ++ text ++ "'" else fail

/-- A switch that is on unless `FALSE` follows it. -/
def copySwitch (word : String) : Reader String := do
  match ← oneOf? ["TRUE", "FALSE"] with
  | some "FALSE" => return word ++ " FALSE"
  | _ => return word

def copyOption : Reader String := do
  let word ← expectOneOf ["FORMAT", "FREEZE", "DELIMITER", "NULL", "HEADER", "QUOTE", "ESCAPE",
    "FORCE_QUOTE", "FORCE_NOT_NULL", "FORCE_NULL", "ENCODING"]
  match word with
  | "FORMAT" => return "FORMAT " ++ (← identifier).show
  | "FREEZE" | "HEADER" => copySwitch word
  | "DELIMITER" | "QUOTE" | "ESCAPE" => return word ++ " " ++ (← literalChar)
  | "NULL" | "ENCODING" => return word ++ " " ++ (← quotedString)
  | _ => return word ++ " (" ++ showIdents (← identList) ++ ")"

def csvOption : Reader String := do
  match ← expectOneOf ["HEADER", "QUOTE", "ESCAPE", "FORCE"] with
  | "HEADER" => return "HEADER"
  | "FORCE" =>
    if ← keywords ["NOT", "NULL"] then return "FORCE NOT NULL " ++ showIdents (← idents)
    else
      expectKeyword "QUOTE"
      return "FORCE QUOTE " ++ showIdents (← idents)
  | word =>
    let _ ← keyword "AS"
    return word ++ " " ++ (← literalChar)

/-- An option without parentheses. -/
def bareCopyOption : Reader String := do
  match ← expectOneOf ["BINARY", "DELIMITER", "NULL", "CSV"] with
  | "BINARY" => return " BINARY"
  | "DELIMITER" =>
    let _ ← keyword "AS"
    return " DELIMITER " ++ (← literalChar)
  | "NULL" =>
    let _ ← keyword "AS"
    return " NULL " ++ (← quotedString)
  | _ => return " CSV " ++ " ".intercalate (← many (attempt csvOption))

/-- Where rows are copied from or to. -/
def copyPlace : Reader String := do
  match ← oneOf? ["STDIN", "STDOUT", "PROGRAM"] with
  | some "PROGRAM" => return "PROGRAM " ++ (← quotedString)
  | some word => return word
  | none => quotedString

/-- Values that end among blanks, where `text` came before them, and the text left behind them. A
value ends at a tab and at the end of a line. Other blanks are part of it. -/
def cutValues (text : String) : List Blank → List String × String
  | [] => ([], text)
  | blank :: blanks =>
    if blank = .tab ∨ blank = .newline then
      let (values, rest) := cutValues "" blanks
      (text :: values, rest)
    else cutValues (text ++ blank.show) blanks

/-- The values in front of a backslash and a point, where `text` came before them, and what follows
these. `none` is a value that is missing, written as a backslash and a letter. A backslash takes
any other token with it. Text behind the last tab or line is no value. -/
def valuesFrom (text : String) : List Lexeme → List (Option String) × List Lexeme
  | [] => ([], [])
  | [l] =>
    if isSymbol "\\" l.token then ([], [])
    else ((cutValues (text ++ l.token.show) l.blanks).1.map some, [])
  | l :: m :: ls =>
    if isSymbol "\\" l.token then
      if isSymbol "." m.token then ([], ls)
      else
        let (cut, text) := cutValues text m.blanks
        let (values, rest) := valuesFrom text ls
        ((if isMissing m.token then [none] else []) ++ cut.map some ++ values, rest)
    else
      let (cut, text) := cutValues (text ++ l.token.show) l.blanks
      let (values, rest) := valuesFrom text (m :: ls)
      (cut.map some ++ values, rest)
where
  isMissing : Token → Bool
    | .word text _ => text == "N"
    | _ => false

/-- The values that follow a copy from standard input, behind its semicolon. -/
def copyValues : Reader (List (Option String)) := do
  let l ← nextLexeme
  if isSymbol ";" l.token then
    let (cut, text) := cutValues "" l.blanks
    let (values, rest) := valuesFrom text (← get)
    set rest
    return cut.map some ++ values
  else fail

def showValues (values : List (Option String)) : String :=
  if values.isEmpty then ""
  else ";\n" ++ "\t".intercalate (values.map (·.getD "\\N")) ++ "\n\\."

/-- A copy, behind its first keyword. -/
def copyText : Reader String := do
  let isQuery ← peekSymbol "("
  let source ← if isQuery then do
      pure ("(" ++ (← parenthesized L.query).show ++ ")")
    else do
      let name ← objectName
      pure (showName name ++ inParens " " ((← optionalColumns).map Ident.show))
  let direction ← expectOneOf ["FROM", "TO"]
  if isQuery && direction = "FROM" then fail
  else
    let place ← copyPlace
    let _ ← keyword "WITH"
    let options ← if ← symbol "(" then do
        let options ← commaSeparated copyOption
        expectSymbol ")"
        pure options
      else pure []
    let bare ← many (attempt bareCopyOption)
    let values ← if place = "STDIN" then copyValues else pure []
    return "COPY " ++ source ++ " " ++ direction ++ " " ++ place ++ inParens " " options ++
      String.join bare ++ showValues values

def unloadText : Reader String := do
  let query ← parenthesized L.query
  expectKeyword "TO"
  let target ← identifier
  return "UNLOAD(" ++ query.show ++ ") TO " ++ target.show ++ inParens " WITH " (← settings L ["WITH"])

/-- A query behind an optional keyword, from a word on. -/
def cachedQuery : Reader String := do
  match ← peek? with
  | none => return ""
  | some (.word _ _) =>
    let filler ← textIf "AS" " AS"
    return filler ++ " " ++ (← L.query).show
  | some _ => fail

def cacheText : Reader String := do
  let flag ← if ← keyword "TABLE" then pure "" else do
    let flag ← objectName
    expectKeyword "TABLE"
    pure (showName flag ++ " ")
  let name ← objectName
  let options ← settings L ["OPTIONS"]
  return "CACHE " ++ flag ++ "TABLE " ++ showName name ++ inParens " OPTIONS" options ++
    (← cachedQuery L)

def uncacheText : Reader String := do
  expectKeyword "TABLE"
  let condition ← ifExists
  return "UNCACHE TABLE " ++ condition ++ showName (← objectName)

def repairText : Reader String := do
  let repair ← textIf "REPAIR" "REPAIR "
  expectKeyword "TABLE"
  let name ← objectName
  let action ← attempt do
    let word ← oneOf? ["ADD", "DROP", "SYNC"]
    expectKeyword "PARTITIONS"
    return word
  return "MSCK " ++ repair ++ "TABLE " ++ showName name ++
    (action.join.map fun word => " " ++ word ++ " PARTITIONS").getD ""

end LogicalSql.Surface.Reader
