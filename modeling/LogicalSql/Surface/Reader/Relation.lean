import LogicalSql.Surface.Reader.Column

/-! Statements that create tables, views and indexes, kept as their normalized text. -/
namespace LogicalSql.Surface.Reader

variable (L : Level)

/-- The format of files. -/
inductive StoredFormat where
  | format (name : String)
  /-- Formats of their own for what is read and what is written. -/
  | formats (text : String)

def StoredFormat.show : StoredFormat → String
  | .format name => " STORED AS " ++ name
  | .formats text => " STORED AS " ++ text

/-- The files behind a table. -/
structure Files where
  rows : String
  format : Option StoredFormat
  properties : List String
  location : Option String

/-- The marks that divide rows, each behind its words. A first word that is left alone ends them and
is passed over. -/
def rowMarks? : Reader (Option String) := do
  let mark (words : List String) : Reader String :=
    return " " ++ " ".intercalate words ++ " " ++ (← identifier).show
  let marked (first : String) (more : List String) : Reader (Option String) := do
    if ← keywords more then return some (← mark (first :: more)) else return none
  match ← oneOf? ["FIELDS", "COLLECTION", "MAP", "LINES", "NULL"] with
  | some "FIELDS" =>
    match ← marked "FIELDS" ["TERMINATED", "BY"] with
    | some fields =>
      if ← keywords ["ESCAPED", "BY"] then return some (fields ++ (← mark ["ESCAPED", "BY"]))
      else return some fields
    | none => return none
  | some "COLLECTION" => marked "COLLECTION" ["ITEMS", "TERMINATED", "BY"]
  | some "MAP" => marked "MAP" ["KEYS", "TERMINATED", "BY"]
  | some "LINES" => marked "LINES" ["TERMINATED", "BY"]
  | some _ => marked "NULL" ["DEFINED", "AS"]
  | none => return none

/-- How rows are written, behind the first keyword. -/
def rowFormat : Reader String := do
  expectKeyword "FORMAT"
  if ← keyword "SERDE" then return " ROW FORMAT SERDE " ++ (← bareString)
  else
    let _ ← keyword "DELIMITED"
    return " ROW FORMAT DELIMITED" ++ String.join (← many rowMarks?)

def storedFormat : Reader StoredFormat := do
  if ← keyword "INPUTFORMAT" then
    let input ← L.anyExpr
    expectKeyword "OUTPUTFORMAT"
    return .formats ("INPUTFORMAT " ++ input.show ++ " OUTPUTFORMAT " ++ (← L.anyExpr).show)
  else return .format (← fileFormat)

def filesLoop : Nat → Files → Reader Files
  | 0, files => return files
  | n + 1, files => do
    match ← oneOf? ["ROW", "STORED", "LOCATION"] with
    | some "ROW" =>
      let rows ← rowFormat
      filesLoop n { files with rows }
    | some "STORED" =>
      expectKeyword "AS"
      let format ← storedFormat L
      filesLoop n { files with format := some format }
    | some _ =>
      let location ← literalString
      filesLoop n { files with location := some location }
    | none =>
      let properties ← settings L ["WITH", "SERDEPROPERTIES"]
      if properties.isEmpty then return files else filesLoop n { files with properties }

def files : Reader Files := do filesLoop L ((← get).length + 1) ⟨"", none, [], none⟩

def showLocation (location : String) : String := " LOCATION '" ++ location ++ "'"

/-- The files of a table that holds its rows itself. -/
def Files.show (files : Files) : String :=
  files.rows ++ (files.format.map StoredFormat.show).getD "" ++
    inParens " WITH SERDEPROPERTIES " files.properties ++ (files.location.map showLocation).getD ""

/-- The files that hold the rows of a table. The format of a single name stands beside the
location. -/
def Files.showOutside (files : Files) (location : String) : String :=
  let (early, late) := match files.format with
    | some (.format name) => ("", (StoredFormat.format name).show)
    | some (.formats text) => ((StoredFormat.formats text).show, "")
    | none => ("", "")
  files.rows ++ early ++ inParens " WITH SERDEPROPERTIES " files.properties ++ late ++
    showLocation location

def engine : Reader String := do
  if ← keyword "ENGINE" then
    expectSymbol "="
    match ← next with
    | .word name _ => return " ENGINE=" ++ name ++ inParens "" ((← optionalColumns).map Ident.show)
    | _ => fail
  else return ""

def firstIncrement : Reader String := do
  if ← keyword "AUTO_INCREMENT" then
    let _ ← symbol "="
    let n ← natural
    if n < UInt32.size then return " AUTO_INCREMENT " ++ toString n else fail
  else return ""

def orderClause : Reader String := do
  if ← keywords ["ORDER", "BY"] then
    if ← peekSymbol "(" then return " ORDER BY " ++ showRow (← rowOf L)
    else return " ORDER BY " ++ (← L.anyExpr).show
  else return ""

/-- A word behind keywords and an equals sign. -/
def wordSetting (words : List String) (shown : String) : Reader String := do
  if ← keywords words then
    expectSymbol "="
    match ← next with
    | .word text _ => return shown ++ text
    | _ => fail
  else return ""

/-- What becomes of the rows at the end of a transaction. -/
def onCommit : Reader String := do
  if ← keywords ["ON", "COMMIT"] then
    if ← keywords ["DELETE", "ROWS"] then return " ON COMMIT DELETE ROWS"
    else if ← keywords ["PRESERVE", "ROWS"] then return " ON COMMIT PRESERVE ROWS"
    else
      expectKeyword "DROP"
      return " ON COMMIT DROP"
  else return ""

def tableComment : Reader String := do
  if ← keyword "COMMENT" then
    let equals := if ← symbol "=" then " = " else " "
    match ← next with
    | .string text => return " COMMENT" ++ equals ++ "'" ++ text ++ "'"
    | _ => fail
  else return ""

/-- A table, behind its keyword. -/
def createTable (start : String) : Reader String := do
  let condition ← ifNotExists
  let name ← objectName
  let cluster ← clusterName
  let like ← if (← oneOf? ["LIKE", "ILIKE"]).isSome then objectNameOrSkip else pure none
  let clone ← if ← keyword "CLONE" then objectNameOrSkip else pure none
  let elements ← tableElements L
  let rowId ← if ← keywords ["WITHOUT", "ROWID"] then pure " WITHOUT ROWID" else pure ""
  let partitions ← if ← keywords ["PARTITIONED", "BY"] then
      parenthesized (commaSeparated (columnDefinition L))
    else pure []
  let files ← files L
  let options ← settings L ["WITH"]
  let properties ← settings L ["TBLPROPERTIES"]
  let engine ← engine
  let increment ← firstIncrement
  let order ← orderClause L
  let partition ← option (keywords ["PARTITION", "BY"]) L.anyExpr
  let charset ← wordSetting ["DEFAULT", "CHARSET"] " DEFAULT CHARSET="
  let collation ← wordSetting ["COLLATE"] " COLLATE="
  let commit ← onCommit
  let strict ← textIf "STRICT" " STRICT"
  let comment ← tableComment
  let query ← option (keyword "AS") L.query
  let columns := if elements.isEmpty && query.isNone && like.isNone && clone.isNone then " ()"
    else inParens " " elements
  return start ++ "TABLE " ++ condition ++ showName name ++ behind " ON CLUSTER " cluster ++ columns ++
    rowId ++ behind " LIKE " (like.map showName) ++ behind " CLONE " (clone.map showName) ++
    inParens " PARTITIONED BY " partitions ++ files.show ++ inParens " TBLPROPERTIES " properties ++
    inParens " WITH " options ++ engine ++ comment ++ increment ++ order ++
    showOption " PARTITION BY " "" partition ++ charset ++ collation ++ commit ++ strict ++
    behind " AS " (query.map (·.show))

/-- A table whose rows are in files, behind its first keyword. It is of no use without a place. -/
def createExternalTable (start : String) : Reader String := do
  expectKeyword "TABLE"
  let condition ← ifNotExists
  let name ← objectName
  let elements ← tableElements L
  let partitions ← if ← keywords ["PARTITIONED", "BY"] then
      parenthesized (commaSeparated (columnDefinition L))
    else pure []
  let files ← files L
  let properties ← settings L ["TBLPROPERTIES"]
  match files.location with
  | none => fail
  | some location =>
    return start ++ "EXTERNAL TABLE " ++ condition ++ showName name ++
      (if elements.isEmpty then " ()" else inParens " " elements) ++
      inParens " PARTITIONED BY " partitions ++ files.showOutside location ++
      inParens " TBLPROPERTIES " properties

def virtualTable : Reader String := do
  expectKeyword "TABLE"
  let condition ← ifNotExists
  let name ← objectName
  expectKeyword "USING"
  let source ← identifier
  let arguments ← optionalColumns
  return "CREATE VIRTUAL TABLE " ++ condition ++ showName name ++ " USING " ++ source.show ++
    inParens " " (arguments.map Ident.show)

/-- Columns of a view. Empty parentheses stand for none. -/
def viewColumns : Reader (List Ident) := do
  if ← symbol "(" then
    if ← symbol ")" then return []
    else
      let columns ← idents
      expectSymbol ")"
      return columns
  else return []

/-- A view, behind its keyword. -/
def createView (start : String) : Reader String := do
  let name ← objectName
  let columns ← viewColumns
  let options ← settings L ["WITH"]
  let cluster ← if ← keyword "CLUSTER" then do
      expectKeyword "BY"
      optionalColumns
    else pure []
  expectKeyword "AS"
  let query ← L.query
  return start ++ "VIEW " ++ showName name ++ inParens " " (columns.map Ident.show) ++
    inParens " WITH " options ++ inParens " CLUSTER BY " (cluster.map Ident.show) ++ " AS " ++
    query.show

/-- An index, behind its keyword. -/
def createIndex (start : String) : Reader String := do
  let concurrently ← textIf "CONCURRENTLY" "CONCURRENTLY "
  let condition ← ifNotExists
  let unnamed ← if condition.isEmpty then keyword "ON" else pure false
  let name ← if unnamed then pure "" else do
    let name ← objectName
    expectKeyword "ON"
    pure (showName name ++ " ")
  let table ← objectName
  let method ← option (keyword "USING") identifier
  let columns ← parenthesized (orderItems L)
  let included ← if ← keyword "INCLUDE" then identList else pure []
  let nulls ← nullsDistinct
  let options ← if ← keyword "WITH" then parenthesized L.exprs else pure []
  let filter ← where? L
  return start ++ "INDEX " ++ concurrently ++ condition ++ name ++ "ON " ++ showName table ++
    (method.map fun i => " USING " ++ i.show ++ " ").getD "" ++ "(" ++
    ",".intercalate (showOrder columns) ++ ")" ++
    (if included.isEmpty then ""
      else " INCLUDE (" ++ ",".intercalate (included.map Ident.show) ++ ")") ++
    nulls ++ inParens " WITH " (showExprs options) ++ showWhere filter

end LogicalSql.Surface.Reader
