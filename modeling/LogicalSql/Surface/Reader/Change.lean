import LogicalSql.Surface.Reader.Select

/-! Statements that change rows, kept as their normalized text and their outline. -/
namespace LogicalSql.Surface.Reader

open Outline

variable (L : Level)

def assignment : Reader Shown := do
  let target : Shown ← if ← symbol "(" then do
      let columns ← commaSeparated objectName
      expectSymbol ")"
      pure ⟨"(" ++ commaList (columns.map showName) ++ ")",
        tuple "Tuple" [listed (columns.map outlineName)]⟩
    else do
      let column ← objectName
      pure ⟨showName column, tuple "ColumnName" [outlineName column]⟩
  expectSymbol "="
  let value ← L.anyExpr
  return ⟨target.text ++ " = " ++ value.show,
    record "Assignment" [("target", target.outline), ("value", value.outline)]⟩

def assignments : Reader (List Shown) := commaSeparated (assignment L)

def showClauses (clauses : List Shown) : String := commaList (clauses.map (·.text))

def where? : Reader (Option Expr) := option (keyword "WHERE") L.anyExpr

def showWhere (filter : Option Expr) : String := showOption " WHERE " "" filter

def returning? : Reader (Option (List Item)) := option (keyword "RETURNING") (items L)

def showReturning (returning : Option (List Item)) : String :=
  (returning.map fun items => " RETURNING " ++ commaList (showItems items)).getD ""

def outlineReturning (returning : Option (List Item)) : String :=
  optional (returning.map fun items => listed (outlineItems items))

/-- Whether a query in parentheses comes. -/
def startsSubquery : List Lexeme → Bool
  | ⟨.symbol "(", _, _⟩ :: l :: _ => l.token.isKeyword "SELECT"
  | _ => false

def conflictTarget? : Reader (Option Shown) := do
  if ← keywords ["ON", "CONSTRAINT"] then
    let name ← objectName
    return some ⟨" ON CONSTRAINT " ++ showName name, tuple "OnConstraint" [outlineName name]⟩
  else if ← peekSymbol "(" then
    let columns ← identList
    return some ⟨"(" ++ showIdents columns ++ ")", tuple "Columns" [outlineIdents columns]⟩
  else return none

def conflictAction : Reader Shown := do
  if ← keyword "NOTHING" then return ⟨"DO NOTHING", "DoNothing"⟩
  else
    expectKeywords ["UPDATE", "SET"]
    let changes ← assignments L
    let filter ← where? L
    return ⟨"DO UPDATE SET " ++ showClauses changes ++ showWhere filter,
      tuple "DoUpdate" [record "DoUpdate" [("assignments", outlineClauses changes),
        ("selection", outlineOption filter)]]⟩

/-- What is done with a row that is there already. -/
def conflict? : Reader (Option Shown) := do
  if ← keyword "ON" then
    if ← keyword "CONFLICT" then
      let target ← conflictTarget?
      expectKeyword "DO"
      let action ← conflictAction L
      return some ⟨"ON CONFLICT" ++ ((target.map (·.text)).getD "") ++ " " ++ action.text,
        tuple "OnConflict" [record "OnConflict" [("conflict_target", outlineShown target),
          ("action", action.outline)]]⟩
    else
      expectKeywords ["DUPLICATE", "KEY", "UPDATE"]
      let changes ← assignments L
      return some ⟨"ON DUPLICATE KEY UPDATE " ++ showClauses changes,
        tuple "DuplicateKeyUpdate" [outlineClauses changes]⟩
  else return none

/-- The rows to insert: a query with the columns and the part that it fills, or default values. -/
structure InsertSource where
  columns : List Ident
  part : Option (List Expr)
  query : Option Query

def InsertSource.show (source : InsertSource) : String :=
  match source.query with
  | none => "DEFAULT VALUES"
  | some query =>
    (if source.columns.isEmpty then "" else "(" ++ showIdents source.columns ++ ") ") ++
      (source.part.map fun part => "PARTITION (" ++ commaList (showExprs part) ++ ") ").getD "" ++
      query.show

def insertSource : Reader InsertSource := do
  if ← keywords ["DEFAULT", "VALUES"] then return ⟨[], none, none⟩
  else
    let (columns, part) ← if startsSubquery (← get) then pure ([], none) else do
      let columns ← if ← peekSymbol "(" then identList else pure []
      pure (columns, ← option (keyword "PARTITION") (parenthesized L.exprs))
    return ⟨columns, part, some (← L.query)⟩

/-- What is done with a row that breaks a constraint. -/
def breach? : Reader (Option Shown) := do
  for (word, name) in [("REPLACE", "Replace"), ("ROLLBACK", "Rollback"), ("ABORT", "Abort"),
      ("FAIL", "Fail"), ("IGNORE", "Ignore")] do
    if ← keywords ["OR", word] then return some ⟨"OR " ++ word, name⟩
  if ← keyword "REPLACE" then return some ⟨"OR REPLACE", "Replace"⟩ else return none

/-- The formats that a stored file may have. -/
def fileFormat : Reader String :=
  expectOneOf ["AVRO", "JSONFILE", "ORC", "PARQUET", "RCFILE", "SEQUENCEFILE", "TEXTFILE"]

/-- Rows that are written to files, behind the keyword. -/
def directoryInsertion (overwrite isLocal : Bool) : Reader Shown := do
  let path ← literalString
  let format ← option (keywords ["STORED", "AS"]) fileFormat
  let query ← L.query
  return ⟨"INSERT" ++ (if overwrite then " OVERWRITE" else "") ++ (if isLocal then " LOCAL" else "") ++
      " DIRECTORY '" ++ path ++ "'" ++ (format.map (" STORED AS " ++ ·)).getD "" ++ " " ++ query.show,
    record "Directory" [("overwrite", bool overwrite), ("local", bool isLocal),
      ("path", Text.report path), ("file_format", optional format), ("source", query.outline)]⟩

/-- Rows that are put into a table, behind what is done with rows that break a constraint. -/
def tableInsertion (breach : Option Shown) (overwrite into : Bool) : Reader Shown := do
  let isTable ← keyword "TABLE"
  let name ← objectName
  let a ← option (keyword "AS") identifier
  let source ← insertSource L
  let conflict ← conflict? L
  let returning ← returning? L
  let head := match breach with
    | some clause => "INSERT " ++ clause.text ++ " INTO "
    | none => "INSERT" ++ (if overwrite then " OVERWRITE" else "") ++ (if into then " INTO" else "") ++
        (if isTable then " TABLE" else "") ++ " "
  return ⟨head ++ showName name ++ (a.map fun i => " AS " ++ i.show).getD "" ++ " " ++ source.show ++
      showSpaced conflict ++ showReturning returning,
    tuple "Insert" [record "Insert" [("or", outlineShown breach), ("ignore", bool false),
      ("into", bool into), ("table_name", outlineName name),
      ("table_alias", optional (a.map Ident.outline)), ("columns", outlineIdents source.columns),
      ("overwrite", bool overwrite), ("source", optional (source.query.map Query.outline)),
      ("partitioned", optional (source.part.map fun part => listed (outlineExprs part))),
      ("after_columns", listed []), ("table", bool isTable), ("on", outlineShown conflict),
      ("returning", outlineReturning returning), ("replace_into", bool false),
      ("priority", optional none), ("insert_alias", optional none)]]⟩

/-- An insertion, behind its first keyword. -/
def insertion : Reader Shown := do
  let breach ← breach?
  let overwrite ← keyword "OVERWRITE"
  let into ← keyword "INTO"
  let isLocal ← keyword "LOCAL"
  if ← keyword "DIRECTORY" then directoryInsertion L overwrite isLocal
  else tableInsertion L breach overwrite into

/-- An update, behind its first keyword. -/
def update : Reader Shown := do
  let breach ← breach?
  let table ← L.tableItem
  expectKeyword "SET"
  let changes ← assignments L
  let source ← option (keyword "FROM") L.tableItem
  let filter ← where? L
  let returning ← returning? L
  return ⟨"UPDATE " ++ (breach.map (·.text ++ " ")).getD "" ++ table.show ++ " SET " ++
      showClauses changes ++ (source.map fun t => " FROM " ++ t.show).getD "" ++ showWhere filter ++
      showReturning returning,
    record "Update" [("table", table.outline), ("assignments", outlineClauses changes),
      ("from", optional (source.map TableItem.outline)), ("selection", outlineOption filter),
      ("returning", outlineReturning returning), ("or", outlineShown breach)]⟩

/-- A deletion, behind its first keyword. -/
def deletion : Reader String := do
  let tables ← if ← keyword "FROM" then pure [] else do
    let names ← commaSeparated objectName
    expectKeyword "FROM"
    pure names
  let sources ← commaSeparated L.tableItem
  let usedTables ← option (keyword "USING") (commaSeparated L.tableItem)
  let filter ← where? L
  let returning ← returning? L
  let order ← orderBy? L
  let hasLimit ← keyword "LIMIT"
  let noLimit ← if hasLimit then keyword "ALL" else pure true
  let limit ← option (pure !noLimit) L.anyExpr
  return "DELETE " ++ (if tables.isEmpty then "" else commaList (tables.map showName) ++ " ") ++
    "FROM " ++ commaList (showTableItems sources) ++
    (usedTables.map fun ts => " USING " ++ commaList (showTableItems ts)).getD "" ++
    showWhere filter ++ showReturning returning ++
    (if order.isEmpty then "" else " ORDER BY " ++ commaList (showOrder order)) ++
    showOption " LIMIT " "" limit

end LogicalSql.Surface.Reader
