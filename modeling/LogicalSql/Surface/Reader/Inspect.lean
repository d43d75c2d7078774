import LogicalSql.Surface.Reader.Transaction

/-! Statements that ask about plans, tables and settings, kept as their normalized text. -/
namespace LogicalSql.Surface.Reader

variable (L : Level)

/-- A pattern or a condition that limits what is listed. A pattern behind `ILIKE` is shown without
the quotes around it. -/
def listFilter : Reader String := do
  if ← keyword "LIKE" then return " LIKE " ++ (← quotedString)
  else if ← keyword "ILIKE" then
    let pattern ← literalString
    return " ILIKE " ++ String.ofList (escapeQuotes '\'' (Char.ofNat 0) pattern.toList)
  else if ← keyword "WHERE" then return " WHERE " ++ (← L.anyExpr).show
  else return behind " " (← attempt quotedString)

/-- Where the listed things are. A second place stands in front of the first one. -/
def listPlace : Reader String := do
  match ← oneOf? ["FROM", "IN"] with
  | none => return ""
  | some clause =>
    match ← oneOf? ["ACCOUNT", "DATABASE", "SCHEMA", "TABLE", "VIEW"] with
    | some kind =>
      let ls ← get
      let nameless := (kind = "DATABASE" || kind = "SCHEMA") &&
        (startsWith ["STARTS", "WITH"] ls || startsWith ["LIMIT"] ls)
      let name ← if nameless then pure none else attempt objectName
      return " " ++ clause ++ " " ++ kind ++ behind " " (name.map showName)
    | none =>
      let name ← objectName
      let outer ← option (return (← oneOf? ["FROM", "IN"]).isSome) identifier
      return " " ++ clause ++ " " ++ showName (outer.toList ++ name)

/-- The clauses behind a list. The filter is shown last. -/
def listClauses : Reader String := do
  let place ← listPlace
  let filter ← listFilter L
  let first ← option (keywords ["STARTS", "WITH"]) constant
  let limited ← keyword "LIMIT"
  let limit ← if limited then do
      if ← keyword "ALL" then pure none else pure (some (← L.anyExpr))
    else pure none
  let start ← option (keyword "FROM") constant
  return place ++ behind " STARTS WITH " (first.map Constant.show) ++ showOption " LIMIT " "" limit ++
    behind " FROM " (start.map Constant.show) ++ filter

def variableWordsLoop : Nat → Reader (List String)
  | 0 => return []
  | n + 1 => do
    match ← get with
    | [] | ⟨.symbol "=", _, _⟩ :: _ => return []
    | ⟨.word text quote, extent, _⟩ :: ls =>
      set ls
      return (Ident.mk text quote extent).show :: (← variableWordsLoop n)
    | _ :: ls =>
      set ls
      variableWordsLoop n

/-- All the words up to an equals sign, whatever stands between them. -/
def variableWords : Reader String := do
  return " ".intercalate ("SHOW" :: (← variableWordsLoop (← get).length))

/-- A question about the server that no flag for lists goes with. -/
def showOther (terse : String) : Reader String := do
  if ← keyword "CREATE" then
    let kind ← expectOneOf ["TABLE", "TRIGGER", "FUNCTION", "PROCEDURE", "EVENT", "VIEW"]
    return "SHOW CREATE " ++ kind ++ " " ++ showName (← objectName)
  else if ← keyword "COLLATION" then return "SHOW COLLATION" ++ (← listFilter L)
  else
    let _ ← keyword "VARIABLES"
    let _ ← keyword "STATUS"
    match ← oneOf? ["DATABASES", "SCHEMAS"] with
    | some kind =>
      let history ← textIf "HISTORY" " HISTORY"
      return "SHOW " ++ terse ++ kind ++ history ++ (← listClauses L)
    | none => variableWords

/-- A list or a setting, behind its first keyword. -/
def showText : Reader String := do
  let terse ← textIf "TERSE" "TERSE "
  let extended ← textIf "EXTENDED" "EXTENDED "
  let full ← textIf "FULL" "FULL "
  let _ ← keyword "SESSION"
  let _ ← keyword "GLOBAL"
  let outside ← textIf "EXTERNAL" "EXTERNAL "
  if (← oneOf? ["COLUMNS", "FIELDS"]).isSome then
    return "SHOW " ++ extended ++ full ++ "COLUMNS" ++ (← listClauses L)
  else if ← keyword "TABLES" then
    let history ← if outside.isEmpty then textIf "HISTORY" " HISTORY" else pure ""
    return "SHOW " ++ terse ++ extended ++ full ++ outside ++ "TABLES" ++ history ++ (← listClauses L)
  else if ← keywords ["MATERIALIZED", "VIEWS"] then
    return "SHOW " ++ terse ++ "MATERIALIZED VIEWS" ++ (← listClauses L)
  else if ← keyword "VIEWS" then return "SHOW " ++ terse ++ "VIEWS" ++ (← listClauses L)
  else if ← keyword "FUNCTIONS" then return "SHOW FUNCTIONS" ++ (← listFilter L)
  else if extended.isEmpty && full.isEmpty then showOther L terse
  else fail

def explainOption : Reader String := do
  let name ← identifier
  if (← peekSymbol ",") || (← peekSymbol ")") then return name.show
  else return name.show ++ " " ++ (← L.anyExpr).show

/-- What is to be explained, in the order in which it is read and shown. -/
def explainOptions (word : String) : Reader String := do
  if word = "EXPLAIN" && (← peekSymbol "(") then
    return "(" ++ commaList (← parenthesized (commaSeparated (explainOption L))) ++ ") "
  else if ← keywords ["QUERY", "PLAN"] then return "QUERY PLAN "
  else
    let analyze ← textIf "ANALYZE" "ANALYZE "
    let verbose ← textIf "VERBOSE" "VERBOSE "
    let format ← option (keyword "FORMAT") (expectOneOf ["TEXT", "GRAPHVIZ", "JSON"])
    return analyze ++ verbose ++ (format.map fun f => "FORMAT " ++ f ++ " ").getD ""

def explainWords : List String := ["EXPLAIN", "DESCRIBE", "DESC"]

/-- The plan of a statement, or the columns of a table. What explains is not explained itself. -/
def explainText (word : String) : Reader String := do
  let options ← explainOptions L word
  let inner ← peekWord?
  match ← attempt L.statement with
  | some statement =>
    if (inner.map explainWords.contains).getD false then fail
    else return word ++ " " ++ options ++ statement.show
  | none =>
    let format := ((← oneOf? ["EXTENDED", "FORMATTED"]).map (· ++ " ")).getD ""
    return word ++ " " ++ format ++ showName (← objectName)

structure Analysis where
  partitions : List Expr
  compute : Bool
  noScan : Bool
  cache : Bool
  columns : Option (List Ident)

def analysisLoop : Nat → Analysis → Reader Analysis
  | 0, a => return a
  | n + 1, a => do
    match ← oneOf? ["PARTITION", "FOR", "CACHE", "NOSCAN", "COMPUTE"] with
    | some "PARTITION" => analysisLoop n { a with partitions := ← parenthesized L.exprs }
    | some "NOSCAN" => analysisLoop n { a with noScan := true }
    | some "FOR" =>
      expectKeyword "COLUMNS"
      analysisLoop n { a with columns := some ((← attempt idents).getD []) }
    | some "CACHE" =>
      expectKeyword "METADATA"
      analysisLoop n { a with cache := true }
    | some _ =>
      expectKeyword "STATISTICS"
      analysisLoop n { a with compute := true }
    | none => return a

def analyzeText : Reader String := do
  expectKeyword "TABLE"
  let name ← objectName
  let a ← analysisLoop L ((← get).length + 1) ⟨[], false, false, false, none⟩
  return "ANALYZE TABLE " ++ showName name ++ inParens " PARTITION " (showExprs a.partitions) ++
    (if a.compute then " COMPUTE STATISTICS" else "") ++ (if a.noScan then " NOSCAN" else "") ++
    (if a.cache then " CACHE METADATA" else "") ++
    match a.columns with
    | none => ""
    | some [] => " FOR COLUMNS"
    | some columns => " FOR COLUMNS " ++ showIdents columns

end LogicalSql.Surface.Reader
