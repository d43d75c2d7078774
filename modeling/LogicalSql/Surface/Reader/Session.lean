import LogicalSql.Surface.Reader.Merge

/-! Statements about a session: prepared statements, cursors, notifications, comments and the like,
kept as their normalized text. -/
namespace LogicalSql.Surface.Reader

variable (L : Level)

/-- A call needs no arguments. -/
def callText : Reader String := do
  let name ← objectName
  if ← peekSymbol "(" then return "CALL " ++ (← callOf L name).show
  else return "CALL " ++ showName name

def killText : Reader String := do
  let kind ← oneOf? ["CONNECTION", "QUERY"]
  return "KILL " ++ (kind.map (· ++ " ")).getD "" ++ toString (← natural)

def assertText : Reader String := do
  let condition ← L.anyExpr
  let message ← option (keyword "AS") L.anyExpr
  return "ASSERT " ++ condition.show ++ showOption " AS " "" message

def deallocateText : Reader String := do
  let prepared ← textIf "PREPARE" "PREPARE "
  return "DEALLOCATE " ++ prepared ++ (← identifier).show

def prepareText : Reader String := do
  let name ← identifier
  let types ← if ← peekSymbol "(" then parenthesized (commaSeparated dataType) else pure []
  expectKeyword "AS"
  let statement ← L.statement
  return "PREPARE " ++ name.show ++ " " ++
    (if types.isEmpty then "" else "(" ++ commaList (types.map DataType.show) ++ ") ") ++ "AS " ++
    statement.show

/-- Parameters stand in parentheses or bare. -/
def executeText : Reader String := do
  let name ← objectName
  let parameters ← do
    if ← peekSymbol "(" then pure (showRow (← rowOf L))
    else if (← get).isEmpty || (← peekSymbol ";") || (← peekKeyword "USING") then pure ""
    else pure (" " ++ commaList (showExprs (← L.exprs)))
  let values ← if ← keyword "USING" then L.exprs else pure []
  return "EXECUTE " ++ showName name ++ parameters ++ showListed " USING " (showExprs values)

def notifyText : Reader String := do
  let channel ← identifier
  return "NOTIFY " ++ channel.show ++ behind ", " (← option (symbol ",") bareString)

def unlistenText : Reader String := do
  if ← symbol "*" then return "UNLISTEN *" else return "UNLISTEN " ++ (← identifier).show

def discardText : Reader String := do
  match ← expectOneOf ["ALL", "PLANS", "SEQUENCES", "TEMP", "TEMPORARY"] with
  | "TEMPORARY" => return "DISCARD TEMP"
  | word => return "DISCARD " ++ word

def declareText : Reader String := do
  let name ← identifier
  let binary ← textIf "BINARY" " BINARY"
  let sensitive := ((← oneOf? ["INSENSITIVE", "ASENSITIVE"]).map (" " ++ ·)).getD ""
  let scroll ← do
    if ← keyword "SCROLL" then pure " SCROLL"
    else if ← keywords ["NO", "SCROLL"] then pure " NO SCROLL"
    else pure ""
  expectKeyword "CURSOR"
  let hold ← match ← oneOf? ["WITH", "WITHOUT"] with
    | some word => do
      expectKeyword "HOLD"
      pure (" " ++ word ++ " HOLD")
    | none => pure ""
  expectKeyword "FOR"
  let query ← L.query
  return "DECLARE " ++ name.show ++ binary ++ sensitive ++ scroll ++ " CURSOR" ++ hold ++ " FOR " ++
    query.show

/-- Which way and how far a cursor moves. -/
def cursorDirection : Reader String := do
  match ← oneOf? ["NEXT", "PRIOR", "FIRST", "LAST", "ABSOLUTE", "RELATIVE", "FORWARD", "BACKWARD",
      "ALL"] with
  | none => return (← numberValue).show
  | some word =>
    if ["ABSOLUTE", "RELATIVE"].contains word then return word ++ " " ++ (← numberValue).show
    else if ["FORWARD", "BACKWARD"].contains word then
      if ← keyword "ALL" then return word ++ " ALL" else return word ++ " " ++ (← numberValue).show
    else return word

def fetchText : Reader String := do
  let direction ← cursorDirection
  let _ ← expectOneOf ["FROM", "IN"]
  let name ← identifier
  let into ← option (keyword "INTO") objectName
  return "FETCH " ++ direction ++ " IN " ++ name.show ++ behind " INTO " (into.map showName)

def closeText : Reader String := do
  if ← keyword "ALL" then return "CLOSE ALL" else return "CLOSE " ++ (← identifier).show

def commentText : Reader String := do
  let condition ← ifExists
  expectKeyword "ON"
  let kind ← expectOneOf ["COLUMN", "TABLE", "EXTENSION", "SCHEMA", "DATABASE", "USER", "ROLE"]
  let name ← objectName
  expectKeyword "IS"
  let comment ← if ← keyword "NULL" then pure "NULL" else bareString
  return "COMMENT " ++ condition ++ "ON " ++ kind ++ " " ++ showName name ++ " IS " ++ comment

/-- A value that a pragma may have. -/
def pragmaValue : Reader String := do
  match ← constant with
  | .null | .boolean _ | .styled _ _ => fail
  | value => return value.show

def pragmaText : Reader String := do
  let name ← objectName
  if ← peekSymbol "(" then return "PRAGMA " ++ showName name ++ "(" ++ (← parenthesized pragmaValue) ++ ")"
  else return "PRAGMA " ++ showName name ++ behind " = " (← option (symbol "=") pragmaValue)

def attachText : Reader String := do
  let database ← textIf "DATABASE" "DATABASE "
  let file ← L.anyExpr
  expectKeyword "AS"
  return "ATTACH " ++ database ++ file.show ++ " AS " ++ (← identifier).show

end LogicalSql.Surface.Reader
