import LogicalSql.Surface.Reader.Alter

/-! Transactions and the variables of a session, kept as their normalized text. -/
namespace LogicalSql.Surface.Reader

variable (L : Level)

def isolationLevel : Reader String := do
  if ← keywords ["READ", "UNCOMMITTED"] then return "READ UNCOMMITTED"
  else if ← keywords ["READ", "COMMITTED"] then return "READ COMMITTED"
  else if ← keywords ["REPEATABLE", "READ"] then return "REPEATABLE READ"
  else
    expectKeyword "SERIALIZABLE"
    return "SERIALIZABLE"

def transactionMode? : Reader (Option String) := do
  if ← keywords ["ISOLATION", "LEVEL"] then return some ("ISOLATION LEVEL " ++ (← isolationLevel))
  else if ← keywords ["READ", "ONLY"] then return some "READ ONLY"
  else if ← keywords ["READ", "WRITE"] then return some "READ WRITE"
  else return none

def transactionModesLoop : Nat → Bool → Reader (List String)
  | 0, _ => return []
  | n + 1, required => do
    match ← transactionMode? with
    | some mode =>
      let comma ← symbol ","
      return mode :: (← transactionModesLoop n comma)
    | none => if required then fail else return []

/-- Modes with or without commas between them. A mode must follow a comma. -/
def transactionModes : Reader String := do
  let modes ← transactionModesLoop ((← get).length + 1) false
  return if modes.isEmpty then "" else " " ++ commaList modes

def chainClause : Reader String := do
  let _ ← oneOf? ["TRANSACTION", "WORK"]
  if ← keyword "AND" then
    let negated ← keyword "NO"
    expectKeyword "CHAIN"
    return if negated then "" else " AND CHAIN"
  else return ""

def beginText : Reader String := do
  let word ← oneOf? ["TRANSACTION", "WORK"]
  return "BEGIN" ++ behind " " word ++ (← transactionModes)

def rollbackText : Reader String := do
  let chain ← chainClause
  let savepoint ← option (keyword "TO") do
    let _ ← keyword "SAVEPOINT"
    identifier
  return "ROLLBACK" ++ chain ++ behind " TO SAVEPOINT " (savepoint.map Ident.show)

/-- A value for a variable, which may be a query without parentheses. -/
def variableValue : Reader Expr := do
  if ← peekQuery then return .subquery (← L.query) else L.anyExpr

def setRole (place : Option String) : Reader String := do
  let role ← if ← keyword "NONE" then pure "NONE" else pure (← identifier).show
  return "SET" ++ behind " " place ++ " ROLE " ++ role

/-- A setting that needs no equals sign, by the name of the variable as it is written. -/
def setUnassigned (name : String) (place : Option String) : Reader String := do
  if name.map Char.toUpper = "TIMEZONE" then
    return "SET " ++ (if place = some "LOCAL" then "LOCAL " else "") ++ "TIME ZONE " ++
      (← L.anyExpr).show
  else if name = "CHARACTERISTICS" then
    expectKeywords ["AS", "TRANSACTION"]
    return "SET SESSION CHARACTERISTICS AS TRANSACTION" ++ (← transactionModes)
  else if name = "TRANSACTION" && place.isNone then
    if ← keyword "SNAPSHOT" then return "SET TRANSACTION SNAPSHOT " ++ (← constant).show
    else return "SET TRANSACTION" ++ (← transactionModes)
  else fail

/-- A variable and its values, behind the words that say for how long. -/
def setVariable (place : Option String) : Reader String := do
  let name ← if ← keywords ["TIME", "ZONE"] then pure "TIMEZONE" else pure (showName (← objectName))
  let assigned ← if ← symbol "=" then pure true else keyword "TO"
  if assigned then
    let values ← commaSeparated (variableValue L)
    return "SET " ++ (if place = some "LOCAL" then "LOCAL " else "") ++
      (if place = some "HIVEVAR" then "HIVEVAR:" else "") ++ name ++ " = " ++
      commaList (showExprs values)
  else setUnassigned L name place

/-- A change to the session, behind its first keyword. -/
def setText : Reader String := do
  let place ← oneOf? ["SESSION", "LOCAL", "HIVEVAR"]
  if place = some "HIVEVAR" then
    expectSymbol ":"
    setVariable L place
  else
    match ← attempt (do
      expectKeyword "ROLE"
      setRole place) with
    | some text => return text
    | none => setVariable L place

end LogicalSql.Surface.Reader
