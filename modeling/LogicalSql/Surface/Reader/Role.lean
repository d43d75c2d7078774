import LogicalSql.Surface.Reader.Routine

/-! Statements about roles, what they may do, and policies for them, kept as their normalized text. -/
namespace LogicalSql.Surface.Reader

variable (L : Level)

/-- Properties that a role has or has not, in the order in which they are shown. -/
def roleFlags : List String := [
  "SUPERUSER", "CREATEDB", "CREATEROLE", "INHERIT", "LOGIN", "REPLICATION", "BYPASSRLS"]

/-- A property of a role, or its absence: the property and the word that was read. -/
def roleFlag? : Reader (Option (String × String)) := do
  match ← oneOf? (roleFlags ++ roleFlags.map ("NO" ++ ·)) with
  | some word => return some ((roleFlags.find? fun flag => "NO" ++ flag == word).getD word, word)
  | none => return none

def password : Reader String := do
  if ← keyword "NULL" then return "PASSWORD NULL" else return "PASSWORD " ++ (← constant).show

/-- A clause about a role: what it is about, and its text. -/
def roleClause? : Reader (Option (String × String)) := do
  match ← roleFlag? with
  | some flag => return some flag
  | none =>
    match ← oneOf? ["CONNECTION", "PASSWORD", "VALID"] with
    | some "CONNECTION" =>
      expectKeyword "LIMIT"
      return some ("CONNECTION", "CONNECTION LIMIT " ++ (← numberValue).show)
    | some "PASSWORD" => return some ("PASSWORD", ← password)
    | some _ =>
      expectKeyword "UNTIL"
      return some ("VALID", "VALID UNTIL " ++ (← constant).show)
    | none => return none

/-- A clause about the members of a role or the roles it is a member of. -/
def membershipClause? : Reader (Option (String × String)) := do
  match ← oneOf? ["IN", "ROLE", "USER", "ADMIN"] with
  | some "IN" =>
    let kind ← expectOneOf ["ROLE", "GROUP"]
    return some ("IN " ++ kind, "IN " ++ kind ++ " " ++ showIdents (← idents))
  | some word => return some (word, word ++ " " ++ showIdents (← idents))
  | none => return none

/-- Clauses about a new role, each at most once. -/
def roleClausesLoop : Nat → List (String × String) → Reader (List (String × String))
  | 0, found => return found
  | n + 1, found => do
    let clause ← match ← roleClause? with
      | some clause => pure (some clause)
      | none => membershipClause?
    match clause with
    | some (subject, text) =>
      if (found.lookup subject).isSome then fail else roleClausesLoop n ((subject, text) :: found)
    | none => return found

def createRole : Reader String := do
  let condition ← ifNotExists
  let names ← names
  let _ ← keyword "WITH"
  let clauses ← roleClausesLoop (← get).length []
  let subjects := roleFlags ++
    ["CONNECTION", "PASSWORD", "VALID", "IN ROLE", "IN GROUP", "ROLE", "USER", "ADMIN"]
  return "CREATE ROLE " ++ condition ++ showNames names ++
    String.join ((subjects.filterMap fun subject => clauses.lookup subject).map (" " ++ ·))

/-- A value for a setting of a role. -/
def roleSetting : Reader String := do
  let name ← objectName
  if ← keywords ["FROM", "CURRENT"] then return "SET " ++ showName name ++ " FROM CURRENT"
  else
    if !(← symbol "=") then expectKeyword "TO"
    if ← keyword "DEFAULT" then return "SET " ++ showName name ++ " TO DEFAULT"
    else return "SET " ++ showName name ++ " TO " ++ (← L.anyExpr).show

def alterRole : Reader String := do
  let role ← identifier
  let database ← if ← keywords ["IN", "DATABASE"] then objectNameOrSkip else pure none
  let place := (database.map fun name => "IN DATABASE " ++ showName name ++ " ").getD ""
  let change ← do
    if ← keyword "RENAME" then do
      expectKeyword "TO"
      pure ("RENAME TO " ++ (← identifier).show)
    else if ← keyword "SET" then pure (place ++ (← roleSetting L))
    else if ← keyword "RESET" then do
      if ← keyword "ALL" then pure (place ++ "RESET ALL")
      else pure (place ++ "RESET " ++ showName (← objectName))
    else do
      let _ ← keyword "WITH"
      let clauses ← many (return (← attempt roleClause?).join)
      if clauses.isEmpty then fail
      else pure ("WITH " ++ " ".intercalate (clauses.map (·.2)))
  return "ALTER ROLE " ++ role.show ++ " " ++ change

def owner : Reader String := do
  match ← oneOf? ["CURRENT_USER", "CURRENT_ROLE", "SESSION_USER"] with
  | some word => return word
  | none => return (← identifier).show

/-- Who a policy is for, and the conditions it sets. -/
def policyTerms : Reader String := do
  let owners ← option (keyword "TO") (commaSeparated owner)
  let filter ← option (keyword "USING") (parenthesized L.anyExpr)
  let check ← option (keywords ["WITH", "CHECK"]) (parenthesized L.anyExpr)
  return behind " TO " (owners.map commaList) ++ showOption " USING (" ")" filter ++
    showOption " WITH CHECK (" ")" check

def createPolicy : Reader String := do
  let name ← identifier
  expectKeyword "ON"
  let table ← objectName
  let kind ← option (keyword "AS") (expectOneOf ["PERMISSIVE", "RESTRICTIVE"])
  let command ← option (keyword "FOR") (expectOneOf ["ALL", "SELECT", "INSERT", "UPDATE", "DELETE"])
  return "CREATE POLICY " ++ name.show ++ " ON " ++ showName table ++ behind " AS " kind ++
    behind " FOR " command ++ (← policyTerms L)

def alterPolicy : Reader String := do
  let name ← identifier
  expectKeyword "ON"
  let table ← objectName
  let change ← if ← keyword "RENAME" then do
      expectKeyword "TO"
      pure (" RENAME TO " ++ (← identifier).show)
    else policyTerms L
  return "ALTER POLICY " ++ name.show ++ " ON " ++ showName table ++ change

def dropPolicy : Reader String := do
  let condition ← ifExists
  let name ← identifier
  expectKeyword "ON"
  let table ← objectName
  return "DROP POLICY " ++ condition ++ name.show ++ " ON " ++ showName table ++
    behind " " (← oneOf? ["CASCADE", "RESTRICT"])

/-- Something that may be done, perhaps to some columns only. -/
def privilege : Reader String := do
  let word ← expectOneOf ["CONNECT", "CREATE", "DELETE", "EXECUTE", "INSERT", "REFERENCES", "SELECT",
    "TEMPORARY", "TRIGGER", "TRUNCATE", "UPDATE", "USAGE"]
  if ["INSERT", "REFERENCES", "SELECT", "UPDATE"].contains word then
    return word ++ inParens " " ((← optionalColumns).map Ident.show)
  else return word

def privileges : Reader String := do
  if ← keyword "ALL" then return "ALL" ++ (← textIf "PRIVILEGES" " PRIVILEGES")
  else return commaList (← commaSeparated privilege)

/-- What privileges are on. -/
def grantedObjects : Reader String := do
  if ← keywords ["ALL", "TABLES", "IN", "SCHEMA"] then
    return "ALL TABLES IN SCHEMA " ++ showNames (← names)
  else if ← keywords ["ALL", "SEQUENCES", "IN", "SCHEMA"] then
    return "ALL SEQUENCES IN SCHEMA " ++ showNames (← names)
  else
    match ← oneOf? ["SEQUENCE", "SCHEMA", "TABLE"] with
    | some "SEQUENCE" => return "SEQUENCE " ++ showNames (← names)
    | some "SCHEMA" => return "SCHEMA " ++ showNames (← names)
    | _ => return showNames (← names)

def grantedBy : Reader String :=
  return behind " GRANTED BY " ((← option (keywords ["GRANTED", "BY"]) identifier).map Ident.show)

def grantText : Reader String := do
  let privileges ← privileges
  expectKeyword "ON"
  let objects ← grantedObjects
  expectKeyword "TO"
  let grantees ← idents
  let more ← if ← keywords ["WITH", "GRANT", "OPTION"] then pure " WITH GRANT OPTION" else pure ""
  return "GRANT " ++ privileges ++ " ON " ++ objects ++ " TO " ++ showIdents grantees ++ more ++
    (← grantedBy)

/-- Nothing else is revoked with it unless this is said. -/
def revokeText : Reader String := do
  let privileges ← privileges
  expectKeyword "ON"
  let objects ← grantedObjects
  expectKeyword "FROM"
  let grantees ← idents
  let grantor ← grantedBy
  let cascade ← keyword "CASCADE"
  let restrict ← keyword "RESTRICT"
  if cascade && restrict then fail
  else return "REVOKE " ++ privileges ++ " ON " ++ objects ++ " FROM " ++ showIdents grantees ++
    grantor ++ if cascade then " CASCADE" else " RESTRICT"

end LogicalSql.Surface.Reader
