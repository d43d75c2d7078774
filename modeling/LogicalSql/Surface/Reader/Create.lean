import LogicalSql.Surface.Reader.Role

/-! Statements that create things, kept as their normalized text. -/
namespace LogicalSql.Surface.Reader

variable (L : Level)

def createExtension : Reader String := do
  let condition ← ifNotExists
  let name ← identifier
  let options ← if ← keyword "WITH" then do
      let folder ← option (keyword "SCHEMA") identifier
      let version ← option (keyword "VERSION") identifier
      let cascade ← textIf "CASCADE" " CASCADE"
      pure (behind " SCHEMA " (folder.map Ident.show) ++ behind " VERSION " (version.map Ident.show) ++
        cascade)
    else pure ""
  return "CREATE EXTENSION " ++ condition ++ name.show ++
    if options.isEmpty then "" else " WITH" ++ options

/-- A schema has a name, an owner or both. -/
def createSchema : Reader String := do
  let condition ← ifNotExists
  let ownerName : Reader String := return "AUTHORIZATION " ++ (← identifier).show
  if ← keyword "AUTHORIZATION" then return "CREATE SCHEMA " ++ condition ++ (← ownerName)
  else
    let name ← objectName
    return "CREATE SCHEMA " ++ condition ++ showName name ++
      behind " " (← option (keyword "AUTHORIZATION") ownerName)

def locationsLoop : Nat → Option String × Option String → Reader (Option String × Option String)
  | 0, found => return found
  | n + 1, (location, managed) => do
    match ← oneOf? ["LOCATION", "MANAGEDLOCATION"] with
    | some "LOCATION" => locationsLoop n (some (← bareString), managed)
    | some _ => locationsLoop n (location, some (← bareString))
    | none => return (location, managed)

def createDatabase : Reader String := do
  let condition ← ifNotExists
  let name ← objectName
  let (location, managed) ← locationsLoop (← get).length (none, none)
  return "CREATE DATABASE " ++ condition ++ showName name ++ behind " LOCATION " location ++
    behind " MANAGEDLOCATION " managed

def createSequence (start : String) : Reader String := do
  let condition ← ifNotExists
  let name ← objectName
  let type ← option (keyword "AS") dataType
  let options ← sequenceOptions
  let owned ← option (keywords ["OWNED", "BY"]) do
    if ← keyword "NONE" then return "NONE" else return showName (← objectName)
  return start ++ "SEQUENCE " ++ condition ++ showName name ++ behind " AS " (type.map DataType.show) ++
    options ++ behind " OWNED BY " owned

def typeAttribute : Reader String := do
  let name ← identifier
  let type ← dataType
  let collation ← option (keyword "COLLATE") objectName
  return name.show ++ " " ++ type.show ++ behind " COLLATE " (collation.map showName)

def attributesLoop : Nat → Reader (List String)
  | 0 => fail
  | n + 1 => do
    let first ← typeAttribute
    let comma ← symbol ","
    if ← symbol ")" then return [first]
    else if comma then return first :: (← attributesLoop n)
    else fail

/-- A type of attributes or, if it may be one, of labels. A comma may stand behind the last
attribute. -/
def createType (labelled : Bool) : Reader String := do
  let name ← objectName
  expectKeyword "AS"
  let start := "CREATE TYPE " ++ showName name ++ " AS "
  let isEnum ← if labelled then keyword "ENUM" else pure false
  if isEnum then
    let labels ← parenthesized do if ← peekSymbol ")" then pure [] else idents
    return start ++ "ENUM (" ++ showIdents labels ++ ")"
  else if ← symbol "(" then
    let attributes ← if ← symbol ")" then pure [] else attributesLoop (← get).length
    return start ++ "(" ++ commaList attributes ++ ")"
  else return start ++ "()"

def secretOption : Reader String := do
  let key ← identifier
  return key.show ++ " " ++ (← identifier).show

/-- The name of a secret and where it is kept. Either may be passed over. -/
def secretName : Reader (Option Ident × Option Ident) := do
  let storageBehind (name : Option Ident) : Reader (Option Ident × Option Ident) := do
    if ← keyword "IN" then return (name, ← identifierOrSkip) else return (name, none)
  if ← keyword "IN" then
    match ← identifierOrSkip with
    | some storage => return (none, some storage)
    | none => storageBehind none
  else storageBehind (← identifierOrSkip)

def createSecret (start : String) : Reader String := do
  let condition ← ifNotExists
  let (name, storage) ← if ← peekSymbol "(" then pure (none, none) else secretName
  expectSymbol "("
  expectKeyword "TYPE"
  let type ← identifier
  let options ← if ← symbol "," then commaSeparated secretOption else pure []
  expectSymbol ")"
  return start ++ "SECRET " ++ condition ++ (name.map fun i => i.show ++ " ").getD "" ++
    (storage.map fun i => "IN " ++ i.show ++ " ").getD "" ++ "( TYPE " ++ type.show ++
    (if options.isEmpty then "" else ", " ++ commaList options) ++ " )"

/-- What cannot replace anything. `plain` says that no other word stood in front. -/
def createPlain (temporary alter plain : Bool) : Reader String := do
  if ← keyword "EXTENSION" then createExtension
  else if ← keyword "INDEX" then createIndex L "CREATE "
  else if ← keywords ["UNIQUE", "INDEX"] then createIndex L "CREATE UNIQUE "
  else if ← keyword "VIRTUAL" then virtualTable
  else if ← keyword "SCHEMA" then createSchema
  else if ← keyword "DATABASE" then createDatabase
  else if ← keyword "ROLE" then createRole
  else if ← keyword "SEQUENCE" then
    createSequence ("CREATE " ++ if temporary then "TEMPORARY " else "")
  else if ← keyword "TYPE" then createType plain
  else
    expectKeyword "PROCEDURE"
    createProcedure L ("CREATE " ++ if alter then "OR ALTER " else "")

/-- A creation, behind its first keyword. -/
def createText : Reader String := do
  let replace ← keywords ["OR", "REPLACE"]
  let alter ← keywords ["OR", "ALTER"]
  let isLocal ← keyword "LOCAL"
  let isGlobal ← keyword "GLOBAL"
  let transient ← textIf "TRANSIENT" "TRANSIENT "
  let temporary := (← oneOf? ["TEMP", "TEMPORARY"]).isSome
  let start := "CREATE " ++ if replace then "OR REPLACE " else ""
  let temporaryText := if temporary then "TEMPORARY " else ""
  let scope := if isGlobal then "GLOBAL " else if isLocal then "LOCAL " else ""
  if ← keyword "TABLE" then createTable L (start ++ scope ++ temporaryText ++ transient)
  else if ← keyword "MATERIALIZED" then
    expectKeyword "VIEW"
    createView L (start ++ "MATERIALIZED " ++ temporaryText)
  else if ← keyword "VIEW" then createView L (start ++ temporaryText)
  else if ← keyword "POLICY" then createPolicy L
  else if ← keyword "EXTERNAL" then createExternalTable L start
  else if ← keyword "FUNCTION" then createFunction L (start ++ temporaryText)
  else if ← keyword "TRIGGER" then createTrigger L start
  else if ← keywords ["CONSTRAINT", "TRIGGER"] then createTrigger L (start ++ "CONSTRAINT ")
  else if ← keyword "SECRET" then createSecret (start ++ temporaryText)
  else if replace then fail
  else
    let plain := !alter && !isLocal && !isGlobal && !temporary && transient.isEmpty
    createPlain L temporary alter plain

end LogicalSql.Surface.Reader
