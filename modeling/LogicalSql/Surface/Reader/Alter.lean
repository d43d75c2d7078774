import LogicalSql.Surface.Reader.Create

/-! Statements that change what tables, views, indexes, roles and policies are, kept as their
normalized text. -/
namespace LogicalSql.Surface.Reader

variable (L : Level)

/-- A part of a table, by the values of its columns. -/
def partitionOf : Reader String :=
  return "PARTITION (" ++ commaList (showExprs (← parenthesized L.exprs)) ++ ")"

def added : Reader String := do
  match ← namedTableConstraint? L with
  | some text => return "ADD " ++ text
  | none =>
    let early ← ifNotExists
    let parts ← many (option (keyword "PARTITION") (partitionOf L))
    if !parts.isEmpty then return "ADD " ++ early ++ " ".intercalate parts
    else
      let column ← textIf "COLUMN" "COLUMN "
      let late ← ifNotExists
      return "ADD " ++ column ++ (if early.isEmpty then late else early) ++ (← columnDefinition L)

def removed : Reader String := do
  let named (kind : String) : Reader String := do
    let condition ← ifExists
    let name ← identifier
    return "DROP " ++ kind ++ condition ++ name.show ++ (← textIf "CASCADE" " CASCADE")
  if ← keywords ["IF", "EXISTS", "PARTITION"] then return "DROP IF EXISTS " ++ (← partitionOf L)
  else if ← keyword "PARTITION" then return "DROP " ++ (← partitionOf L)
  else if ← keyword "CONSTRAINT" then named "CONSTRAINT "
  else
    let _ ← keywords ["PRIMARY", "KEY"]
    let _ ← keyword "PROJECTION"
    if ← keywords ["CLUSTERING", "KEY"] then return "DROP CLUSTERING KEY"
    else
      let _ ← keyword "COLUMN"
      named "COLUMN "

def renamed : Reader String := do
  let pair (what : String) : Reader String := do
    let old ← identifier
    expectKeyword "TO"
    return "RENAME " ++ what ++ " " ++ old.show ++ " TO " ++ (← identifier).show
  if ← keyword "CONSTRAINT" then pair "CONSTRAINT"
  else if ← keyword "TO" then return "RENAME TO " ++ showName (← objectName)
  else
    let _ ← keyword "COLUMN"
    pair "COLUMN"

/-- A rule or a trigger by its name, behind one of these beginnings. -/
def switched (word : String) (ways : List (List String)) : Reader String := do
  if ← keywords ["ROW", "LEVEL", "SECURITY"] then return word ++ " ROW LEVEL SECURITY"
  else
    match ← ways.findM? (fun words => keywords words) with
    | some words => return " ".intercalate (word :: words) ++ " " ++ (← identifier).show
    | none => fail

def columnType : Reader String := do
  let type ← dataType
  let conversion ← option (keyword "USING") L.anyExpr
  return "SET DATA TYPE " ++ type.show ++ showOption " USING " "" conversion

def addedIdentity : Reader String := do
  let time ← do
    if ← keyword "ALWAYS" then pure " ALWAYS"
    else if ← keywords ["BY", "DEFAULT"] then pure " BY DEFAULT"
    else pure ""
  expectKeywords ["AS", "IDENTITY"]
  let options ← if ← peekSymbol "(" then pure (some (← parenthesized sequenceOptions)) else pure none
  return "ADD GENERATED" ++ time ++ " AS IDENTITY" ++
    (options.map fun text => " (" ++ text ++ " )").getD ""

def columnChange : Reader String := do
  if ← keywords ["SET", "NOT", "NULL"] then return "SET NOT NULL"
  else if ← keywords ["DROP", "NOT", "NULL"] then return "DROP NOT NULL"
  else if ← keywords ["SET", "DEFAULT"] then return "SET DEFAULT " ++ (← L.anyExpr).show
  else if ← keywords ["DROP", "DEFAULT"] then return "DROP DEFAULT"
  else if ← keywords ["SET", "DATA", "TYPE"] then columnType L
  else if ← keyword "TYPE" then columnType L
  else
    expectKeywords ["ADD", "GENERATED"]
    addedIdentity

/-- A column written anew: its type and its properties. -/
def redefined (start : String) : Reader String := do
  let type ← dataType
  let options ← many (columnOption? L)
  return start ++ " " ++ type.show ++ String.join (options.map (" " ++ ·))

def earlyAlteration? : Reader (Option String) := do
  match ← oneOf? ["ADD", "RENAME", "DISABLE", "ENABLE"] with
  | some "ADD" => return some (← added L)
  | some "RENAME" => return some (← renamed)
  | some "DISABLE" => return some (← switched "DISABLE" [["RULE"], ["TRIGGER"]])
  | some _ =>
    return some (← switched "ENABLE" [["ALWAYS", "RULE"], ["ALWAYS", "TRIGGER"], ["REPLICA", "RULE"],
      ["REPLICA", "TRIGGER"], ["RULE"], ["TRIGGER"]])
  | none => return none

def lateAlteration (word : String) : Reader String := do
  match word with
  | "DROP" => removed L
  | "PARTITION" =>
    let old ← partitionOf L
    expectKeywords ["RENAME", "TO", "PARTITION"]
    return old ++ " RENAME TO " ++ (← partitionOf L)
  | "CHANGE" =>
    let _ ← keyword "COLUMN"
    let old ← identifier
    let new ← identifier
    redefined L ("CHANGE COLUMN " ++ old.show ++ " " ++ new.show)
  | "MODIFY" =>
    let _ ← keyword "COLUMN"
    let name ← identifier
    redefined L ("MODIFY COLUMN " ++ name.show)
  | "ALTER" =>
    let _ ← keyword "COLUMN"
    let name ← identifier
    return "ALTER COLUMN " ++ name.show ++ " " ++ (← columnChange L)
  | _ =>
    expectKeyword "WITH"
    return "SWAP WITH " ++ showName (← objectName)

/-- A change to a table that is not read first. -/
def otherAlteration : Reader String := do
  match ← oneOf? ["DROP", "PARTITION", "CHANGE", "MODIFY", "ALTER", "SWAP"] with
  | some word => lateAlteration L word
  | none =>
    if ← keywords ["OWNER", "TO"] then return "OWNER TO " ++ (← owner)
    else if ← keywords ["CLUSTER", "BY"] then
      return "CLUSTER BY (" ++ commaList (showExprs (← parenthesized L.exprs)) ++ ")"
    else if ← keywords ["SUSPEND", "RECLUSTER"] then return "SUSPEND RECLUSTER"
    else if ← keywords ["RESUME", "RECLUSTER"] then return "RESUME RECLUSTER"
    else
      let properties ← settings L ["SET", "TBLPROPERTIES"]
      if properties.isEmpty then fail else return "SET TBLPROPERTIES" ++ inParens "" properties

/-- One change to a table. Projections are passed over. -/
def alteration : Reader String := do
  match ← earlyAlteration? L with
  | some text => return text
  | none =>
    for word in ["CLEAR", "MATERIALIZE"] do
      let _ ← keywords [word, "PROJECTION"]
    otherAlteration L

def alterTable : Reader String := do
  let condition ← ifExists
  let only ← textIf "ONLY" "ONLY "
  let name ← objectName
  let cluster ← clusterName
  let changes ← commaSeparated (alteration L)
  let location ← do
    if ← keyword "LOCATION" then pure (" LOCATION " ++ (← identifier).show)
    else if ← keywords ["SET", "LOCATION"] then pure (" SET LOCATION " ++ (← identifier).show)
    else pure ""
  return "ALTER TABLE " ++ condition ++ only ++ showName name ++ " " ++
    (cluster.map fun c => "ON CLUSTER " ++ c ++ " ").getD "" ++ commaList changes ++ location

def alterView : Reader String := do
  let name ← objectName
  let columns ← optionalColumns
  let options ← settings L ["WITH"]
  expectKeyword "AS"
  let query ← L.query
  return "ALTER VIEW " ++ showName name ++ inParens " WITH " options ++
    inParens " " (columns.map Ident.show) ++ " AS " ++ query.show

/-- A change, behind its first keyword. -/
def alterText : Reader String := do
  match ← expectOneOf ["VIEW", "TABLE", "INDEX", "ROLE", "POLICY"] with
  | "VIEW" => alterView L
  | "TABLE" => alterTable L
  | "INDEX" =>
    let name ← objectName
    expectKeywords ["RENAME", "TO"]
    return "ALTER INDEX " ++ showName name ++ " RENAME TO " ++ showName (← objectName)
  | "ROLE" => alterRole L
  | _ => alterPolicy L

/-- What can be dropped by its name alone. -/
def droppedKinds : List String := [
  "TABLE", "VIEW", "INDEX", "ROLE", "SCHEMA", "DATABASE", "SEQUENCE", "STAGE", "TYPE"]

def dropNamed (kind : String) : Reader String := do
  let condition ← ifExists
  let names ← names
  let cascade ← textIf "CASCADE" " CASCADE"
  let restrict ← textIf "RESTRICT" " RESTRICT"
  let purge ← textIf "PURGE" " PURGE"
  let manner := cascade ++ restrict ++ purge
  if !cascade.isEmpty && !restrict.isEmpty || kind = "ROLE" && !manner.isEmpty then fail
  else return "DROP " ++ kind ++ " " ++ condition ++ showNames names ++ manner

def dropSecret : Reader String := do
  let condition ← ifExists
  let name ← identifier
  let storage ← if ← keyword "FROM" then identifierOrSkip else pure none
  return "DROP SECRET " ++ condition ++ name.show ++ behind " FROM " (storage.map Ident.show)

/-- A removal, behind its first keyword. -/
def dropText : Reader String := do
  match ← expectOneOf (droppedKinds ++ ["FUNCTION", "PROCEDURE", "POLICY", "SECRET", "TRIGGER"]) with
  | "FUNCTION" => dropRoutine L "FUNCTION"
  | "PROCEDURE" => dropRoutine L "PROCEDURE"
  | "POLICY" => dropPolicy
  | "SECRET" => dropSecret
  | "TRIGGER" => dropTrigger
  | kind => dropNamed kind

def truncateText : Reader String := do
  let table ← textIf "TABLE" "TABLE "
  let only ← textIf "ONLY" "ONLY "
  let names ← names
  let parts ← if ← keyword "PARTITION" then parenthesized L.exprs else pure []
  let identity ← do
    if ← keywords ["RESTART", "IDENTITY"] then pure " RESTART IDENTITY"
    else if ← keywords ["CONTINUE", "IDENTITY"] then pure " CONTINUE IDENTITY"
    else pure ""
  let cascade ← oneOf? ["CASCADE", "RESTRICT"]
  return "TRUNCATE " ++ table ++ only ++ showNames names ++ identity ++ behind " " cascade ++
    inParens " PARTITION " (showExprs parts) ++ behind " ON CLUSTER " (← clusterName)

end LogicalSql.Surface.Reader
