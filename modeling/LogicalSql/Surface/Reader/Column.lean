import LogicalSql.Surface.Reader.Query

/-! Columns of a table and constraints on them, kept as their normalized text. -/
namespace LogicalSql.Surface.Reader

variable (L : Level)

/-- An optional text behind a fixed one, or nothing. -/
def behind (start : String) : Option String → String
  | none => ""
  | some text => start ++ text

/-- A list in parentheses behind a fixed text, or nothing. -/
def inParens (start : String) (items : List String) : String :=
  if items.isEmpty then "" else start ++ "(" ++ commaList items ++ ")"

def ifExists : Reader String := do
  if ← keywords ["IF", "EXISTS"] then return "IF EXISTS " else return ""

def ifNotExists : Reader String := do
  if ← keywords ["IF", "NOT", "EXISTS"] then return "IF NOT EXISTS " else return ""

def optionalColumns : Reader (List Ident) := do
  if ← peekSymbol "(" then identList else return []

def names : Reader (List ObjectName) := commaSeparated objectName

def showNames (names : List ObjectName) : String := commaList (names.map showName)

def idents : Reader (List Ident) := commaSeparated identifier

/-- A string, shown in quotes and without escapes. -/
def bareString : Reader String := return "'" ++ (← literalString) ++ "'"

/-- A string, shown in quotes. -/
def quotedString : Reader String := return showQuoted '\'' (← literalString)

/-- A name, an equals sign and a value. -/
def setting : Reader String := do
  let key ← identifier
  expectSymbol "="
  return key.show ++ " = " ++ (← L.anyExpr).show

/-- Settings in parentheses behind keywords, if these come. -/
def settings (words : List String) : Reader (List String) := do
  if ← keywords words then parenthesized (commaSeparated (setting L)) else return []

def clusterName : Reader (Option String) := do
  if ← keywords ["ON", "CLUSTER"] then return some (← identifier).show else return none

/-- The options of a sequence, in their order. -/
def sequenceOptions : Reader String := do
  let increment ← if ← keyword "INCREMENT" then do
      let filler ← textIf "BY" " BY"
      pure (" INCREMENT" ++ filler ++ " " ++ (← signedNumber))
    else pure ""
  let bound (word : String) : Reader String := do
    if ← keyword word then return " " ++ word ++ " " ++ (← signedNumber)
    else if ← keywords ["NO", word] then return " NO " ++ word
    else return ""
  let least ← bound "MINVALUE"
  let greatest ← bound "MAXVALUE"
  let start ← if ← keyword "START" then do
      let filler ← textIf "WITH" " WITH"
      pure (" START" ++ filler ++ " " ++ (← signedNumber))
    else pure ""
  let cache ← if ← keyword "CACHE" then pure (" CACHE " ++ (← signedNumber)) else pure ""
  let cycle ← if ← keywords ["NO", "CYCLE"] then pure " NO CYCLE" else textIf "CYCLE" " CYCLE"
  return increment ++ least ++ greatest ++ start ++ cache ++ cycle

/-- When and whether a constraint is checked. -/
structure Checking where
  deferrable : Option String
  initially : Option String
  enforced : Option String

/-- What is not said yet may be said. -/
def unsaid (said : Option String) (found : Reader Bool) : Reader Bool :=
  if said.isNone then found else return false

def checkingLoop : Nat → Checking → Reader Checking
  | 0, c => return c
  | n + 1, c => do
    if ← unsaid c.deferrable (keywords ["NOT", "DEFERRABLE"]) then
      checkingLoop n { c with deferrable := some " NOT DEFERRABLE" }
    else if ← unsaid c.deferrable (keyword "DEFERRABLE") then
      checkingLoop n { c with deferrable := some " DEFERRABLE" }
    else if ← unsaid c.initially (keyword "INITIALLY") then
      let word ← expectOneOf ["DEFERRED", "IMMEDIATE"]
      checkingLoop n { c with initially := some (" INITIALLY " ++ word) }
    else if ← unsaid c.enforced (keyword "ENFORCED") then
      checkingLoop n { c with enforced := some " ENFORCED" }
    else if ← unsaid c.enforced (keywords ["NOT", "ENFORCED"]) then
      checkingLoop n { c with enforced := some " NOT ENFORCED" }
    else return c

/-- The three clauses come in any order and are shown in one. -/
def checking : Reader String := do
  let c ← checkingLoop 4 ⟨none, none, none⟩
  return c.deferrable.getD "" ++ c.initially.getD "" ++ c.enforced.getD ""

def referenceAction : Reader String := do
  match ← expectOneOf ["RESTRICT", "CASCADE", "SET", "NO"] with
  | "SET" => return "SET " ++ (← expectOneOf ["NULL", "DEFAULT"])
  | "NO" =>
    expectKeyword "ACTION"
    return "NO ACTION"
  | word => return word

/-- What is done when a referenced row is changed, and when the reference is checked. -/
def referenceActions : Reader String := do
  let action (word : String) : Reader String := do
    if ← keywords ["ON", word] then return " ON " ++ word ++ " " ++ (← referenceAction)
    else return ""
  let first ← action "DELETE"
  let change ← action "UPDATE"
  let last ← if first.isEmpty then action "DELETE" else pure ""
  return first ++ last ++ change ++ (← checking)

/-- An identity column, behind the words for when it is generated. -/
def identityColumn (time : String) : Reader String := do
  let options ← if ← peekSymbol "(" then parenthesized sequenceOptions else pure ""
  return "GENERATED " ++ time ++ " AS IDENTITY" ++
    if options.isEmpty then "" else " (" ++ options ++ " )"

/-- A generated column, behind its first keyword. -/
def generatedColumn? : Reader (Option String) := do
  if ← keywords ["ALWAYS", "AS", "IDENTITY"] then return some (← identityColumn "ALWAYS")
  else if ← keywords ["BY", "DEFAULT", "AS", "IDENTITY"] then
    return some (← identityColumn "BY DEFAULT")
  else if ← keywords ["ALWAYS", "AS"] then
    if ← peekSymbol "(" then
      let e ← parenthesized L.anyExpr
      expectKeyword "STORED"
      return some ("GENERATED ALWAYS AS (" ++ e.show ++ ") STORED")
    else return none
  else return none

/-- Words of other dialects that are passed over in this order, and a generated column among them. -/
def lateColumnOption? : Reader (Option String) := do
  for word in ["AUTO_INCREMENT", "AUTOINCREMENT", "ASC", "DESC"] do
    let _ ← keyword word
  let _ ← keywords ["ON", "UPDATE"]
  if ← keyword "GENERATED" then generatedColumn? L
  else
    for word in ["AS", "IDENTITY"] do
      let _ ← keyword word
    return none

/-- One property of a column, if one comes. -/
def columnOption? : Reader (Option String) := do
  if ← keywords ["CHARACTER", "SET"] then return some ("CHARACTER SET " ++ showName (← objectName))
  else if ← keywords ["NOT", "NULL"] then return some "NOT NULL"
  else if ← keyword "COMMENT" then
    match ← next with
    | .string text => return some ("COMMENT " ++ showQuoted '\'' text)
    | _ => fail
  else if ← keyword "NULL" then return some "NULL"
  else if ← keyword "DEFAULT" then return some ("DEFAULT " ++ (← L.anyExpr).show)
  else if ← keywords ["PRIMARY", "KEY"] then return some ("PRIMARY KEY" ++ (← checking))
  else if ← keyword "UNIQUE" then return some ("UNIQUE" ++ (← checking))
  else if ← keyword "REFERENCES" then
    let table ← objectName
    let columns ← optionalColumns
    let actions ← referenceActions
    return some ("REFERENCES " ++ showName table ++ inParens " " (columns.map Ident.show) ++ actions)
  else if ← keyword "CHECK" then
    return some ("CHECK (" ++ (← parenthesized L.anyExpr).show ++ ")")
  else lateColumnOption? L

def namedColumnOption? : Reader (Option String) := do
  if ← keyword "CONSTRAINT" then
    let name ← identifier
    match ← columnOption? L with
    | some text => return some ("CONSTRAINT " ++ name.show ++ " " ++ text)
    | none => fail
  else columnOption? L

def columnDefinition : Reader String := do
  let name ← identifier
  let type ← dataType
  let collation ← option (keyword "COLLATE") objectName
  let options ← many (namedColumnOption? L)
  return name.show ++ " " ++ type.show ++ behind " COLLATE " (collation.map showName) ++
    String.join (options.map (" " ++ ·))

def nullsDistinct : Reader String := do
  if ← keyword "NULLS" then
    let negation ← textIf "NOT" " NOT"
    expectKeyword "DISTINCT"
    return " NULLS" ++ negation ++ " DISTINCT"
  else return ""

/-- The kind of an index, behind `USING`. -/
def indexKind? : Reader (Option String) := option (keyword "USING") (expectOneOf ["BTREE", "HASH"])

def indexOption? : Reader (Option String) := do
  match ← indexKind? with
  | some kind => return some (" USING " ++ kind)
  | none => option (keyword "COMMENT") (return " COMMENT " ++ (← bareString))

/-- The columns that a key is made of, with an index for them. -/
def keyColumns : Reader String := do
  let index ← attempt identifier
  let kind ← indexKind?
  let columns ← identList
  let options ← many indexOption?
  return behind " " (index.map Ident.show) ++ behind " USING " kind ++ " (" ++ showIdents columns ++
    ")" ++ String.join options ++ (← checking)

/-- A constraint on a whole table, if one comes. -/
def tableConstraint? : Reader (Option String) := do
  if ← keyword "UNIQUE" then
    if (← oneOf? ["KEY", "INDEX"]).isSome then fail
    else
      let nulls ← nullsDistinct
      return some ("UNIQUE" ++ nulls ++ (← keyColumns))
  else if ← keyword "PRIMARY" then
    expectKeyword "KEY"
    return some ("PRIMARY KEY" ++ (← keyColumns))
  else if ← keyword "FOREIGN" then
    expectKeyword "KEY"
    let columns ← identList
    expectKeyword "REFERENCES"
    let table ← objectName
    let referred ← identList
    let actions ← referenceActions
    return some ("FOREIGN KEY (" ++ showIdents columns ++ ") REFERENCES " ++ showName table ++
      "(" ++ showIdents referred ++ ")" ++ actions)
  else if ← keyword "CHECK" then
    return some ("CHECK (" ++ (← parenthesized L.anyExpr).show ++ ")")
  else return none

def namedTableConstraint? : Reader (Option String) := do
  if ← keyword "CONSTRAINT" then
    let name ← identifier
    match ← tableConstraint? L with
    | some text => return some ("CONSTRAINT " ++ name.show ++ " " ++ text)
    | none => fail
  else tableConstraint? L

inductive TableElement where
  | column (text : String)
  | constraint (text : String)

def tableElement : Reader TableElement := do
  match ← namedTableConstraint? L with
  | some text => return .constraint text
  | none =>
    match ← peek? with
    | some (.word _ _) => return .column (← columnDefinition L)
    | _ => fail

/-- Columns and constraints in parentheses. Columns come before constraints. -/
def tableElements : Reader (List String) := do
  if ← symbol "(" then
    if ← symbol ")" then return []
    else
      let elements ← commaSeparated (tableElement L)
      expectSymbol ")"
      return (elements.filterMap fun
        | .column text => some text
        | .constraint _ => none) ++ elements.filterMap fun
        | .column _ => none
        | .constraint text => some text
  else return []

end LogicalSql.Surface.Reader
