import LogicalSql.Surface.Reader.Relation

/-! Statements about functions, procedures and triggers, kept as their normalized text. -/
namespace LogicalSql.Surface.Reader

variable (L : Level)

/-- A parameter with its mode, its name and its default. A type that is no known one is the name. -/
def routineParameter : Reader String := do
  let mode := ((← oneOf? ["IN", "OUT", "INOUT"]).map (· ++ " ")).getD ""
  let type ← dataType
  let shown ← match type with
    | .custom (name :: _) _ => do
      pure (name.show ++ " " ++ (← dataType).show)
    | _ => pure type.show
  let fallback ← option (do if ← keyword "DEFAULT" then return true else symbol "=") L.anyExpr
  return mode ++ shown ++ showOption " = " "" fallback

def routineParameters : Reader (List String) := commaSeparated (routineParameter L)

/-- A function by its name and, if these tell it from others, its parameters. -/
def routineName : Reader String := do
  let name ← objectName
  let parameters ← if ← symbol "(" then do
      if ← symbol ")" then pure []
      else
        let parameters ← routineParameters L
        expectSymbol ")"
        pure parameters
    else pure []
  return showName name ++ inParens "" parameters

/-- What is said about a function behind its parameters, each at most once. -/
structure RoutineTraits where
  language : Option String
  behavior : Option String
  nullInput : Option String
  parallel : Option String
  body : Option String

/-- Sets a property that is not set yet. -/
def setOnce (old : Option String) (value : Reader String) : Reader (Option String) := do
  if old.isSome then fail else return some (← value)

def routineBody : Reader String := do
  match ← get with
  | ⟨.styled (.dollar tag) text, _, _⟩ :: ls =>
    set ls
    return (Constant.styled (.dollar tag) text).show
  | _ => quotedString

def routineTraitsLoop : Nat → RoutineTraits → Reader RoutineTraits
  | 0, t => return t
  | n + 1, t => do
    if ← keyword "AS" then
      let body ← setOnce t.body (return " AS " ++ (← routineBody))
      routineTraitsLoop n { t with body }
    else if ← keyword "LANGUAGE" then
      let language ← setOnce t.language (return " LANGUAGE " ++ (← identifier).show)
      routineTraitsLoop n { t with language }
    else if ← keywords ["CALLED", "ON", "NULL", "INPUT"] then
      let nullInput ← setOnce t.nullInput (return " CALLED ON NULL INPUT")
      routineTraitsLoop n { t with nullInput }
    else if ← keywords ["RETURNS", "NULL", "ON", "NULL", "INPUT"] then
      let nullInput ← setOnce t.nullInput (return " RETURNS NULL ON NULL INPUT")
      routineTraitsLoop n { t with nullInput }
    else if ← keyword "STRICT" then
      let nullInput ← setOnce t.nullInput (return " STRICT")
      routineTraitsLoop n { t with nullInput }
    else if ← keyword "PARALLEL" then
      let parallel ← setOnce t.parallel
        (return " PARALLEL " ++ (← expectOneOf ["UNSAFE", "RESTRICTED", "SAFE"]))
      routineTraitsLoop n { t with parallel }
    else if ← keyword "RETURN" then
      let body ← setOnce t.body (return " RETURN " ++ (← L.anyExpr).show)
      routineTraitsLoop n { t with body }
    else
      match ← oneOf? ["IMMUTABLE", "STABLE", "VOLATILE"] with
      | some word =>
        let behavior ← setOnce t.behavior (return " " ++ word)
        routineTraitsLoop n { t with behavior }
      | none => return t

/-- A function, behind its keyword. -/
def createFunction (start : String) : Reader String := do
  let name ← objectName
  expectSymbol "("
  let parameters ← if ← peekSymbol ")" then pure [] else routineParameters L
  expectSymbol ")"
  let result ← option (keyword "RETURNS") dataType
  let t ← routineTraitsLoop L ((← get).length + 1) ⟨none, none, none, none, none⟩
  return start ++ "FUNCTION " ++ showName name ++ inParens "" parameters ++
    behind " RETURNS " (result.map DataType.show) ++ t.language.getD "" ++ t.behavior.getD "" ++
    t.nullInput.getD "" ++ t.parallel.getD "" ++ t.body.getD ""

def triggerEvent : Reader String := do
  match ← expectOneOf ["INSERT", "UPDATE", "DELETE", "TRUNCATE"] with
  | "UPDATE" => return "UPDATE" ++ behind " OF " ((← option (keyword "OF") idents).map showIdents)
  | word => return word

def triggerTable? : Reader (Option String) := do
  match ← oneOf? ["OLD", "NEW"] with
  | none => return none
  | some word =>
    if ← keyword "TABLE" then
      let filler ← textIf "AS" " AS"
      return some (word ++ " TABLE" ++ filler ++ " " ++ showName (← objectName))
    else return none

/-- A trigger, behind its keyword. -/
def createTrigger (start : String) : Reader String := do
  let name ← objectName
  let period ← match ← expectOneOf ["BEFORE", "AFTER", "INSTEAD"] with
    | "INSTEAD" => do
      expectKeyword "OF"
      pure "INSTEAD OF"
    | word => pure word
  let events ← separated (keyword "OR") triggerEvent
  expectKeyword "ON"
  let table ← objectName
  let referenced ← if ← keyword "FROM" then objectNameOrSkip else pure none
  let checks ← checking
  let tables ← if ← keyword "REFERENCING" then many triggerTable? else pure []
  expectKeyword "FOR"
  let each ← textIf "EACH" "EACH "
  let object ← expectOneOf ["ROW", "STATEMENT"]
  let condition ← option (keyword "WHEN") L.anyExpr
  expectKeyword "EXECUTE"
  let kind ← expectOneOf ["FUNCTION", "PROCEDURE"]
  let routine ← routineName L
  return start ++ "TRIGGER " ++ showName name ++ " " ++ period ++ " " ++ " OR ".intercalate events ++
    " ON " ++ showName table ++ behind " FROM " (referenced.map showName) ++ checks ++
    (if tables.isEmpty then "" else " REFERENCING " ++ " ".intercalate tables) ++ " FOR " ++ each ++
    object ++ showOption " WHEN " "" condition ++ " EXECUTE " ++ kind ++ " " ++ routine

def procedureParametersLoop : Nat → Reader (List String)
  | 0 => fail
  | n + 1 => do
    let first ← match ← peek? with
      | some (.word _ _) => do
        let name ← identifier
        pure [name.show ++ " " ++ (← dataType).show]
      | _ => pure []
    let comma ← symbol ","
    if ← symbol ")" then return first
    else if comma then return first ++ (← procedureParametersLoop n)
    else fail

/-- Parameters of a procedure. A comma may stand behind the last one. -/
def procedureParameters : Reader (List String) := do
  if ← symbol "(" then
    if ← symbol ")" then return [] else procedureParametersLoop (← get).length
  else return []

def skipSemicolons : Reader Bool := do
  let found ← many (do
    if ← symbol ";" then return some () else return none)
  return !found.isEmpty

def statementsLoop (statement : Reader Statement) : Nat → Reader (List Statement)
  | 0 => return []
  | n + 1 => do
    match ← get with
    | [] => return []
    | _ =>
      let s ← statement
      let separated ← skipSemicolons
      match ← get with
      | [] => return [s]
      | l :: _ =>
        if separated then return s :: (← statementsLoop statement n)
        else if l.token.isKeyword "END" then return [s]
        else fail

/-- Statements with semicolons between them. The word `END` behind a statement ends them all. -/
def statements (statement : Reader Statement) : Reader (List Statement) := do
  let _ ← skipSemicolons
  statementsLoop statement (← get).length

/-- A procedure, behind its keyword. -/
def createProcedure (start : String) : Reader String := do
  let name ← objectName
  let parameters ← procedureParameters
  expectKeywords ["AS", "BEGIN"]
  let body ← statements L.statement
  expectKeyword "END"
  return start ++ "PROCEDURE " ++ showName name ++ inParens " " parameters ++ " AS BEGIN " ++
    "; ".intercalate (body.map Statement.show) ++ " END"

/-- A function or a procedure to drop, behind its keyword. -/
def dropRoutine (kind : String) : Reader String := do
  let condition ← ifExists
  let routines ← commaSeparated (routineName L)
  return "DROP " ++ kind ++ " " ++ condition ++ commaList routines ++
    behind " " (← oneOf? ["CASCADE", "RESTRICT"])

def dropTrigger : Reader String := do
  let condition ← ifExists
  let name ← objectName
  expectKeyword "ON"
  let table ← objectName
  return "DROP TRIGGER " ++ condition ++ showName name ++ " ON " ++ showName table ++
    behind " " (← oneOf? ["CASCADE", "RESTRICT"])

end LogicalSql.Surface.Reader
