/-! What the words of a command line ask for. -/
namespace LogicalSql.Command

inductive Topic where
  | program
  | lower
  | writeMappings
  | show
  deriving DecidableEq, Repr

inductive Task where
  /-- Mappings from a file or the database, and a query from a file or the input. -/
  | lower (mappings query : Option String)
  | writeMappings (file : String)
  | show (table : String)
  deriving DecidableEq, Repr

inductive Request where
  | run (config : Option String) (task : Task)
  | help (topic : Topic)
  | version
  | misuse
  deriving DecidableEq, Repr

/-- What the words at a place may be. -/
structure Usage where
  topic : Topic
  /-- Options that take a path. -/
  options : List String
  operandIsPath : Bool := true

def programUsage : Usage := ⟨.program, ["config"], false⟩

def usageOf : String → Option Usage
  | "translate" => some ⟨.lower, ["mappings", "config"], true⟩
  | "write-mappings" => some ⟨.writeMappings, ["config"], true⟩
  | "show" => some ⟨.show, ["config"], false⟩
  | _ => none

inductive Word where
  /-- Only operands follow. -/
  | separator
  | long (name : String) (attached : Option String)
  | short (letters : List Char)
  | operand (text : String)

/-- A single hyphen is an operand. -/
def Word.of (arg : String) : Word :=
  match arg.toList with
  | ['-', '-'] => .separator
  | '-' :: '-' :: cs =>
    let name := String.ofList (cs.takeWhile (· != '='))
    match cs.dropWhile (· != '=') with
    | [] => .long name none
    | _ :: value => .long name (some (String.ofList value))
  | '-' :: c :: cs => .short (c :: cs)
  | _ => .operand arg

structure Arguments where
  values : List (String × String) := []
  operands : List String := []

/-- An option is given once, and no path is empty. -/
def Arguments.add (args : Arguments) (name value : String) : Except Request Arguments :=
  if value.isEmpty ∨ (args.values.lookup name).isSome then .error .misuse
  else .ok { args with values := args.values ++ [(name, value)] }

def Arguments.addOperand (usage : Usage) (args : Arguments) (text : String) :
    Except Request Arguments :=
  if usage.operandIsPath ∧ text.isEmpty ∨ ¬args.operands.isEmpty then .error .misuse
  else .ok { args with operands := [text] }

/-- Letters behind one hyphen. -/
def readLetters (usage : Usage) : List Char → Except Request Unit
  | [] => .ok ()
  | 'v' :: cs => readLetters usage cs
  | 'h' :: _ => .error (.help usage.topic)
  | 'V' :: _ => .error (if usage.topic = .program then .version else .misuse)
  | _ => .error .misuse

/-- A long option without a value. -/
def readFlag (usage : Usage) (name : String) : Except Request Unit :=
  if name = "verbose" then .ok ()
  else if name = "help" then .error (.help usage.topic)
  else if name = "version" ∧ usage.topic = .program then .error .version
  else .error .misuse

/-- Reads options and operands. In front of a command the first operand ends them, since it is
the command's name. -/
def readArguments (usage : Usage) :
    List String → Arguments → Except Request (Arguments × List String)
  | [], args => .ok (args, [])
  | arg :: rest, args =>
    match Word.of arg with
    | .separator =>
      if usage.topic = .program then .error .misuse
      else do return (← rest.foldlM (Arguments.addOperand usage) args, [])
    | .operand text =>
      if usage.topic = .program then .ok (args, arg :: rest)
      else do readArguments usage rest (← args.addOperand usage text)
    | .short letters => do
      readLetters usage letters
      readArguments usage rest args
    | .long name attached =>
      if name ∈ usage.options then
        match attached, rest with
        | some value, rest => do readArguments usage rest (← args.add name value)
        | none, [] => .error .misuse
        | none, next :: rest =>
          match Word.of next with
          | .operand value => do readArguments usage rest (← args.add name value)
          | _ => .error .misuse
      else if attached.isSome then .error .misuse
      else do
        readFlag usage name
        readArguments usage rest args

def taskOf (topic : Topic) (args : Arguments) : Option Task :=
  match topic, args.operands with
  | .lower, operands => some (.lower (args.values.lookup "mappings") operands.head?)
  | .writeMappings, [file] => some (.writeMappings file)
  | .show, [table] => some (.show table)
  | _, _ => none

/-- A configuration given behind the command counts before one in front of it. -/
def readCommand (usage : Usage) (config : Option String) (rest : List String) : Request :=
  match readArguments usage rest {} with
  | .error request => request
  | .ok (args, _) =>
    match taskOf usage.topic args with
    | some task => .run (args.values.lookup "config" <|> config) task
    | none => .misuse

def helpOn : List String → Request
  | [] => .help .program
  | [name] =>
    match usageOf name with
    | some usage => .help usage.topic
    | none => .misuse
  | _ => .misuse

def Request.ofArguments (args : List String) : Request :=
  match readArguments programUsage args {} with
  | .error request => request
  | .ok (_, []) => .misuse
  | .ok (args, name :: rest) =>
    if name = "help" then helpOn rest
    else
      match usageOf name with
      | some usage => readCommand usage (args.values.lookup "config") rest
      | none => .misuse

end LogicalSql.Command
