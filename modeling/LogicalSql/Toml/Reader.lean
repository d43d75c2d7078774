import LogicalSql.Toml.Scalar

/-! TOML text read into the tables of its document. -/
namespace LogicalSql.Toml

/-- Lists and tables inside one another, and the parts of a dotted key, are fewer than this. -/
def nestingLimit : Nat := 80

def comment : Reader Unit := do
  expect '#'
  modify (·.dropWhile isPlain)

/-- What may stand behind the content of a line. -/
def lineEnd : Reader Unit := do
  blanks
  if (← get).head? = some '#' then comment
  if (← get).isEmpty then return else newline

def skipLinesLoop : Nat → Reader Unit
  | 0 => failure
  | n + 1 => do
    blanks
    match (← get).head? with
    | some '#' =>
      comment
      newline
      skipLinesLoop n
    | some '\n' | some '\r' =>
      newline
      skipLinesLoop n
    | _ => return

/-- Blanks, comments and newlines between the items of an array. -/
def skipLines : Reader Unit := do skipLinesLoop ((← get).length + 1)

/-! ## Keys -/

def isBare (c : Char) : Bool := c.isAlphanum || c == '-' || c == '_'

def simpleKey : Reader String := do
  match ← get with
  | '"' :: cs =>
    set cs
    basicString
  | '\'' :: cs =>
    set cs
    literalString
  | _ =>
    let cs ← spanChars isBare
    if cs.isEmpty then failure else return String.ofList cs

def keyLoop : Nat → Reader Path
  | 0 => failure
  | n + 1 => do
    blanks
    let key ← simpleKey
    blanks
    if ← takeIf (· == '.') then return key :: (← keyLoop n) else return [key]

def dottedKey : Reader Path := keyLoop (nestingLimit - 1)

/-! ## Values -/

def arrayLoop (item : Reader Value) : Nat → Reader (List Value)
  | 0 => failure
  | n + 1 => do
    skipLines
    if ← takeIf (· == ']') then return []
    else
      let value ← item
      skipLines
      if ← takeIf (· == ',') then return value :: (← arrayLoop item n)
      else
        expect ']'
        return [value]

def pair (item : Reader Value) : Reader (Path × Value) := do
  let path ← dottedKey
  expect '='
  blanks
  return (path, ← item)

def pairsLoop (item : Reader Value) : Nat → Reader (List (Path × Value))
  | 0 => failure
  | n + 1 => do
    let first ← pair item
    blanks
    if ← takeIf (· == ',') then return first :: (← pairsLoop item n)
    else
      expect '\x7d'
      return [first]

/-- A table on one line, behind its opening brace. -/
def inlineTable (item : Reader Value) : Reader Value := do
  blanks
  if ← takeIf (· == '\x7d') then return .table .inline []
  else
    let pairs ← pairsLoop item (← get).length
    return .table .inline (← insertPairs pairs [])

def value (depth : Nat) : Reader Value := do
  match (← get).head? with
  | some '[' =>
    match depth with
    | 0 => failure
    | depth + 1 =>
      expect '['
      return .array (← arrayLoop (value depth) (← get).length)
  | some '\x7b' =>
    match depth with
    | 0 => failure
    | depth + 1 =>
      expect '\x7b'
      inlineTable (value depth)
  | some '"' | some '\'' => return .string (← string)
  | some 't' =>
    word ['t', 'r', 'u', 'e']
    return .boolean true
  | some 'f' =>
    word ['f', 'a', 'l', 's', 'e']
    return .boolean false
  | _ => (do dateTime; return .dateTime) <|> number

/-! ## Lines -/

def header : Reader Line := do
  expect '['
  let repeated ← takeIf (· == '[')
  let path ← dottedKey
  expect ']'
  if repeated then expect ']'
  return .header path repeated

def lineOf : Reader Line := do
  match (← get).head? with
  | some '[' => header
  | _ =>
    let (path, value) ← pair (value (nestingLimit - 1))
    return .pair path value

def linesLoop : Nat → Reader (List Line)
  | 0 => failure
  | n + 1 => do
    blanks
    match (← get).head? with
    | none => return []
    | some '#' | some '\n' | some '\r' =>
      lineEnd
      linesLoop n
    | some _ =>
      let line ← lineOf
      lineEnd
      return line :: (← linesLoop n)

/-- A byte order mark in front is ignored. -/
def parse (text : String) : Option Entries := do
  let cs := match text.toList with
    | c :: cs => if c.toNat = 0xFEFF then cs else c :: cs
    | [] => []
  let (lines, _) ← linesLoop (cs.length + 1) cs
  build lines

end LogicalSql.Toml
