import LogicalSql.Surface.Keyword
import LogicalSql.Surface.Outline
import LogicalSql.Text.Digits

/-! Readers take tokens from the front of a list. -/
namespace LogicalSql.Surface

inductive Fault where
  | unexpected
  /-- Expressions and queries are nested too deeply. -/
  | tooDeep
  deriving DecidableEq, Repr

/-- The name that a token is. A string is a name too. -/
def Lexeme.ident? : Lexeme → Option Ident
  | ⟨.word text quote, extent, _⟩ => some ⟨text, quote, extent⟩
  | ⟨.string text, _, _⟩ => some ⟨text, some '\'', .nowhere⟩
  | _ => none

abbrev Reader := StateT (List Lexeme) (Except Fault)

namespace Reader

variable {α β : Type}

def fail : Reader α := throw .unexpected

def tokens : Reader (List Token) := return (← get).map (·.token)

def peek? : Reader (Option Token) := return (← get).head?.map (·.token)

/-- The token behind the next one. -/
def peekSecond? : Reader (Option Token) := return ((← get).drop 1).head?.map (·.token)

def nextLexeme : Reader Lexeme := do
  match ← get with
  | l :: ls =>
    set ls
    return l
  | [] => fail

def next : Reader Token := return (← nextLexeme).token

def skip (n : Nat) : Reader Unit := modify (·.drop n)

/-- Undoes a reading that meets something unexpected. Deep nesting is not undone. -/
def attempt (p : Reader α) : Reader (Option α) := fun ls =>
  match p ls with
  | .ok (a, rest) => .ok (some a, rest)
  | .error .unexpected => .ok (none, ls)
  | .error .tooDeep => .error .tooDeep

/-- Undoes any reading that fails, and keeps its fault. -/
def recover (p : Reader α) : Reader (Except Fault α) := fun ls =>
  match p ls with
  | .ok (a, rest) => .ok (.ok a, rest)
  | .error fault => .ok (.error fault, ls)

def isSymbol (text : String) : Token → Bool
  | .symbol other => text == other
  | _ => false

def peekSymbol (text : String) : Reader Bool := return ((← peek?).map (isSymbol text)).getD false

def peekKeyword (word : String) : Reader Bool := return ((← peek?).map (·.isKeyword word)).getD false

/-- The keyword that the next token spells. -/
def peekWord? : Reader (Option String) := return (← peek?).bind Token.keyword?

/-- Takes the next token if it is the symbol. -/
def symbol (text : String) : Reader Bool := do
  if ← peekSymbol text then
    skip 1
    return true
  else return false

def expectSymbol (text : String) : Reader Unit := do
  if !(← symbol text) then fail

/-- Takes the next token if it spells the keyword. -/
def keyword (word : String) : Reader Bool := do
  if ← peekKeyword word then
    skip 1
    return true
  else return false

def expectKeyword (word : String) : Reader Unit := do
  if !(← keyword word) then fail

def startsWith : List String → List Lexeme → Bool
  | [], _ => true
  | _, [] => false
  | w :: ws, l :: ls => l.token.isKeyword w && startsWith ws ls

/-- Takes all the keywords in a row, or none of them. -/
def keywords (words : List String) : Reader Bool := do
  if startsWith words (← get) then
    skip words.length
    return true
  else return false

def expectKeywords (words : List String) : Reader Unit := do
  if !(← keywords words) then fail

/-- The keyword of the next token, taken if it is one of these. -/
def oneOf? (words : List String) : Reader (Option String) := do
  match ← peekWord? with
  | some w =>
    if words.contains w then
      skip 1
      return some w
    else return none
  | none => return none

def expectOneOf (words : List String) : Reader String := do
  match ← oneOf? words with
  | some w => return w
  | none => fail

/-- A text if the keyword comes, and nothing otherwise. -/
def textIf (word : String) (text : String) : Reader String := do
  if ← keyword word then return text else return ""

def separatedLoop (separator : Reader Bool) (p : Reader α) : Nat → Reader (List α)
  | 0 => fail
  | n + 1 => do
    let a ← p
    if ← separator then return a :: (← separatedLoop separator p n) else return [a]

/-- One or more, with a separator between two. A separator takes a token, so there are no more
than tokens. -/
def separated (separator : Reader Bool) (p : Reader α) : Reader (List α) := do
  separatedLoop separator p ((← get).length + 1)

def commaSeparated (p : Reader α) : Reader (List α) := separated (symbol ",") p

def manyLoop (p : Reader (Option α)) : Nat → Reader (List α)
  | 0 => return []
  | n + 1 => do
    match ← p with
    | some a => return a :: (← manyLoop p n)
    | none => return []

/-- As many as there are. -/
def many (p : Reader (Option α)) : Reader (List α) := do manyLoop p (← get).length

def parenthesized (p : Reader α) : Reader α := do
  expectSymbol "("
  let a ← p
  expectSymbol ")"
  return a

def option (found : Reader Bool) (p : Reader α) : Reader (Option α) := do
  if ← found then return some (← p) else return none

def identifier : Reader Ident := do
  match (← nextLexeme).ident? with
  | some i => return i
  | none => fail

def objectName : Reader ObjectName := separated (symbol ".") identifier

/-- A name, if it stands next. Another token in its place is passed over. -/
def identifierOrSkip : Reader (Option Ident) := do
  match ← get with
  | [] => return none
  | l :: ls =>
    set ls
    return l.ident?

def objectNameOrSkipLoop : Nat → Reader (Option ObjectName)
  | 0 => return none
  | n + 1 => do
    match ← identifierOrSkip with
    | none => return none
    | some i =>
      if ← symbol "." then return (← objectNameOrSkipLoop n).map (i :: ·) else return some [i]

/-- A name, if it stands next. A name that breaks off is passed over with the token that breaks it. -/
def objectNameOrSkip : Reader (Option ObjectName) := do objectNameOrSkipLoop ((← get).length + 1)

def identList : Reader (List Ident) := parenthesized (commaSeparated identifier)

/-- A whole number that fits 64 bits. -/
def natural : Reader Nat := do
  match ← next with
  | .number digits _ =>
    match Text.readNat? digits.toList with
    | some n => if n < UInt64.size then return n else fail
    | none => fail
  | _ => fail

/-- A string, or a word that is no keyword in its place. -/
def literalString : Reader String := do
  let t ← next
  match t with
  | .string text => return text
  | .styled .escaped text => return text
  | .styled .unicode text => return text
  | .word text _ => if t.isPlainWord then return text else fail
  | _ => fail

/-- The rest of a placeholder, behind its sign. -/
def placeholderName : Reader String := do
  match ← next with
  | .word text _ => return text
  | .number digits false => return digits
  | _ => fail

def constant : Reader Constant := do
  let t ← next
  match t with
  | .word text quote =>
    match quote, t.keyword? with
    | none, some "TRUE" => return .boolean true
    | none, some "FALSE" => return .boolean false
    | none, some "NULL" => return .null
    | some '"', _ => return .doubleQuoted text
    | _, _ => fail
  | .number digits long => return .number digits long
  | .string text => return .string text
  | .styled style text => return .styled style text
  | .placeholder text => return .placeholder text
  | .symbol ":" => return .placeholder (":" ++ (← placeholderName))
  | .symbol "@" => return .placeholder ("@" ++ (← placeholderName))
  | _ => fail

/-- A number with the letter behind it. -/
def number : Reader Constant := do
  match ← next with
  | .number digits long => return .number digits long
  | _ => fail

/-- A number or a placeholder. -/
def numberValue : Reader Constant := do
  match ← constant with
  | .number digits long => return .number digits long
  | .placeholder text => return .placeholder text
  | _ => fail

/-- A number with its sign. -/
def signedNumber : Reader String := do
  let sign ← do
    if ← symbol "+" then pure "+" else if ← symbol "-" then pure "-" else pure ""
  return sign ++ (← numberValue).show

/-- A name behind `AS`, or a name that is not reserved. A string is a name too. -/
def aliasName? (reserved : List String) : Reader (Option Ident) := do
  let behindAs ← keyword "AS"
  match ← get with
  | ⟨.word text quote, extent, _⟩ :: ls =>
    let isReserved := match (Token.word text quote).keyword? with
      | some w => reserved.contains w
      | none => false
    if behindAs || !isReserved then
      set ls
      return some ⟨text, quote, extent⟩
    else return none
  | ⟨.string text, _, _⟩ :: ls =>
    set ls
    return some ⟨text, some '\'', .nowhere⟩
  | _ => if behindAs then fail else return none

end Reader

end LogicalSql.Surface
