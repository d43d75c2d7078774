import LogicalSql.Document.Shape
import LogicalSql.Text.Digits

/-! JSON text read once from left to right. The first fault in that order is the one reported. -/
namespace LogicalSql.Json

inductive Fault where
  /-- The text ends too early. -/
  | ended
  | malformed
  | shape (error : ShapeError)

/-- Very large and very small numbers are written with an exponent. -/
def shapeText (error : ShapeError) : String := error.message Decimal.compactText

abbrev Reader := StateT (List Char) (Except Fault)

variable {α ρ : Type}

def isBlank (c : Char) : Bool := c == ' ' || c == '\n' || c == '\t' || c == '\r'

def skipBlanks : Reader Unit := modify (·.dropWhile isBlank)

def ended : Reader α := throw .ended

def malformed : Reader α := throw .malformed

def mismatch (found : Found) (expected : String) : Reader α :=
  throw (.shape (.wrongType found expected))

def next : Reader Char := do
  match ← get with
  | c :: cs =>
    set cs
    return c
  | [] => ended

def advance : Reader Unit := modify (·.drop 1)

/-- The next character that is no blank. It is not taken. -/
def peek : Reader Char := do
  skipBlanks
  match ← get with
  | c :: _ => return c
  | [] => ended

/-- The rest of a word whose first letter is taken. -/
def word : List Char → Reader Unit
  | [] => return
  | c :: cs => do
    if (← next) = c then word cs else malformed

/-! ## Strings -/

/-- Four hexadecimal digits. Fewer than four bytes are an early end. -/
def hexUnit : Reader Nat := do
  let cs ← get
  let digits := cs.take 4
  if (String.ofList digits).utf8ByteSize < 4 then ended
  else
    match digits.mapM Text.hexValue? with
    | some values =>
      set (cs.drop 4)
      return values.foldl (16 * · + ·) 0
    | none => malformed

/-- A character by its code. Codes above the first plane come as two halves. -/
def unicodeEscape : Reader Char := do
  let n ← hexUnit
  if 0xDC00 ≤ n ∧ n ≤ 0xDFFF then malformed
  else if n < 0xD800 ∨ 0xDBFF < n then return Char.ofNat n
  else if (← next) ≠ '\\' then malformed
  else if (← next) ≠ 'u' then malformed
  else
    let low ← hexUnit
    if low < 0xDC00 ∨ 0xDFFF < low then malformed
    else return Char.ofNat (0x10000 + (n - 0xD800) * 0x400 + (low - 0xDC00))

/-- What stands behind a backslash. A lenient reader does not pair the halves of a character. -/
def escape (lenient : Bool) : Reader Char := do
  match ← next with
  | '"' => return '"'
  | '\\' => return '\\'
  | '/' => return '/'
  | 'b' => return Char.ofNat 8
  | 'f' => return Char.ofNat 12
  | 'n' => return '\n'
  | 'r' => return '\r'
  | 't' => return '\t'
  | 'u' =>
    if lenient then
      let _ ← hexUnit
      return 'u'
    else unicodeEscape
  | _ => malformed

def stringLoop (lenient : Bool) : Nat → List Char → Reader String
  | 0, _ => ended
  | n + 1, done => do
    match ← next with
    | '"' => return String.ofList done.reverse
    | '\\' => stringLoop lenient n ((← escape lenient) :: done)
    | c => if c.toNat < 32 then malformed else stringLoop lenient n (c :: done)

/-- A string behind its opening quote. Every step takes a character. -/
def stringBody (lenient : Bool) : Reader String := do
  stringLoop lenient ((← get).length + 1) []

/-! ## Numbers -/

/-- Takes digits as long as the number fits 64 bits, and counts those it takes. -/
def accumulate : Nat → List Char → Nat × Nat
  | n, [] => (n, 0)
  | n, c :: cs =>
    let m := 10 * n + (c.toNat - '0'.toNat)
    if UInt64.size ≤ m then (n, 0)
    else
      let (value, count) := accumulate m cs
      (value, count + 1)

/-- Divides by powers of ten that floating point numbers hold. -/
def scaleDown : Nat → Float → Nat → Float
  | 0, _, _ => 0.0
  | fuel + 1, x, exponent =>
    if exponent ≤ 308 then x / Float.ofScientific 1 false exponent
    else if x == 0.0 then x
    else scaleDown fuel (x / Float.ofScientific 1 false 308) (exponent - 308)

/-- `significand * 10 ^ exponent`, or `none` where that is too large. -/
def scaled? (significand : Nat) (exponent : Int) : Option Float :=
  let x := significand.toUInt64.toFloat
  match exponent with
  | .ofNat n =>
    if n ≤ 308 then
      let y := x * Float.ofScientific 1 false n
      if y.isInf then none else some y
    else if x == 0.0 then some x else none
  | .negSucc n => some (scaleDown 4 x (n + 1))

def takeDigits : Reader (List Char) := do
  let cs ← get
  set (cs.dropWhile Char.isDigit)
  return cs.takeWhile Char.isDigit

def takeIf (p : Char → Bool) : Reader Bool := do
  match ← get with
  | c :: cs =>
    if p c then
      set cs
      return true
    else return false
  | [] => return false

/-- The digits of a number in front of its point. A zero stands alone. -/
def wholeDigits : Reader (List Char) := do
  match ← get with
  | [] => ended
  | '0' :: cs =>
    set cs
    if ((cs.head?).map Char.isDigit).getD false then malformed else return ['0']
  | c :: _ => if c.isDigit then takeDigits else malformed

/-- The digits behind a point. -/
def placeDigits : Reader (List Char) := do
  let places ← takeDigits
  if places.isEmpty then
    if (← get).isEmpty then ended else malformed
  else return places

/-- The sign and the digits of an exponent. -/
def exponentDigits : Reader (Bool × List Char) := do
  let negative ← takeIf (· == '-')
  let _ ← if negative then pure false else takeIf (· == '+')
  match ← get with
  | [] => ended
  | c :: _ => if c.isDigit then return (negative, ← takeDigits) else malformed

def isExponentMark (c : Char) : Bool := c == 'e' || c == 'E'

/-- Digits, point and exponent as a floating point number. An exponent of more than 31 bits makes
the number zero or too large. -/
def floatOf (negative : Bool) (whole places : List Char) (exponent : Bool × List Char) :
    Reader Found := do
  let (start, taken) := accumulate 0 whole
  let (significand, placesTaken) := accumulate start places
  let power := Text.digitsValue exponent.2
  let shift : Int := (whole.length - taken : Nat) - (placesTaken : Int)
  let magnitude :=
    if 0x80000000 ≤ power then (if significand ≠ 0 ∧ ¬exponent.1 then none else some 0.0)
    else scaled? significand (shift + if exponent.1 then -(power : Int) else power)
  match magnitude with
  | some x => return .float (if negative then -x else x)
  | none => malformed

/-- A number. Whole numbers that do not fit 64 bits, and minus zero, are floating point numbers. -/
def number : Reader Found := do
  let negative ← takeIf (· == '-')
  let whole ← wholeDigits
  let pointed ← takeIf (· == '.')
  let places ← if pointed then placeDigits else pure []
  if ← takeIf isExponentMark then floatOf negative whole places (← exponentDigits)
  else if pointed then floatOf negative whole places (false, [])
  else
    let n := Text.digitsValue whole
    if !negative && n < UInt64.size then return .integer n
    else if negative && 0 < n && n ≤ 0x8000000000000000 then return .integer (-n)
    else floatOf negative whole [] (false, [])

/-! ## Values -/

/-- A value that is neither a list nor an object. -/
def scalar : Reader Found := do
  match ← peek with
  | 'n' =>
    advance
    word ['u', 'l', 'l']
    return .null
  | 't' =>
    advance
    word ['r', 'u', 'e']
    return .boolean true
  | 'f' =>
    advance
    word ['a', 'l', 's', 'e']
    return .boolean false
  | '"' =>
    advance
    return .string (← stringBody false)
  | c => if c = '-' ∨ c.isDigit then number else malformed

/-- Fails on the coming value. A list or an object is not read to know what it is. -/
def unexpected (expected : String) : Reader α := do
  match ← peek with
  | '[' => mismatch .sequence expected
  | '\x7b' => mismatch .map expected
  | _ => mismatch (← scalar) expected

/-- A string, in a place of which messages say what is expected there. -/
def stringAs (expected : String) : Reader String := do
  if (← peek) = '"' then
    advance
    stringBody false
  else unexpected expected

def string : Reader String := stringAs "a string"

def int32 : Reader Int32 := do
  let c ← peek
  if c = '-' ∨ c.isDigit then
    match ← number with
    | .integer n =>
      if -0x80000000 ≤ n ∧ n < 0x80000000 then return Int32.ofInt n
      else throw (.shape (.outOfRange n "i32"))
    | found => mismatch found "i32"
  else unexpected "i32"

/-- `null` is none. -/
def optional (p : Reader α) : Reader (Option α) := do
  skipBlanks
  match ← get with
  | 'n' :: cs =>
    set cs
    word ['u', 'l', 'l']
    return none
  | _ => return some (← p)

/-- Whether another element comes in a list. The comma in front of it is taken. -/
def hasElement (first : Bool) : Reader Bool := do
  match ← peek with
  | ']' => return false
  | ',' =>
    if first then return true
    else
      advance
      if (← peek) = ']' then malformed else return true
  | _ => if first then return true else malformed

/-- Whether another member comes in an object. The comma in front of it is taken. -/
def hasMember (first : Bool) : Reader Bool := do
  match ← peek with
  | '\x7d' => return false
  | ',' =>
    if first then malformed
    else
      advance
      if (← peek) = '"' then return true else malformed
  | c => if first && c = '"' then return true else malformed

def colon : Reader Unit := do
  if (← peek) = ':' then advance else malformed

def elementsLoop (p : Reader α) : Nat → Bool → Reader (List α)
  | 0, _ => ended
  | n + 1, first => do
    if ← hasElement first then
      let a ← p
      return a :: (← elementsLoop p n false)
    else
      advance
      return []

/-- Elements behind an open bracket, and the bracket that closes them. -/
def elements (p : Reader α) : Reader (List α) := do elementsLoop p ((← get).length + 1) true

def list (p : Reader α) : Reader (List α) := do
  if (← peek) = '[' then
    advance
    elements p
  else unexpected "a sequence"

def membersLoop (onMember : String → ρ → Reader ρ) : Nat → Bool → ρ → Reader ρ
  | 0, _, _ => ended
  | n + 1, first, r => do
    if ← hasMember first then
      advance
      let name ← stringBody false
      membersLoop onMember n false (← onMember name r)
    else
      advance
      return r

/-- Members behind an open brace, and the brace that closes them. What follows a name is left to
`onMember`. -/
def members (onMember : String → ρ → Reader ρ) (start : ρ) : Reader ρ := do
  membersLoop onMember ((← get).length + 1) true start

/-- A value of any form, with at most this many lists and objects inside one another. -/
def anyValue (depth : Nat) : Reader Found := do
  match ← peek with
  | '[' =>
    match depth with
    | 0 => malformed
    | depth + 1 =>
      advance
      let _ ← elements (anyValue depth)
      return .sequence
  | '\x7b' =>
    match depth with
    | 0 => malformed
    | depth + 1 =>
      advance
      members (fun _ _ => do
        colon
        let _ ← anyValue depth) ()
      return .map
  | _ => scalar

/-! ## Values that are passed over -/

/-- A number that is only checked for its form. An early end is a fault of form here. -/
def skipNumber : Reader Unit := do
  let formOnly (p : Reader Unit) : Reader Unit := fun cs =>
    match p cs with
    | .error .ended => .error .malformed
    | r => r
  formOnly do
    let _ ← takeIf (· == '-')
    let _ ← wholeDigits
    if ← takeIf (· == '.') then
      let _ ← placeDigits
    if ← takeIf isExponentMark then
      let _ ← exponentDigits

/-- A value of any form and depth. Every list or object takes a character. -/
def skipLoop : Nat → Reader Unit
  | 0 => ended
  | n + 1 => do
    match ← peek with
    | '[' =>
      advance
      let _ ← elements (skipLoop n)
    | '\x7b' =>
      advance
      skipMembers n true (← get).length
    | '"' =>
      advance
      let _ ← stringBody true
    | c => if c = '-' ∨ c.isDigit then skipNumber else
      let _ ← scalar
where
  skipMembers (n : Nat) (first : Bool) : Nat → Reader Unit
    | 0 => ended
    | m + 1 => do
      if ← hasMember first then
        advance
        let _ ← stringBody true
        colon
        skipLoop n
        skipMembers n false m
      else advance

def skipValue : Reader Unit := do skipLoop ((← get).length + 1)

/-- The value of a whole text. -/
def readText (p : Reader α) (text : String) : Except Fault α :=
  match p text.toList with
  | .ok (a, rest) => if rest.all isBlank then .ok a else .error .malformed
  | .error e => .error e

end LogicalSql.Json
