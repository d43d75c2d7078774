import LogicalSql.Calendar
import LogicalSql.Decimal.Floating
import LogicalSql.Text.Digits
import LogicalSql.Toml.Value

/-! Strings, numbers and dates in TOML text. -/
namespace LogicalSql.Toml

abbrev Reader := StateT (List Char) Option

variable {α : Type}

def next : Reader Char := do
  match ← get with
  | c :: cs =>
    set cs
    return c
  | [] => failure

def takeIf (p : Char → Bool) : Reader Bool := do
  match ← get with
  | c :: cs =>
    if p c then
      set cs
      return true
    else return false
  | [] => return false

def expect (c : Char) : Reader Unit := do
  if (← next) ≠ c then failure

def word (cs : List Char) : Reader Unit := cs.forM expect

def spanChars (p : Char → Bool) : Reader (List Char) := do
  let cs ← get
  set (cs.dropWhile p)
  return cs.takeWhile p

def attempt (p : Reader Unit) : Reader Unit := p <|> return

def isBlank (c : Char) : Bool := c == ' ' || c == '\t'

def blanks : Reader Unit := modify (·.dropWhile isBlank)

def newline : Reader Unit := do
  match ← get with
  | '\n' :: cs => set cs
  | '\r' :: '\n' :: cs => set cs
  | _ => failure

/-- A character that needs no escape. Of the control characters only the tab is one. -/
def isPlain (c : Char) : Bool := c == '\t' || (32 ≤ c.toNat && c.toNat != 127)

/-! ## Strings -/

def codeEscape (width : Nat) : Reader Char := do
  let cs ← get
  let values ← liftM ((cs.take width).mapM Text.hexValue?)
  let code := values.foldl (16 * · + ·) 0
  if values.length = width ∧ code.isValidChar then
    set (cs.drop width)
    return Char.ofNat code
  else failure

def escape : Reader Char := do
  match ← next with
  | 'b' => return Char.ofNat 8
  | 't' => return '\t'
  | 'n' => return '\n'
  | 'f' => return Char.ofNat 12
  | 'r' => return '\r'
  | '"' => return '"'
  | '\\' => return '\\'
  | 'u' => codeEscape 4
  | 'U' => codeEscape 8
  | _ => failure

def basicLoop : Nat → List Char → Reader String
  | 0, _ => failure
  | n + 1, done => do
    match ← next with
    | '"' => return String.ofList done.reverse
    | '\\' => basicLoop n ((← escape) :: done)
    | c => if isPlain c then basicLoop n (c :: done) else failure

/-- A string behind its opening quote. -/
def basicString : Reader String := do basicLoop (← get).length []

def literalString : Reader String := do
  let cs ← spanChars fun c => isPlain c && c != '\''
  expect '\''
  return String.ofList cs

def dropLines : List Char → List Char
  | '\r' :: '\n' :: cs => dropLines cs
  | c :: cs => if isBlank c || c == '\n' then dropLines cs else c :: cs
  | [] => []

/-- A backslash at the end of a line, behind the backslash itself. It drops the newline and all
blanks and newlines that follow. -/
def lineJoin : Reader Unit := do
  blanks
  newline
  modify dropLines

/-- Quotes within a string of several lines. Three of them end it, and up to two before those are
text. -/
def quoteRun (quote : Char) : Reader (List Char × Bool) := do
  let cs ← get
  let run := min (cs.takeWhile (· == quote)).length 5
  set (cs.drop run)
  if run < 3 then return (List.replicate run quote, false)
  else return (List.replicate (run - 3) quote, true)

def manyLinesLoop (quote : Char) (escapes : Bool) : Nat → List Char → Reader String
  | 0, _ => failure
  | n + 1, done => do
    match ← get with
    | [] => failure
    | c :: cs =>
      if c = quote then
        let (quotes, closed) ← quoteRun quote
        if closed then return String.ofList (quotes ++ done).reverse
        else manyLinesLoop quote escapes n (quotes ++ done)
      else if c = '\\' ∧ escapes then
        set cs
        let found ← (do lineJoin; return []) <|> (do return [← escape])
        manyLinesLoop quote escapes n (found ++ done)
      else if isPlain c then
        set cs
        manyLinesLoop quote escapes n (c :: done)
      else
        newline
        manyLinesLoop quote escapes n ('\n' :: done)

/-- A string behind three opening quotes. A newline right there is dropped. -/
def manyLines (quote : Char) (escapes : Bool) : Reader String := do
  attempt newline
  manyLinesLoop quote escapes ((← get).length + 1) []

def string : Reader String := do
  match ← get with
  | '"' :: '"' :: '"' :: cs =>
    set cs
    manyLines '"' true
  | '"' :: cs =>
    set cs
    basicString
  | '\'' :: '\'' :: '\'' :: cs =>
    set cs
    manyLines '\'' false
  | '\'' :: cs =>
    set cs
    literalString
  | _ => failure

/-! ## Dates and times -/

/-- A number of so many digits, in a range. -/
def fixedNat (width low high : Nat) : Reader Nat := do
  let cs ← get
  let digits := cs.take width
  let n := Text.digitsValue digits
  if digits.length = width ∧ digits.all Char.isDigit ∧ low ≤ n ∧ n ≤ high then
    set (cs.drop width)
    return n
  else failure

def date : Reader Unit := do
  let year ← fixedNat 4 0 9999
  expect '-'
  let month ← fixedNat 2 1 12
  expect '-'
  let _ ← fixedNat 2 1 (daysInMonth year month).toNat

/-- A sixtieth second is a leap second. -/
def time : Reader Unit := do
  let _ ← fixedNat 2 0 23
  expect ':'
  let _ ← fixedNat 2 0 59
  expect ':'
  let _ ← fixedNat 2 0 60
  attempt do
    expect '.'
    if (← spanChars Char.isDigit).isEmpty then failure

def zone : Reader Unit := do
  let c ← next
  if c = '+' ∨ c = '-' then
    let _ ← fixedNat 2 0 23
    expect ':'
    let _ ← fixedNat 2 0 59
  else if c ≠ 'Z' ∧ c ≠ 'z' then failure

def dateTime : Reader Unit :=
  (do
    date
    attempt do
      let c ← next
      if c ≠ 'T' ∧ c ≠ 't' ∧ c ≠ ' ' then failure
      time
      attempt zone) <|> time

/-! ## Numbers -/

/-- Digits behind a first one. An underscore stands between two digits only, and is dropped. -/
def spanDigits? (p : Char → Bool) : List Char → Option (List Char × List Char)
  | [] => some ([], [])
  | ['_'] => none
  | '_' :: c :: cs =>
    if p c then (spanDigits? p cs).map fun (ds, rest) => (c :: ds, rest) else none
  | c :: cs =>
    if p c then (spanDigits? p cs).map fun (ds, rest) => (c :: ds, rest) else some ([], c :: cs)

def digits (p : Char → Bool) : Reader (List Char) := do
  let c ← next
  if p c then
    let (ds, rest) ← spanDigits? p (← get)
    set rest
    return c :: ds
  else failure

/-- A whole number has no zeros in front. -/
def wholeDigits : Reader (List Char) := do
  if ← takeIf (· == '0') then return ['0'] else digits Char.isDigit

def isSign (c : Char) : Bool := c == '+' || c == '-'

def inRange (n : Int) : Reader Value :=
  if -0x8000000000000000 ≤ n ∧ n < 0x8000000000000000 then return .integer n else failure

def radixNumber (base : Nat) : Reader Value := do
  let isDigit (c : Char) := match Text.hexValue? c with
    | some n => decide (n < base)
    | none => false
  let ds ← digits isDigit
  inRange (ds.foldl (fun n c => base * n + (Text.hexValue? c).getD 0) 0)

/-- Numbers that are too large fail, but not below zero. -/
def decimalNumber (negative : Bool) : Reader Value := do
  let whole ← wholeDigits
  let pointed ← takeIf (· == '.')
  let places ← if pointed then digits Char.isDigit else pure []
  let scaled ← takeIf fun c => c == 'e' || c == 'E'
  if pointed || scaled then
    let below ← if scaled then (do
        let c := (← get).head?
        let _ ← takeIf isSign
        return c == some '-') else pure false
    let power ← if scaled then digits Char.isDigit else pure []
    let exponent : Int := Text.digitsValue power
    let d : Decimal := ⟨Text.digitsValue (whole ++ places),
      (if below then -exponent else exponent) - places.length⟩
    let x := d.toFloat
    if negative then return .float (-x)
    else if x.isInf then failure
    else return .float x
  else
    let n : Int := Text.digitsValue whole
    inRange (if negative then -n else n)

def signedNumber (negative : Bool) : Reader Value := do
  match (← get).head? with
  | some 'i' =>
    word ['i', 'n', 'f']
    return .float (if negative then -(1.0 / 0.0) else 1.0 / 0.0)
  | some 'n' =>
    word ['n', 'a', 'n']
    return .float (0.0 / 0.0)
  | _ => decimalNumber negative

def number : Reader Value := do
  match ← get with
  | '0' :: 'x' :: cs =>
    set cs
    radixNumber 16
  | '0' :: 'o' :: cs =>
    set cs
    radixNumber 8
  | '0' :: 'b' :: cs =>
    set cs
    radixNumber 2
  | '+' :: cs =>
    set cs
    signedNumber false
  | '-' :: cs =>
    set cs
    signedNumber true
  | _ => signedNumber false

end LogicalSql.Toml
