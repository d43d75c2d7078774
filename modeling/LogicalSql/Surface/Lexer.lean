import LogicalSql.Surface.Token
import LogicalSql.Text.Digits
import LogicalSql.Text.Lines
import LogicalSql.Text.Numeric
import LogicalSql.Text.Quoted

/-! SQL text cut into tokens. -/
namespace LogicalSql.Surface

/-- A token or a blank. -/
inductive Piece where
  | token (token : Token)
  | blank (blank : Blank)
  deriving DecidableEq, Repr

/-- A piece with the text behind it. `none` is a piece that is not closed. -/
abbrev Lexed := Option (Piece × List Char)

def startsWord (c : Char) : Bool := Text.isAlphabetic c || c == '_'

def continuesWord (c : Char) : Bool := Text.isAlphabetic c || c.isDigit || c == '$' || c == '_'

def isOperatorChar (c : Char) : Bool :=
  c == '+' || c == '-' || c == '*' || c == '/' || c == '<' || c == '>' || c == '=' || c == '~' ||
    c == '!' || c == '@' || c == '#' || c == '%' || c == '^' || c == '&' || c == '|' ||
    c == Char.ofNat 0x60 || c == '?'

def lexWord (first : Char) (cs : List Char) : Lexed :=
  some (.token (.word (String.ofList (first :: cs.takeWhile continuesWord)) none),
    cs.dropWhile continuesWord)

def symbol (text : String) (rest : List Char) : Lexed := some (.token (.symbol text), rest)

/-- Operator characters right behind this operator make it another one. -/
def lexOperator (text : String) (cs : List Char) : Lexed :=
  match cs.takeWhile isOperatorChar with
  | [] => symbol text cs
  | more => some (.token (.operator (text ++ String.ofList more)), cs.dropWhile isOperatorChar)

/-- What follows a comment that may hold further comments, at the given depth. A slash or a star may
serve two marks, as the last character of one and the first of the next. -/
def skipComment (depth : Nat) (before : Char) : List Char → Option (List Char)
  | [] => none
  | c :: cs =>
    if before = '/' ∧ c = '*' then skipComment (depth + 1) c cs
    else if before = '*' ∧ c = '/' then
      if depth = 0 then some cs else skipComment (depth - 1) c cs
    else skipComment depth c cs

/-- A comment, behind its first mark. -/
def lexComment (cs : List Char) : Lexed :=
  (skipComment 0 ' ' cs).map fun rest =>
    (.blank (.comment ("/*" ++ String.ofList (cs.take (cs.length - rest.length)))), rest)

/-- A comment up to the end of its line, which is part of it. -/
def lexLineComment (cs : List Char) : Lexed :=
  let text := cs.takeWhile (· != '\n')
  match cs.dropWhile (· != '\n') with
  | [] => some (.blank (.comment ("--" ++ String.ofList text)), [])
  | _ :: rest => some (.blank (.comment ("--" ++ String.ofList text ++ "\n")), rest)

/-- A carriage return ends a line, with the line feed behind it. -/
def lexBlank (c : Char) (cs : List Char) : Lexed :=
  match c, cs with
  | '\t', _ => some (.blank .tab, cs)
  | '\n', _ => some (.blank .newline, cs)
  | '\r', '\n' :: rest => some (.blank .newline, rest)
  | '\r', _ => some (.blank .newline, cs)
  | _, _ => some (.blank .space, cs)

def quotedToken (quote : Char) (token : String → Token) (cs : List Char) : Lexed :=
  (Text.readQuoted? quote cs).map fun (s, rest) => (.token (token (String.ofList s)), rest)

/-- A string where a backslash makes the next character literal or a control
character. -/
def readBackslashed? : List Char → Option (List Char × List Char)
  | [] => none
  | '\\' :: c :: rest =>
    let c := match c with
      | '0' => Char.ofNat 0
      | 'a' => Char.ofNat 7
      | 'b' => Char.ofNat 8
      | 'f' => Char.ofNat 12
      | 'n' => '\n'
      | 'r' => '\r'
      | 't' => '\t'
      | 'Z' => Char.ofNat 26
      | c => c
    (readBackslashed? rest).map fun (s, r) => (c :: s, r)
  | '\'' :: '\'' :: rest => (readBackslashed? rest).map fun (s, r) => ('\'' :: s, r)
  | '\'' :: rest => some ([], rest)
  | c :: rest => (readBackslashed? rest).map fun (s, r) => (c :: s, r)

def hexNumber? (cs : List Char) : Option Nat :=
  cs.foldlM (fun n c => (Text.hexValue? c).map (16 * n + ·)) 0

/-- Digits behind an optional plus. -/
def signedHexNumber? : List Char → Option Nat
  | '+' :: c :: cs => hexNumber? (c :: cs)
  | cs => hexNumber? cs

/-- A code point that a character can have. -/
def charOfNat? (n : Nat) : Option Char := if n.isValidChar then some (Char.ofNat n) else none

def octalValue? (c : Char) : Option Nat :=
  if '0' ≤ c ∧ c ≤ '7' then some (c.toNat - '0'.toNat) else none

/-- Bytes above 127 are no characters. -/
def byteChar? (n : Nat) : Option Char := if n % 256 ≤ 127 then some (Char.ofNat (n % 256)) else none

/-- What a backslash and the characters behind it stand for. The zero character is refused. -/
def unescape? : List Char → Option (Char × List Char)
  | [] => none
  | 'b' :: rest => some (Char.ofNat 8, rest)
  | 'f' :: rest => some (Char.ofNat 12, rest)
  | 'n' :: rest => some ('\n', rest)
  | 'r' :: rest => some ('\r', rest)
  | 't' :: rest => some ('\t', rest)
  | 'u' :: rest => unicode 4 rest
  | 'U' :: rest => unicode 8 rest
  | 'x' :: rest =>
    let digits := (rest.take 2).takeWhile fun c => (Text.hexValue? c).isSome
    if digits.isEmpty then some ('x', rest)
    else do
      let c ← byteChar? (← hexNumber? digits)
      pure (c, rest.drop digits.length)
  | c :: rest =>
    match octalValue? c with
    | none => some (c, rest)
    | some n => do
      let digits := (rest.take 2).takeWhile fun c => (octalValue? c).isSome
      let value := digits.foldl (fun n c => 8 * n + (octalValue? c).getD 0) n
      let c ← byteChar? value
      pure (c, rest.drop digits.length)
where
  unicode (n : Nat) (rest : List Char) : Option (Char × List Char) := do
    if rest.length < n then none
    let c ← charOfNat? (← signedHexNumber? (rest.take n))
    pure (c, rest.drop n)

/-- A string with backslash escapes, up to its closing quote. -/
def readEscaped? : Nat → List Char → Option (List Char × List Char)
  | 0, _ => none
  | _, [] => none
  | fuel + 1, '\'' :: '\'' :: rest => (readEscaped? fuel rest).map fun (s, r) => ('\'' :: s, r)
  | _, '\'' :: rest => some ([], rest)
  | fuel + 1, '\\' :: rest => do
    let (c, rest) ← unescape? rest
    if c.toNat = 0 then none
    let (s, r) ← readEscaped? fuel rest
    pure (c :: s, r)
  | fuel + 1, c :: rest => (readEscaped? fuel rest).map fun (s, r) => (c :: s, r)

def takeHexChar? (n : Nat) (cs : List Char) : Option (Char × List Char) := do
  if cs.length < n then none
  let c ← charOfNat? (← hexNumber? (cs.take n))
  pure (c, cs.drop n)

/-- A string whose code points may be written as four or, behind a plus, six digits. -/
def readUnicode? : Nat → List Char → Option (List Char × List Char)
  | 0, _ => none
  | _, [] => none
  | fuel + 1, '\'' :: '\'' :: rest => (readUnicode? fuel rest).map fun (s, r) => ('\'' :: s, r)
  | _, '\'' :: rest => some ([], rest)
  | fuel + 1, '\\' :: '\\' :: rest => (readUnicode? fuel rest).map fun (s, r) => ('\\' :: s, r)
  | fuel + 1, '\\' :: '+' :: rest => do
    let (c, rest) ← takeHexChar? 6 rest
    let (s, r) ← readUnicode? fuel rest
    pure (c :: s, r)
  | fuel + 1, '\\' :: rest => do
    let (c, rest) ← takeHexChar? 4 rest
    let (s, r) ← readUnicode? fuel rest
    pure (c :: s, r)
  | fuel + 1, c :: rest => (readUnicode? fuel rest).map fun (s, r) => (c :: s, r)

/-- The text up to the next mark of a tag between two dollar signs, and what follows it. A tag that
begins and goes on otherwise is text, with the character that differs, so that no mark begins in
it. -/
def readTagged? (tag : List Char) : Nat → List Char → Option (List Char × List Char)
  | 0, _ => none
  | _, [] => none
  | fuel + 1, '$' :: rest =>
    let same := (tag.zip rest).takeWhile fun (a, b) => a == b
    let matched := same.length
    let (more, rest') := match (tag.drop matched), rest.drop matched with
      | [], '$' :: after => (none, after)
      | [], after => (some (rest.take matched), after)
      | _ :: _, after => (some (rest.take (matched + 1)), after.drop 1)
    match more with
    | none => some ([], rest')
    | some text => (readTagged? tag fuel rest').map fun (s, r) => ('$' :: text ++ s, r)
  | fuel + 1, c :: rest => (readTagged? tag fuel rest).map fun (s, r) => (c :: s, r)

/-- A placeholder, or a string between two equal marks of dollar signs. -/
def lexDollar (cs : List Char) : Lexed :=
  let isPart := fun c => Text.isAlphanumeric c || c == '_'
  let tag := cs.takeWhile isPart
  match cs.dropWhile isPart with
  | '$' :: rest =>
    (readTagged? tag (rest.length + 1) rest).map fun (s, r) =>
      (.token (.styled (.dollar (String.ofList tag)) (String.ofList s)), r)
  | rest => some (.token (.placeholder ("$" ++ String.ofList tag)), rest)

/-- The exponent of a number: its mark counts only with a digit behind it. -/
def lexExponent (cs : List Char) : List Char × List Char :=
  match cs with
  | e :: rest =>
    if e = 'e' ∨ e = 'E' then
      let (sign, digits) := match rest with
        | '+' :: ds => (['+'], ds)
        | '-' :: ds => (['-'], ds)
        | ds => ([], ds)
      if (digits.takeWhile Char.isDigit).isEmpty then ([], cs)
      else (e :: sign ++ digits.takeWhile Char.isDigit, digits.dropWhile Char.isDigit)
    else ([], cs)
  | [] => ([], [])

/-- Digits with an optional point and exponent. A point alone is a symbol. -/
def lexNumber (cs : List Char) : Lexed :=
  let whole := cs.takeWhile Char.isDigit
  match whole, cs.dropWhile Char.isDigit with
  | ['0'], 'x' :: rest =>
    let isHex := fun c => (Text.hexValue? c).isSome
    some (.token (.styled .hexadecimal (String.ofList (rest.takeWhile isHex))), rest.dropWhile isHex)
  | _, rest =>
    let (digits, rest) := match rest with
      | '.' :: ds => (whole ++ '.' :: ds.takeWhile Char.isDigit, ds.dropWhile Char.isDigit)
      | ds => (whole, ds)
    if digits = ['.'] then symbol "." rest
    else
      let (exponent, rest) := lexExponent rest
      let digits := String.ofList (digits ++ exponent)
      match rest with
      | 'L' :: rest => some (.token (.number digits true), rest)
      | rest => some (.token (.number digits false), rest)

/-- Letters that begin another kind of string when a quote follows. -/
def lexLetter (c : Char) (cs : List Char) : Lexed :=
  match c, cs with
  | 'b', '\'' :: rest | 'B', '\'' :: rest => quotedToken '\'' (.styled .bits) rest
  | 'b', '"' :: rest | 'B', '"' :: rest => quotedToken '"' (.styled .quotedBits) rest
  | 'n', '\'' :: rest | 'N', '\'' :: rest =>
    (readBackslashed? rest).map fun (s, r) => (.token (.styled .national (String.ofList s)), r)
  | 'e', '\'' :: rest | 'E', '\'' :: rest =>
    (readEscaped? rest.length rest).map fun (s, r) =>
      (.token (.styled .escaped (String.ofList s)), r)
  | 'u', '&' :: '\'' :: rest | 'U', '&' :: '\'' :: rest =>
    (readUnicode? rest.length rest).map fun (s, r) =>
      (.token (.styled .unicode (String.ofList s)), r)
  | 'x', '\'' :: rest | 'X', '\'' :: rest =>
    (readBackslashed? rest).map fun (s, r) => (.token (.styled .hexadecimal (String.ofList s)), r)
  | c, cs => lexWord c cs

/-- The piece that starts with `c`, where `cs` follows. -/
def lexToken (c : Char) (cs : List Char) : Lexed :=
  match c, cs with
  | '\'', _ => quotedToken '\'' .string cs
  | '"', _ => quotedToken '"' (.word · (some '"')) cs
  | '.', _ => lexNumber ('.' :: cs)
  | '-', '-' :: rest => lexLineComment rest
  | '-', '>' :: '>' :: rest => lexOperator "->>" rest
  | '-', '>' :: rest => lexOperator "->" rest
  | '-', rest => lexOperator "-" rest
  | '/', '*' :: rest => lexComment rest
  | '/', rest => symbol "/" rest
  | '%', rest =>
    match rest with
    | d :: _ => if Text.isBlank d then symbol "%" rest else lexOperator "%" rest
    | [] => symbol "%" []
  | '|', '/' :: rest => lexOperator "|/" rest
  | '|', '|' :: '/' :: rest => lexOperator "||/" rest
  | '|', '|' :: rest => lexOperator "||" rest
  | '|', rest => lexOperator "|" rest
  | '=', '>' :: rest => symbol "=>" rest
  | '=', '=' :: rest => symbol "==" rest
  | '!', '=' :: rest => symbol "<>" rest
  | '!', '!' :: rest => symbol "!!" rest
  | '!', '~' :: '*' :: rest => symbol "!~*" rest
  | '!', '~' :: '~' :: '*' :: rest => symbol "!~~*" rest
  | '!', '~' :: '~' :: rest => symbol "!~~" rest
  | '!', '~' :: rest => symbol "!~" rest
  | '<', '=' :: '>' :: rest => lexOperator "<=>" rest
  | '<', '=' :: rest => lexOperator "<=" rest
  | '<', '>' :: rest => lexOperator "<>" rest
  | '<', '<' :: rest => lexOperator "<<" rest
  | '<', '@' :: rest => lexOperator "<@" rest
  | '<', rest => lexOperator "<" rest
  | '>', '=' :: rest => lexOperator ">=" rest
  | '>', '>' :: rest => lexOperator ">>" rest
  | '>', rest => lexOperator ">" rest
  | ':', ':' :: rest => symbol "::" rest
  | ':', '=' :: rest => symbol ":=" rest
  | '&', '&' :: rest => lexOperator "&&" rest
  | '&', rest => lexOperator "&" rest
  | '^', '@' :: rest => symbol "^@" rest
  | '~', '*' :: rest => lexOperator "~*" rest
  | '~', '~' :: '*' :: rest => lexOperator "~~*" rest
  | '~', '~' :: rest => lexOperator "~~" rest
  | '~', rest => lexOperator "~" rest
  | '#', '-' :: rest => lexOperator "#-" rest
  | '#', '>' :: '>' :: rest => lexOperator "#>>" rest
  | '#', '>' :: rest => lexOperator "#>" rest
  | '#', rest => lexOperator "#" rest
  | '@', '>' :: rest => symbol "@>" rest
  | '@', '?' :: rest => symbol "@?" rest
  | '@', '@' :: rest => symbol "@@" rest
  | '@', rest => symbol "@" rest
  | '?', '|' :: rest => symbol "?|" rest
  | '?', '&' :: rest => symbol "?&" rest
  | '?', rest => symbol "?" (rest.drop 1)
  | '$', rest => lexDollar rest
  | c, rest =>
    if c.isDigit then lexNumber (c :: rest)
    else if startsWord c then lexLetter c rest
    else if Text.isBlank c then lexBlank c rest
    else symbol (String.singleton c) rest

/-- The tokens of a text that starts at `here`, behind the blanks in front of them. No piece reads
beyond what stands behind it, so the texts shrink. -/
def tokenizeFrom (here : Place) (cs : List Char) : Option (List Blank × List Lexeme) :=
  match cs with
  | [] => some ([], [])
  | c :: cs =>
    match lexToken c cs with
    | none => none
    | some (piece, rest) =>
      if rest.length ≤ cs.length then
        let there := ((c :: cs).take (cs.length + 1 - rest.length)).foldl Place.advance here
        (tokenizeFrom there rest).map fun (blanks, lexemes) =>
          match piece with
          | .token token => ([], ⟨token, ⟨here, there⟩, blanks⟩ :: lexemes)
          | .blank blank => (blank :: blanks, lexemes)
      else none
termination_by cs.length

/-- All tokens of a text. -/
def tokenize (cs : List Char) : Option (List Lexeme) := (tokenizeFrom ⟨1, 1⟩ cs).map (·.2)

end LogicalSql.Surface
