import LogicalSql.Text.Upper

/-! The tokens of SQL text, where they stand and what parts them. -/
namespace LogicalSql.Surface

/-- A place in a text. Lines and columns count from one. -/
structure Place where
  line : Nat
  column : Nat
  deriving DecidableEq, Repr

def Place.advance (p : Place) (c : Char) : Place :=
  if c = '\n' then ⟨p.line + 1, 1⟩ else ⟨p.line, p.column + 1⟩

/-- From the first character of a part of a text to right behind its last one. -/
structure Extent where
  first : Place
  last : Place
  deriving DecidableEq, Repr

/-- The extent of what stands nowhere in the text. -/
def Extent.nowhere : Extent := ⟨⟨0, 0⟩, ⟨0, 0⟩⟩

/-- Ways to write a string other than between plain quotes. -/
inductive StringStyle where
  | escaped
  | unicode
  | national
  | hexadecimal
  | bits
  | quotedBits
  | dollar (tag : String)
  deriving DecidableEq, Repr

inductive Token where
  /-- An identifier or a keyword, with the quote that stood around it. -/
  | word (text : String) (quote : Option Char)
  /-- `long` marks a number with the letter `L` behind it. -/
  | number (digits : String) (long : Bool)
  | string (text : String)
  | styled (style : StringStyle) (text : String)
  | placeholder (text : String)
  | symbol (text : String)
  /-- A run of operator characters that is no operator of the language itself. -/
  | operator (text : String)
  deriving DecidableEq, Repr

/-- What parts two tokens. -/
inductive Blank where
  | space
  | tab
  | newline
  /-- A comment with its marks. -/
  | comment (text : String)
  deriving DecidableEq, Repr

/-- A token, where it stands, and the blanks up to the next one. -/
structure Lexeme where
  token : Token
  extent : Extent
  blanks : List Blank
  deriving DecidableEq, Repr

/-- The keyword that a word without quotes spells. Keywords ignore case. -/
def Token.keyword? : Token → Option String
  | .word text none => some (Text.upper text)
  | _ => none

def Token.isKeyword (t : Token) (keyword : String) : Bool := t.keyword? == some keyword

/-- Text that shows a name or a string between quotes. A quote that is doubled already, or that
follows a backslash, is not doubled again. -/
def escapeQuotes (quote : Char) : Char → List Char → List Char
  | _, [] => []
  | before, c :: cs =>
    if c ≠ quote then c :: escapeQuotes quote c cs
    else if before = '\\' then c :: escapeQuotes quote '\\' cs
    else match cs with
      | d :: rest => if d = quote then c :: d :: escapeQuotes quote c rest
        else c :: c :: escapeQuotes quote c (d :: rest)
      | [] => [c, c]

def showQuoted (quote : Char) (s : String) : String :=
  String.ofList (quote :: escapeQuotes quote (Char.ofNat 0) s.toList ++ [quote])

def escapeChar (c : Char) : List Char :=
  match c with
  | '\'' => ['\\', '\'']
  | '\\' => ['\\', '\\']
  | '\n' => ['\\', 'n']
  | '\t' => ['\\', 't']
  | '\r' => ['\\', 'r']
  | c => [c]

/-- Code points above ASCII as four or six hexadecimal digits. -/
def escapeUnicode (c : Char) : List Char :=
  let digits := (Nat.toDigits 16 c.toNat).map Char.toUpper
  match c with
  | '\'' => ['\'', '\'']
  | '\\' => ['\\', '\\']
  | c =>
    if c.toNat < 128 then [c]
    else if c.toNat ≤ 0xFFFF then '\\' :: List.replicate (4 - digits.length) '0' ++ digits
    else '\\' :: '+' :: List.replicate (6 - digits.length) '0' ++ digits

/-- A string as it is shown in its own style. -/
def StringStyle.show (text : String) : StringStyle → String
  | .escaped => "E'" ++ String.ofList (text.toList.flatMap escapeChar) ++ "'"
  | .unicode => "U&'" ++ String.ofList (text.toList.flatMap escapeUnicode) ++ "'"
  | .national => "N'" ++ text ++ "'"
  | .hexadecimal => "X'" ++ text ++ "'"
  | .bits => "B'" ++ text ++ "'"
  | .quotedBits => "B\"" ++ text ++ "\""
  | .dollar tag => "$" ++ tag ++ "$" ++ text ++ "$" ++ tag ++ "$"

/-- A string with its marks and without any escape. -/
def StringStyle.mark (text : String) : StringStyle → String
  | .escaped => "E'" ++ text ++ "'"
  | .unicode => "U&'" ++ text ++ "'"
  | style => style.show text

/-- A blank as it is written. Blanks other than tabs and ends of lines are spaces. -/
def Blank.show : Blank → String
  | .space => " "
  | .tab => "\t"
  | .newline => "\n"
  | .comment text => text

/-- A token as it is named where any token may stand. Nothing inside its quotes is escaped. -/
def Token.show : Token → String
  | .word text none => text
  | .word text (some quote) => String.singleton quote ++ text ++ String.singleton quote
  | .number digits long => digits ++ if long then "L" else ""
  | .string text => "'" ++ text ++ "'"
  | .styled style text => style.mark text
  | .placeholder text => text
  | .symbol text => text
  | .operator text => text

end LogicalSql.Surface
