import LogicalSql.Text.Digits

/-! JSON text for people. -/
namespace LogicalSql.Json

inductive Value where
  | string (value : String)
  | integer (value : Int)
  | list (items : List Value)
  | object (members : List (String × Value))

/-- Quotes, backslashes and control characters are escaped. -/
def escaped (c : Char) : List Char :=
  match c with
  | '"' => ['\\', '"']
  | '\\' => ['\\', '\\']
  | '\n' => ['\\', 'n']
  | '\r' => ['\\', 'r']
  | '\t' => ['\\', 't']
  | c =>
    if c.toNat = 8 then ['\\', 'b']
    else if c.toNat = 12 then ['\\', 'f']
    else if c.toNat < 32 then
      ['\\', 'u', '0', '0', Text.hexDigit (c.toNat / 16), Text.hexDigit (c.toNat % 16)]
    else [c]

def quoted (s : String) : String :=
  String.ofList ('"' :: s.toList.flatMap escaped ++ ['"'])

def newLine (depth : Nat) : String := "\n" ++ "".pushn ' ' (2 * depth)

mutual

/-- Two blanks a level, each item on a line of its own. -/
def pretty (depth : Nat) : Value → String
  | .string s => quoted s
  | .integer n => toString n
  | .list [] => "[]"
  | .list (item :: items) =>
    "[" ++ newLine (depth + 1) ++ pretty (depth + 1) item ++ prettyItems (depth + 1) items ++
      newLine depth ++ "]"
  | .object [] => "\x7b\x7d"
  | .object ((name, value) :: members) =>
    "\x7b" ++ newLine (depth + 1) ++ quoted name ++ ": " ++ pretty (depth + 1) value ++
      prettyMembers (depth + 1) members ++ newLine depth ++ "\x7d"

def prettyItems (depth : Nat) : List Value → String
  | [] => ""
  | item :: items => "," ++ newLine depth ++ pretty depth item ++ prettyItems depth items

def prettyMembers (depth : Nat) : List (String × Value) → String
  | [] => ""
  | (name, value) :: members =>
    "," ++ newLine depth ++ quoted name ++ ": " ++ pretty depth value ++
      prettyMembers depth members

end

end LogicalSql.Json
