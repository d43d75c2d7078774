import LogicalSql.Text.Span

/-! White space of every script and its removal from the ends of a text, texts cut at a separator,
and texts cut into lines. -/
namespace LogicalSql.Text

def blankSpans : List Span := [
  (0x9, 0xD), (0x20, 0x20), (0x85, 0x85), (0xA0, 0xA0), (0x1680, 0x1680), (0x2000, 0x200A),
  (0x2028, 0x2029), (0x202F, 0x202F), (0x205F, 0x205F), (0x3000, 0x3000)]

def isBlank (c : Char) : Bool := inSpans blankSpans c

def trimStart (cs : List Char) : List Char := cs.dropWhile isBlank

def trimEnd (cs : List Char) : List Char := (cs.reverse.dropWhile isBlank).reverse

/-- Blanks inside the text stay. -/
def trim (s : String) : String := String.ofList (trimEnd (trimStart s.toList))

/-- One piece more than there are separators. -/
def splitOn (sep : Char) : List Char → List (List Char)
  | [] => [[]]
  | c :: cs =>
    if c = sep then [] :: splitOn sep cs
    else match splitOn sep cs with
      | p :: ps => (c :: p) :: ps
      | [] => [[c]]

def stripReturn (line : List Char) : List Char :=
  if line.getLast? = some '\r' then line.dropLast else line

/-- The last piece has no line feed behind it: it is no line if empty, and keeps its carriage
return otherwise. -/
def endLines : List (List Char) → List (List Char)
  | [] => []
  | [last] => if last.isEmpty then [] else [last]
  | line :: rest => stripReturn line :: endLines rest

/-- Lines end with a line feed, or with a carriage return and a line feed. -/
def lines (s : String) : List String := (endLines (splitOn '\n' s.toList)).map String.ofList

end LogicalSql.Text
