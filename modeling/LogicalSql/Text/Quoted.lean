/-! Text between quotes, where a quote inside is written twice. -/
namespace LogicalSql.Text

/-- Each occurrence of a character is replaced by these. -/
def replace (old : Char) (new cs : List Char) : List Char :=
  cs.flatMap fun c => if c = old then new else [c]

def doubleQuotes (quote : Char) (cs : List Char) : List Char := replace quote [quote, quote] cs

def quoted (quote : Char) (s : String) : String :=
  String.ofList (quote :: doubleQuotes quote s.toList ++ [quote])

/-- The text up to the closing quote, and what follows it. -/
def readQuoted? (quote : Char) : List Char → Option (List Char × List Char)
  | [] => none
  | [c] => if c = quote then some ([], []) else none
  | c :: d :: rest =>
    if c = quote then
      if d = quote then (readQuoted? quote rest).map fun (s, r) => (quote :: s, r)
      else some ([], d :: rest)
    else (readQuoted? quote (d :: rest)).map fun (s, r) => (c :: s, r)

end LogicalSql.Text
