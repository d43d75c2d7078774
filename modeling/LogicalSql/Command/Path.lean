/-! Paths by the parts between their slashes. -/
namespace LogicalSql.Command

/-- The texts between slashes, empty ones too. -/
def splitSlashes : List Char → List (List Char)
  | [] => [[]]
  | c :: cs =>
    if c = '/' then [] :: splitSlashes cs
    else match splitSlashes cs with
      | [] => [[c]]
      | part :: parts => (c :: part) :: parts

/-- An empty part and a single point lead nowhere. -/
def isIdlePart (part : List Char) : Bool := part == [] || part == ['.']

structure Path where
  /-- It starts at the root. -/
  rooted : Bool
  /-- It starts with a point, for the current directory. -/
  pointed : Bool
  parts : List String
  /-- It ends behind a slash or in a point, where only a directory can be. -/
  isFolder : Bool
  deriving DecidableEq, Repr

def Path.ofText (text : String) : Path :=
  let parts := splitSlashes text.toList
  { rooted := text.startsWith "/"
    pointed := parts.head? == some ['.']
    parts := (parts.filter (!isIdlePart ·)).map String.ofList
    isFolder := (parts.getLast?.map isIdlePart).getD true }

/-- A hyphen alone stands for the input, whatever slashes follow it. -/
def Path.isInput (path : Path) : Bool := !path.rooted && !path.pointed && path.parts == ["-"]

/-- Whether the path leads from the current directory to a file of it. -/
def Path.names (path : Path) (file : String) : Bool :=
  !path.rooted && !path.isFolder && path.parts == (Path.ofText file).parts

end LogicalSql.Command
