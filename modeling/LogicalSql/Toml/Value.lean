/-! Values of a TOML document, and how its lines build up tables. -/
namespace LogicalSql.Toml

/-- How a table came to be. -/
inductive Origin where
  | header
  /-- As the parent of a table with a header. -/
  | implied
  | dottedKey
  /-- Written as a value, and closed with it. -/
  | inline
  deriving DecidableEq

inductive Value where
  | string (value : String)
  | integer (value : Int)
  | float (value : Float)
  | boolean (value : Bool)
  | dateTime
  | array (items : List Value)
  | table (origin : Origin) (entries : List (String × Value))
  /-- The tables of a repeated header. -/
  | tables (items : List (List (String × Value)))

/-- In the order of the document. -/
abbrev Entries := List (String × Value)

abbrev Path := List String

def replace (key : String) (value : Value) (entries : Entries) : Entries :=
  entries.map fun e => if e.1 == key then (key, value) else e

/-- Changes the last of the tables of a repeated header. -/
def onLast (f : Entries → Option Entries) (items : List Entries) : Option (List Entries) := do
  let last ← items.getLast?
  return items.dropLast ++ [← f last]

/-- Adds a value under a dotted key. No key is given twice, and only tables that dotted keys made
are extended. -/
def insertPair (value : Value) : Path → Entries → Option Entries
  | [], _ => none
  | [key], entries =>
    if (entries.lookup key).isSome then none else some (entries ++ [(key, value)])
  | key :: next :: rest, entries =>
    match entries.lookup key with
    | none => do
      return entries ++ [(key, .table .dottedKey (← insertPair value (next :: rest) []))]
    | some (.table origin inner) =>
      if origin = .dottedKey ∨ origin = .implied ∧ rest ≠ [] then do
        return replace key (.table origin (← insertPair value (next :: rest) inner)) entries
      else none
    | some (.tables items) =>
      if rest ≠ [] then do
        return replace key (.tables (← onLast (insertPair value (next :: rest)) items)) entries
      else none
    | some _ => none

def insertPairs (pairs : List (Path × Value)) (entries : Entries) : Option Entries :=
  pairs.foldlM (fun entries pair => insertPair pair.2 pair.1 entries) entries

/-- Changes the table at a path. Tables that are not there yet are implied. -/
def onTable (f : Entries → Option Entries) : Path → Entries → Option Entries
  | [], entries => f entries
  | key :: rest, entries =>
    match entries.lookup key with
    | none => do return entries ++ [(key, .table .implied (← onTable f rest []))]
    | some (.table origin inner) =>
      if origin = .inline then none
      else do return replace key (.table origin (← onTable f rest inner)) entries
    | some (.tables items) => do
      return replace key (.tables (← onLast (onTable f rest) items)) entries
    | some _ => none

/-- A header and the pairs below it. -/
structure Block where
  path : Path
  /-- The header may be repeated, and each time there is another table. -/
  repeated : Bool
  pairs : List (Path × Value)

/-- A table that is only implied so far gets its header, and its place is then the last. -/
def defineTable (key : String) (pairs : List (Path × Value)) (entries : Entries) :
    Option Entries := do
  let start ← match entries.lookup key with
    | none => some []
    | some (.table .implied inner) => some inner
    | some _ => none
  let inner ← insertPairs pairs start
  return entries.filter (·.1 != key) ++ [(key, .table .header inner)]

def repeatTable (key : String) (pairs : List (Path × Value)) (entries : Entries) :
    Option Entries := do
  let inner ← insertPairs pairs []
  match entries.lookup key with
  | none => return entries ++ [(key, .tables [inner])]
  | some (.tables items) => return replace key (.tables (items ++ [inner])) entries
  | some _ => none

def Block.addTo (block : Block) (root : Entries) : Option Entries := do
  let key ← block.path.getLast?
  let add := if block.repeated then repeatTable key block.pairs else defineTable key block.pairs
  onTable add block.path.dropLast root

inductive Line where
  | pair (path : Path) (value : Value)
  | header (path : Path) (repeated : Bool)

/-- The pairs in front of the first header, and the headers with theirs. -/
def blocks : List Line → List (Path × Value) × List Block
  | [] => ([], [])
  | .pair path value :: rest => ((path, value) :: (blocks rest).1, (blocks rest).2)
  | .header path repeated :: rest => ([], ⟨path, repeated, (blocks rest).1⟩ :: (blocks rest).2)

def build (lines : List Line) : Option Entries := do
  let (pairs, tables) := blocks lines
  tables.foldlM (fun root block => block.addTo root) (← insertPairs pairs [])

end LogicalSql.Toml
