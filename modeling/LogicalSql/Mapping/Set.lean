import LogicalSql.Mapping.Table

/-! A fixed set of table mappings, indexed by logical and by physical names. -/
namespace LogicalSql

/-- Where lowering asks for mappings. `none` means that there is no such table. -/
structure MappingSource where
  logical : String → Except MappingError (Option TableMapping)
  physical : String → Except MappingError (Option TableMapping)

/-- Table mappings under keys. -/
structure MappingIndex where
  entries : List (String × TableMapping) := []

namespace MappingIndex

def get? (index : MappingIndex) (key : String) : Option TableMapping :=
  (index.entries.find? (·.1 == key)).map Prod.snd

def contains (index : MappingIndex) (key : String) : Bool := (index.get? key).isSome

/-- A mapping takes the place of the one that had its key. -/
def insert (index : MappingIndex) (key : String) (t : TableMapping) : MappingIndex :=
  if index.contains key then
    ⟨index.entries.map fun entry => if entry.1 == key then (key, t) else entry⟩
  else ⟨index.entries ++ [(key, t)]⟩

def values (index : MappingIndex) : List TableMapping := index.entries.map Prod.snd

def size (index : MappingIndex) : Nat := index.entries.length

end MappingIndex

/-- Two indexes that are filled side by side. -/
structure MappingSet where
  byLogical : MappingIndex := {}
  byPhysical : MappingIndex := {}

namespace MappingSet

def empty : MappingSet := {}

/-- A logical name that is taken is reported before a physical one. -/
def insert (set : MappingSet) (t : TableMapping) : Except MappingError MappingSet := do
  if set.byLogical.contains t.logicalKey then
    throw (.duplicateName .logical t.logicalName)
  if set.byPhysical.contains t.physicalKey then
    throw (.duplicateName .physical t.physicalName)
  return {
    byLogical := set.byLogical.insert t.logicalKey t
    byPhysical := set.byPhysical.insert t.physicalKey t
  }

/-- Adds mappings in order. Each gets the type index of its physical name. -/
def insertAll : MappingSet → List TableMapping → Except MappingError MappingSet
  | set, [] => .ok set
  | set, t :: ts => do
    let index ← t.storedIndex
    (← set.insert { t with index }).insertAll ts

def ofList (tables : List TableMapping) : Except MappingError MappingSet := empty.insertAll tables

def tables (set : MappingSet) : List TableMapping := set.byLogical.values

def size (set : MappingSet) : Nat := set.byLogical.size

def byLogicalName? (set : MappingSet) (name : String) : Option TableMapping :=
  set.byLogical.get? (Text.lower name)

def byPhysicalName? (set : MappingSet) (name : String) : Option TableMapping :=
  set.byPhysical.get? (Text.lower name)

def source (set : MappingSet) : MappingSource where
  logical name := .ok (set.byLogicalName? name)
  physical name := .ok (set.byPhysicalName? name)

def checkProperty (set : MappingSet) (t : TableMapping) (p : PropertyMapping) :
    Except MappingError Unit :=
  match p.layout.target? with
  | none => .ok ()
  | some nested =>
    match set.byLogicalName? nested with
    | none => .error (.unknownNestedTable t.logicalName p.name nested)
    | some target =>
      if target.index.isNone then .error (.missingIndex target.logicalName) else .ok ()

/-- Every target of a property is in the set and has a type index. -/
def validate (set : MappingSet) : Except MappingError Unit :=
  set.tables.forM fun t => t.properties.forM (set.checkProperty t)

end MappingSet

end LogicalSql
