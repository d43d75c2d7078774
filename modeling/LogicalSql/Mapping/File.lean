import LogicalSql.Json.Print
import LogicalSql.Json.Record
import LogicalSql.Mapping.Table

/-! Mappings in a JSON document. -/
namespace LogicalSql

structure MappingFile where
  tables : List TableMapping := []
  enums : List EnumMapping := []

namespace MappingFile

open Json

/-! ## Properties -/

/-- What is read of a property. The members of its layout are kept until the layout is known. -/
structure PropertyDraft where
  name : Option String := none
  layout : List (String × Found) := []

/-- Lists and objects inside one another in a whole document. -/
def maxNesting : Nat := 127

/-- Those around a member of a property: the document, its tables, a table, its properties and
the property. -/
def propertyNesting : Nat := 5

def readPropertyMember (member : String) (draft : PropertyDraft) : Reader PropertyDraft := do
  if member = "propertyName" then
    if draft.name.isSome then throw (.shape (.repeated member))
    else
      colon
      return { draft with name := some (← string) }
  else
    colon
    let value ← anyValue (maxNesting - propertyNesting)
    return { draft with layout := draft.layout ++ [(member, value)] }

inductive LayoutKind where
  | single
  | union
  deriving DecidableEq

def LayoutKind.name : LayoutKind → String
  | .single => "single"
  | .union => "union"

/-- A layout is named, or numbered from zero. -/
def layoutKind : Found → Except ShapeError LayoutKind
  | .string s => variantNamed [.single, .union] LayoutKind.name s
  | .integer n =>
    if n = 0 then .ok .single
    else if n = 1 then .ok .union
    else if n < 0 then .error (.wrongType (.integer n) "variant identifier")
    else .error (.outOfRange n "variant index 0 <= i < 2")
  | found => .error (.wrongType found "variant identifier")

def asString : Found → Except ShapeError String
  | .string s => .ok s
  | found => .error (.wrongType found "a string")

def asOptionalString : Found → Except ShapeError (Option String)
  | .null => .ok none
  | found => return some (← asString found)

/-- The two members of a layout. The second may be null where `nullable` is. -/
def layoutMembers (first second : String) (nullable : Bool) :
    List (String × Found) → Option String → Option (Option String) →
      Except ShapeError (Option String × Option (Option String))
  | [], a, b => .ok (a, b)
  | (member, value) :: rest, a, b =>
    if member = first then
      match a with
      | some _ => .error (.repeated member)
      | none => do layoutMembers first second nullable rest (some (← asString value)) b
    else if member = second then
      match b with
      | some _ => .error (.repeated member)
      | none =>
        if nullable then do
          layoutMembers first second nullable rest a (some (← asOptionalString value))
        else do
          layoutMembers first second nullable rest a (some (some (← asString value)))
    else layoutMembers first second nullable rest a b

def singleLayout (rest : List (String × Found)) : Except ShapeError PropertyLayout := do
  let (column, target) ← layoutMembers "dbColumnName" "nestedTableName" true rest none none
  return .single (← need "dbColumnName" column) (target.getD none)

def unionLayout (rest : List (String × Found)) : Except ShapeError PropertyLayout := do
  let (reference, type) ←
    layoutMembers "referenceColumnName" "tableIndexColumnName" false rest none none
  let reference ← need "referenceColumnName" reference
  let type ← need "tableIndexColumnName" type
  return .union reference (type.getD "")

def layoutOf (entries : List (String × Found)) : Except ShapeError PropertyLayout :=
  match entries.filter (·.1 == "layout") with
  | [] => .error (.missing "layout")
  | (member, tag) :: more => do
    let kind ← layoutKind tag
    if !more.isEmpty then throw (.repeated member)
    let rest := entries.filter (·.1 != "layout")
    match kind with
    | .single => singleLayout rest
    | .union => unionLayout rest

def PropertyDraft.finish (draft : PropertyDraft) : Except ShapeError PropertyMapping := do
  let name ← need "propertyName" draft.name
  return ⟨name, ← layoutOf draft.layout⟩

/-- A property is always an object. -/
def property : Reader PropertyMapping := do
  if (← peek) = '\x7b' then
    advance
    shaped (PropertyDraft.finish (← members readPropertyMember {}))
  else unexpected "struct PropertyMapping"

/-! ## Tables -/

structure TableDraft where
  logicalName : Option String := none
  physicalName : Option String := none
  type : Option TableType := none
  properties : Option (List PropertyMapping) := none
  index : Option (Option Int32) := none

def TableDraft.finish (draft : TableDraft) : Except ShapeError TableMapping := do
  let logicalName ← need "queryTableName" draft.logicalName
  let physicalName ← need "dbTableName" draft.physicalName
  let type ← need "type" draft.type
  return ⟨logicalName, physicalName, type, draft.properties.getD [], draft.index.getD none⟩

def tableFields : List (FieldReader TableDraft) :=
  [⟨"queryTableName", true, (·.logicalName.isSome),
      fun d => return { d with logicalName := some (← string) }⟩,
    ⟨"dbTableName", true, (·.physicalName.isSome),
      fun d => return { d with physicalName := some (← string) }⟩,
    ⟨"type", true, (·.type.isSome),
      fun d => return { d with type := some (← variant TableType.all TableType.name) }⟩,
    ⟨"properties", false, (·.properties.isSome),
      fun d => return { d with properties := some (← list property) }⟩,
    ⟨"index", false, (·.index.isSome),
      fun d => return { d with index := some (← optional int32) }⟩]

def table : Reader TableMapping :=
  record ⟨"struct TableMapping", tableFields, {}, TableDraft.finish⟩

/-! ## Enumerations -/

structure EnumDraft where
  enumName : Option String := none
  valueName : Option String := none
  orderIndex : Option Int32 := none

def EnumDraft.finish (draft : EnumDraft) : Except ShapeError EnumMapping := do
  let enumName ← need "enumName" draft.enumName
  let valueName ← need "enumValueName" draft.valueName
  return ⟨enumName, valueName, ← need "orderIndex" draft.orderIndex⟩

def enumFields : List (FieldReader EnumDraft) :=
  [⟨"enumName", true, (·.enumName.isSome), fun d => return { d with enumName := some (← string) }⟩,
    ⟨"enumValueName", true, (·.valueName.isSome),
      fun d => return { d with valueName := some (← string) }⟩,
    ⟨"orderIndex", true, (·.orderIndex.isSome),
      fun d => return { d with orderIndex := some (← int32) }⟩]

def enumeration : Reader EnumMapping :=
  record ⟨"struct EnumMapping", enumFields, {}, EnumDraft.finish⟩

/-! ## The document -/

structure Draft where
  tables : Option (List TableMapping) := none
  enums : Option (List EnumMapping) := none

def fields : List (FieldReader Draft) :=
  [⟨"tables", false, (·.tables.isSome), fun d => return { d with tables := some (← list table) }⟩,
    ⟨"enums", false, (·.enums.isSome),
      fun d => return { d with enums := some (← list enumeration) }⟩]

def Draft.finish (draft : Draft) : MappingFile := ⟨draft.tables.getD [], draft.enums.getD []⟩

def parse (text : String) : Except Fault MappingFile :=
  readText (record ⟨"struct MappingFile", fields, {}, fun d => .ok d.finish⟩) text

end MappingFile

/-! ## Writing -/

def PropertyLayout.members : PropertyLayout → List (String × Json.Value)
  | .single column target =>
    [("layout", .string "single"), ("dbColumnName", .string column)] ++
      (target.map fun t => ("nestedTableName", Json.Value.string t)).toList
  | .union referenceColumn typeColumn =>
    [("layout", .string "union"), ("referenceColumnName", .string referenceColumn),
      ("tableIndexColumnName", .string typeColumn)]

def PropertyMapping.json (p : PropertyMapping) : Json.Value :=
  .object (("propertyName", .string p.name) :: p.layout.members)

/-- An absent index is left out. -/
def TableMapping.json (t : TableMapping) : Json.Value :=
  .object
    ([("queryTableName", .string t.logicalName), ("dbTableName", .string t.physicalName),
        ("type", .string t.type.name), ("properties", .list (t.properties.map PropertyMapping.json))] ++
      (t.index.map fun i => ("index", Json.Value.integer i.toInt)).toList)

end LogicalSql
