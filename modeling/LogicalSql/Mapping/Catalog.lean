import LogicalSql.Mapping.Set
import LogicalSql.Query.Tables
import LogicalSql.Storage.Backend

/-! Mappings kept in a storage. What was found once is remembered. -/
namespace LogicalSql

/-- Answers by key. An answer stays as it was first given. -/
abbrev Cache (κ ν : Type) := List (κ × ν)

namespace Cache

variable {κ ν : Type} [DecidableEq κ]

def get? (cache : Cache κ ν) (key : κ) : Option ν := (cache.find? (·.1 = key)).map (·.2)

/-- Keeps the value that is there already. -/
def remember (cache : Cache κ ν) (key : κ) (value : ν) : Cache κ ν :=
  if (cache.get? key).isSome then cache else (key, value) :: cache

end Cache

def tableMappingsDesc : TableDesc where
  schema := "mapping"
  name := "tableMappings"
  columns := [⟨"queryTableName", .varchar 200⟩, ⟨"dbName", .varchar 200⟩, ⟨"type", .varchar 50⟩,
    ⟨"properties", .text⟩]
  indexes := ["(lower(\"queryTableName\"))"]

def enumMappingsDesc : TableDesc where
  schema := "mapping"
  name := "enumMappings"
  columns := [⟨"enumName", .varchar 200⟩, ⟨"enumValueName", .varchar 200⟩, ⟨"orderIndex", .int4⟩]
  indexes := ["\"enumName\", \"orderIndex\""]

namespace TableMapping

def toRow (t : TableMapping) : Row :=
  [.text t.logicalName, .text t.physicalName, .text t.type.name, .text (propertiesText t.properties)]

def ofRow (row : Row) : Except MappingError TableMapping := do
  let text (i : Nat) : Except MappingError String :=
    (tableMappingsDesc.textAt row i).mapError .storage
  let logicalName ← text 0
  let physicalName ← text 1
  let type ← TableType.ofName (← text 2)
  let properties ← parseProperties logicalName (← text 3)
  return { logicalName, physicalName, type, properties, index := typeIndex? physicalName }

end TableMapping

def EnumMapping.toRow (e : EnumMapping) : Row :=
  [.text e.enumName, .text e.valueName, .integer e.orderIndex]

structure Catalog (σ : Type) where
  storage : σ
  logical : Cache String (Option TableMapping) := []
  physical : Cache String (Option TableMapping) := []
  enums : Cache (String × String) (Option Int32) := []

/-- A step on a catalog. A step that fails may have changed the catalog. -/
abbrev CatalogM (σ : Type) := ExceptT MappingError (StateM (Catalog σ))

namespace Catalog

variable {σ : Type}

/-- A step on the storage alone. -/
def onStorage {α : Type} (step : StorageM σ α) : CatalogM σ α := do
  let c ← get
  let (result, storage) := step.run.run c.storage
  set { c with storage }
  match result with
  | .ok a => return a
  | .error e => throw (.storage e)

variable [Storage σ]

/-- The first row with this name in the column. -/
def loadTable (column name : String) : CatalogM σ (Option TableMapping) := do
  match ← onStorage (Storage.select tableMappingsDesc [(column, .text name)]) with
  | row :: _ => return some (← TableMapping.ofRow row)
  | [] => return none

def loadEnumValue (enum value : String) : CatalogM σ (Option Int32) := do
  let keys := [("enumName", Value.text enum), ("enumValueName", Value.text value)]
  match ← onStorage (Storage.select enumMappingsDesc keys) with
  | row :: _ => return some (← (enumMappingsDesc.integerAt row 2).mapError MappingError.storage)
  | [] => return none

def rememberLogical (name : String) (answer : Option TableMapping) :
    CatalogM σ (Option TableMapping) := do
  modify fun c => { c with logical := c.logical.remember name answer }
  return ((← get).logical.get? name).getD answer

def rememberPhysical (name : String) (answer : Option TableMapping) :
    CatalogM σ (Option TableMapping) := do
  modify fun c => { c with physical := c.physical.remember name answer }
  return ((← get).physical.get? name).getD answer

def rememberEnumValue (key : String × String) (answer : Option Int32) :
    CatalogM σ (Option Int32) := do
  modify fun c => { c with enums := c.enums.remember key answer }
  return ((← get).enums.get? key).getD answer

/-- The mapping with this logical name. Case is ignored, but spellings are remembered apart. -/
def resolveLogical (name : String) : CatalogM σ (Option TableMapping) := do
  match (← get).logical.get? name with
  | some answer => return answer
  | none => rememberLogical name (← loadTable "queryTableName" name)

/-- The mapping with this physical name. Case is ignored, but spellings are remembered apart. -/
def resolvePhysical (name : String) : CatalogM σ (Option TableMapping) := do
  match (← get).physical.get? name with
  | some answer => return answer
  | none => rememberPhysical name (← loadTable "dbName" name)

/-- The position of a value in its enumeration. -/
def resolveEnumValue (enum value : String) : CatalogM σ (Option Int32) := do
  match (← get).enums.get? (enum, value) with
  | some answer => return answer
  | none => rememberEnumValue (enum, value) (← loadEnumValue enum value)

/-- Rejects a mapping that would not be read back unchanged. -/
def checkWritable (t : TableMapping) : Except MappingError Unit := do
  let _ ← t.storedIndex
  t.checkProperties

/-- The rows of some items, each as long as the table is wide. -/
def checkedRows {α : Type} (desc : TableDesc) (toRow : α → Row) (items : List α) :
    Except MappingError (List Row) :=
  items.mapM fun item => do
    let row := toRow item
    (desc.checkRow row).mapError .storage
    return row

/-- Replaces the rows of a table. All rows are checked before the storage is asked. -/
def recreate {α : Type} (desc : TableDesc) (toRow : α → Row) (items : List α) :
    CatalogM σ Unit := do
  let rows ← checkedRows desc toRow items
  onStorage (Storage.recreate desc rows)

/-- Replaces all table mappings, or none. -/
def writeTables (tables : List TableMapping) : CatalogM σ Unit := do
  tables.forM fun t => (checkWritable t : CatalogM σ Unit)
  recreate tableMappingsDesc TableMapping.toRow tables

/-- Replaces all enumeration mappings. -/
def writeEnums (enums : List EnumMapping) : CatalogM σ Unit :=
  recreate enumMappingsDesc EnumMapping.toRow enums

/-- Loads a table, and the tables that its properties always refer to. -/
def warmTable (name : String) : CatalogM σ Unit := do
  match ← resolvePhysical name with
  | some t => t.targets.forM fun target => do
      let _ ← resolveLogical target
  | none => return

/-- Loads all that lowering the query can ask for. -/
def warm (query : Query) : CatalogM σ Unit := query.tableNameSet.forM warmTable

/-- What was remembered, without a look at the storage. -/
def source (c : Catalog σ) : MappingSource where
  logical name :=
    match c.logical.get? name with
    | some answer => .ok answer
    | none => .error (.notLoaded name)
  physical name :=
    match c.physical.get? name with
    | some answer => .ok answer
    | none => .error (.notLoaded name)

end Catalog

end LogicalSql
