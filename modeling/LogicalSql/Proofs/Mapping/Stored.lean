import LogicalSql.Mapping.Catalog
import LogicalSql.Proofs.Mapping.PropertyText

/-! Table mappings as rows: what may be written reads back with the type index of its physical
name. -/
namespace LogicalSql

theorem TableType.ofName_name (type : TableType) : ofName type.name = .ok type := by
  cases type <;> decide +kernel

namespace TableMapping

/-- The mapping with the type index that its physical name ends with. -/
def stored (t : TableMapping) : TableMapping := { t with index := typeIndex? t.physicalName }

theorem ofRow_toRow {t : TableMapping} (h : t.checkProperties = .ok ()) :
    ofRow t.toRow = .ok t.stored := by
  have hproperties := parseProperties_of_checkProperties t.logicalName h
  have hrow : ofRow t.toRow = do
      let type ← TableType.ofName t.type.name
      let properties ← parseProperties t.logicalName (propertiesText t.properties)
      return { t with type, properties, index := typeIndex? t.physicalName } := rfl
  rw [hrow, TableType.ofName_name, hproperties]
  rfl

/-- An index that is given is the one in the physical name. -/
def Indexed (t : TableMapping) : Prop := ∀ i, t.index = some i → typeIndex? t.physicalName = some i

theorem storedIndex_eq_ok {t : TableMapping} {index : Option Int32} :
    t.storedIndex = .ok index ↔ t.Indexed ∧ index = typeIndex? t.physicalName := by
  unfold storedIndex Indexed
  cases hindex : t.index with
  | none => simp [eq_comm]
  | some i =>
    by_cases hname : typeIndex? t.physicalName = some i
    · simp [hname, eq_comm]
    · simp [hname]

end TableMapping

end LogicalSql
