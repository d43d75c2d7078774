import LogicalSql.Proofs.Mapping.Written

/-! Mappings that may not be written. A list with one of them is refused as a whole: the first of
them is reported, and what is stored and remembered stays. -/
namespace LogicalSql

namespace TableMapping

variable {t : TableMapping} {e : MappingError}

/-- The mapping reads back from its row as it is, but for an index that was left out. -/
structure Writable (t : TableMapping) : Prop where
  index : t.Indexed
  properties : ∀ p ∈ t.properties, p.isStorable = true

/-- What is reported of a mapping that may not be written: its index or, where that is right, the
first of its properties that is not storable. -/
inductive Refused (t : TableMapping) : MappingError → Prop
  | index {i : Int32} (hindex : t.index = some i) (hname : typeIndex? t.physicalName ≠ some i) :
      t.Refused (.indexMismatch t.logicalName i t.physicalName)
  | property {before after : List PropertyMapping} {p : PropertyMapping} (hindex : t.Indexed)
      (hfirst : t.properties = before ++ p :: after)
      (hbefore : ∀ q ∈ before, q.isStorable = true) (hp : p.isStorable = false) :
      t.Refused (.malformedProperty t.logicalName p.text)

theorem refused_of_storedIndex (h : t.storedIndex = .error e) : t.Refused e := by
  unfold storedIndex at h
  cases hindex : t.index with
  | none => simp [hindex] at h
  | some i =>
    by_cases hname : typeIndex? t.physicalName = some i
    · simp [hindex, hname] at h
    · have he : MappingError.indexMismatch t.logicalName i t.physicalName = e := by
        simpa [hindex, hname] using h
      rw [← he]
      exact .index hindex hname

theorem refused_of_checkProperties (hindex : t.Indexed) (h : t.checkProperties = .error e) :
    t.Refused e := by
  unfold checkProperties at h
  cases hfind : t.properties.find? (!·.isStorable) with
  | none => simp [hfind] at h
  | some p =>
    have he : MappingError.malformedProperty t.logicalName p.text = e := by
      simpa [hfind] using h
    obtain ⟨hp, before, after, hfirst, hbefore⟩ := List.find?_eq_some_iff_append.1 hfind
    rw [← he]
    exact .property hindex hfirst (by simpa using hbefore) (by simpa using hp)

theorem not_writable_iff :
    ¬t.Writable ↔ (∃ i, t.index = some i ∧ typeIndex? t.physicalName ≠ some i) ∨
      ∃ p ∈ t.properties, p.isStorable = false := by
  constructor
  · intro h
    by_cases hindex : t.Indexed
    · right
      have hproperties : ¬∀ p ∈ t.properties, p.isStorable = true := fun hp => h ⟨hindex, hp⟩
      simpa using hproperties
    · left
      simpa [Indexed] using hindex
  · rintro (⟨i, hi, hname⟩ | ⟨p, hp, hstorable⟩) hw
    · exact hname (hw.index i hi)
    · have := hw.properties p hp
      simp [hstorable] at this

end TableMapping

namespace Catalog

open TableMapping

variable {t : TableMapping} {e : MappingError} {tables : List TableMapping}

theorem checkWritable_eq (t : TableMapping) :
    checkWritable t = t.storedIndex >>= fun _ => t.checkProperties := rfl

theorem checkWritable_eq_ok : checkWritable t = .ok () ↔ t.Writable := by
  rw [checkWritable_eq, bind_eq_ok]
  constructor
  · rintro ⟨index, hindex, hproperties⟩
    exact ⟨(storedIndex_eq_ok.1 hindex).1, checkProperties_eq_ok.1 hproperties⟩
  · intro h
    exact ⟨_, storedIndex_eq_ok.2 ⟨h.index, rfl⟩, checkProperties_eq_ok.2 h.properties⟩

theorem forM_checkWritable_eq_ok :
    tables.forM checkWritable = .ok () ↔ ∀ t ∈ tables, t.Writable := by
  simp only [forM_eq_ok, checkWritable_eq_ok]

theorem refused_of_checkWritable (h : checkWritable t = .error e) : t.Refused e := by
  rw [checkWritable_eq] at h
  cases hindex : t.storedIndex with
  | error e' =>
    rw [hindex] at h
    cases h
    exact refused_of_storedIndex hindex
  | ok index =>
    rw [hindex] at h
    exact refused_of_checkProperties (storedIndex_eq_ok.1 hindex).1 h

/-- The mappings before the one that is reported may all be written. -/
theorem first_refused (h : tables.forM checkWritable = .error e) :
    ∃ before t after, tables = before ++ t :: after ∧ (∀ s ∈ before, s.Writable) ∧
      t.Refused e := by
  obtain ⟨before, t, after, hsplit, hbefore, ht⟩ := first_of_forM_eq_error h
  have hwritable : ∀ s ∈ before, s.Writable := fun s hs => checkWritable_eq_ok.1 (hbefore s hs)
  exact ⟨before, t, after, hsplit, hwritable, refused_of_checkWritable ht⟩

theorem run_writeTables_of_error {σ : Type} [Storage σ] (h : tables.forM checkWritable = .error e)
    (c : Catalog σ) : (writeTables tables).run.run c = (.error e, c) := by
  rw [run_writeTables_eq, h]

theorem writeTables_fails_iff {c : Catalog MemoryStorage} :
    (∃ e, ((writeTables tables).run.run c).1 = .error e) ↔ ¬∀ t ∈ tables, t.Writable := by
  rw [← forM_checkWritable_eq_ok]
  cases hchecks : tables.forM checkWritable with
  | error e => simp [run_writeTables_of_error hchecks]
  | ok => simp [run_writeTables (forM_eq_ok.1 hchecks)]

/-- A write fails just when one of the mappings has an index that is not the one in its physical
name or a property that is not storable. It then reports the first such mapping and changes nothing.
Otherwise the table has a row of four values for each mapping, in their order, and nothing else is
changed. -/
theorem writeTables_all_or_nothing (tables : List TableMapping) (c : Catalog MemoryStorage) :
    ((∃ e, ((writeTables tables).run.run c).1 = .error e) ↔
      ∃ t ∈ tables, (∃ i, t.index = some i ∧ typeIndex? t.physicalName ≠ some i) ∨
        ∃ p ∈ t.properties, p.isStorable = false) ∧
    (∀ e c', (writeTables tables).run.run c = (.error e, c') →
      c' = c ∧ ∃ before t after, tables = before ++ t :: after ∧ (∀ s ∈ before, s.Writable) ∧
        t.Refused e) ∧
    ∀ c', (writeTables tables).run.run c = (.ok (), c') →
      c'.storage.rows tableMappingsDesc = tables.map (fun t =>
        [.text t.logicalName, .text t.physicalName, .text t.type.name,
          .text (propertiesText t.properties)]) ∧
      c'.storage.rows enumMappingsDesc = c.storage.rows enumMappingsDesc ∧
      c'.storage.selects = c.storage.selects ∧
      c'.logical = c.logical ∧ c'.physical = c.physical ∧ c'.enums = c.enums := by
  refine ⟨?_, fun e c' h => ?_, fun c' h => ?_⟩
  · rw [writeTables_fails_iff]
    simp only [← not_writable_iff, not_forall, exists_prop]
  · cases hchecks : tables.forM checkWritable with
    | error e' =>
      rw [run_writeTables_of_error hchecks] at h
      cases h
      exact ⟨rfl, first_refused hchecks⟩
    | ok =>
      rw [run_writeTables (forM_eq_ok.1 hchecks)] at h
      cases h
  · have hwritable := writable_of_writeTables (congrArg Prod.fst h)
    have hne : enumMappingsDesc.qualifiedName ≠ tableMappingsDesc.qualifiedName := by decide
    rw [run_writeTables hwritable] at h
    cases h
    exact ⟨MemoryStorage.rows_put .., MemoryStorage.rows_put_of_ne _ _ hne, rfl, rfl, rfl, rfl⟩

/-- Of two mappings with several faults each, the first is reported, by its index if that is
wrong. -/
theorem writeTables_first_fault :
    let items : TableMapping :=
      { logicalName := "Catalog.Items", physicalName := "_Reference5", type := .catalog
        index := some 5 }
    let orders : TableMapping :=
      { logicalName := "Document.Orders", physicalName := "_Document9", type := .document
        properties := [⟨"Number", .single "_number" none⟩, ⟨"A|B", .single "_ab" none⟩,
          ⟨"", .union "_c" "_d"⟩] }
    let goods : TableMapping := { orders with logicalName := "Catalog.Goods", index := some 8 }
    let c : Catalog MemoryStorage :=
      { storage := { tables := [("mapping.tableMappings", [items.toRow])], selects := 1 }
        logical := [("CATALOG.ITEMS", some items)] }
    let write (tables : List TableMapping) := (writeTables tables).run.run c
    (write [items, orders, goods]).1 =
        .error (.malformedProperty "Document.Orders" "A|B|single|_ab|") ∧
      (write [items, orders, goods]).2 = c ∧
    (write [items, goods, orders]).1 =
        .error (.indexMismatch "Catalog.Goods" 8 "_Document9") ∧
      (write [items, goods, orders]).2 = c ∧
    (write [items, items]).1 = .ok () ∧
      (write [items, items]).2.storage.rows tableMappingsDesc = [items.toRow, items.toRow] := by
  intro items orders goods c write
  have hproperty : (write [items, orders, goods]).1 =
      .error (.malformedProperty "Document.Orders" "A|B|single|_ab|") := by decide +kernel
  have hindex : (write [items, goods, orders]).1 =
      .error (.indexMismatch "Catalog.Goods" 8 "_Document9") := by decide +kernel
  have hok : (write [items, items]).1 = .ok () := by decide +kernel
  refine ⟨hproperty, ?_, hindex, ?_, hok, ?_⟩
  · exact ((writeTables_all_or_nothing _ c).2.1 _ _ (Prod.ext hproperty rfl)).1
  · exact ((writeTables_all_or_nothing _ c).2.1 _ _ (Prod.ext hindex rfl)).1
  · exact ((writeTables_all_or_nothing _ c).2.2 _ (Prod.ext hok rfl)).1

end Catalog

end LogicalSql
