import LogicalSql.Proofs.Mapping.Indexes

/-! Mapping sets. Mappings make a set just when their names differ by more than case, and each is
then found by either of its names. -/
namespace LogicalSql

namespace TableMapping

/-- The only mapping with this name, with the index that its physical name ends with, or none where
no mapping has the name. Names ignore case. -/
inductive Found (field : TableMapping → String) (tables : List TableMapping) (name : String) :
    Option TableMapping → Prop
  | absent (h : ∀ t ∈ tables, Text.lower (field t) ≠ Text.lower name) : Found field tables name none
  | only {before after : List TableMapping} {t : TableMapping}
      (hsplit : tables = before ++ t :: after)
      (hname : Text.lower (field t) = Text.lower name)
      (hothers : ∀ s ∈ before ++ after, Text.lower (field s) ≠ Text.lower name) :
      Found field tables name (some { t with index := typeIndex? t.physicalName })

variable {key : TableMapping → String} {tables rest : List TableMapping} {t : TableMapping}

/-- What is found first is all there is with that name. -/
theorem found_find? {field : TableMapping → String}
    (hnodup : (tables.map fun t => Text.lower (field t)).Nodup) (name : String) :
    Found field tables name
      ((tables.find? fun t => Text.lower (field t) == Text.lower name).map stored) := by
  cases hfind : tables.find? fun t => Text.lower (field t) == Text.lower name with
  | none => exact .absent (by simpa using List.find?_eq_none.1 hfind)
  | some t =>
    obtain ⟨hname, before, after, rfl, hbefore⟩ := List.find?_eq_some_iff_append.1 hfind
    have hname : Text.lower (field t) = Text.lower name := by simpa using hname
    have hafter : ∀ s ∈ after, Text.lower (field s) ≠ Text.lower name := by
      intro s hs
      rw [List.map_append, List.nodup_append, List.map_cons, List.nodup_cons] at hnodup
      have hnot := hnodup.2.1.1
      rw [hname] at hnot
      exact fun h => hnot (h ▸ List.mem_map_of_mem hs)
    exact .only rfl hname (List.forall_mem_append.2 ⟨by simpa using hbefore, hafter⟩)

theorem map_append_stored (hkey : ∀ t, key t.stored = key t) :
    (tables ++ [t.stored] ++ rest).map key = (tables ++ t :: rest).map key := by
  simp [hkey]

end TableMapping

namespace MappingSet

open TableMapping

variable {set : MappingSet} {tables rest : List TableMapping} {t : TableMapping}

/-- Mappings can be added just when their names are new, and told apart from one another. -/
theorem Indexes.exists_insertAll_iff (h : set.Indexes tables) :
    (∃ set', set.insertAll rest = .ok set') ↔
      (∀ t ∈ rest, t.Indexed) ∧ ((tables ++ rest).map logicalKey).Nodup ∧
        ((tables ++ rest).map physicalKey).Nodup := by
  induction rest generalizing set tables with
  | nil => simp [MappingSet.insertAll, h.logical.nodup, h.physical.nodup]
  | cons t ts ih =>
    rw [MappingSet.insertAll, List.forall_mem_cons]
    constructor
    · rintro ⟨set', hset'⟩
      obtain ⟨index, hindex, hset'⟩ := bind_eq_ok.1 hset'
      obtain ⟨hindexed, rfl⟩ := storedIndex_eq_ok.1 hindex
      obtain ⟨set₁, hset₁, hset'⟩ := bind_eq_ok.1 hset'
      have hset₁ : set₁.Indexes (tables ++ [t.stored]) := h.insert hset₁
      obtain ⟨hrest, hlogical, hphysical⟩ := (ih hset₁).1 ⟨set', hset'⟩
      rw [map_append_stored fun _ => rfl] at hlogical hphysical
      exact ⟨⟨hindexed, hrest⟩, hlogical, hphysical⟩
    · rintro ⟨⟨hindexed, hrest⟩, hlogical, hphysical⟩
      have hindex := storedIndex_eq_ok.2 ⟨hindexed, rfl⟩
      have hnewLogical : t.stored.logicalKey ∉ tables.map logicalKey :=
        key_not_mem_of_nodup (t := t) hlogical
      have hnewPhysical : t.stored.physicalKey ∉ tables.map physicalKey :=
        key_not_mem_of_nodup (t := t) hphysical
      obtain ⟨set₁, hset₁⟩ := h.exists_insert_iff.2 ⟨hnewLogical, hnewPhysical⟩
      have hset₁' : ∃ set', set₁.insertAll ts = .ok set' := by
        rw [ih (h.insert hset₁), map_append_stored fun _ => rfl, map_append_stored fun _ => rfl]
        exact ⟨hrest, hlogical, hphysical⟩
      obtain ⟨set', hset'⟩ := hset₁'
      exact ⟨set', bind_eq_ok.2 ⟨_, hindex, bind_eq_ok.2 ⟨set₁, hset₁, hset'⟩⟩⟩

theorem exists_ofList_iff :
    (∃ set, ofList tables = .ok set) ↔
      (∀ t ∈ tables, t.Indexed) ∧ (tables.map logicalKey).Nodup ∧ (tables.map physicalKey).Nodup :=
  indexes_empty.exists_insertAll_iff

theorem source_logical_ofList (h : ofList tables = .ok set) (name : String) :
    set.source.logical name =
      .ok ((tables.find? fun t => Text.lower t.logicalName == Text.lower name).map stored) := by
  have hfind := (indexes_ofList h).byLogicalName?_eq name
  rw [List.find?_map] at hfind
  exact congrArg Except.ok hfind

theorem source_physical_ofList (h : ofList tables = .ok set) (name : String) :
    set.source.physical name =
      .ok ((tables.find? fun t => Text.lower t.physicalName == Text.lower name).map stored) := by
  have hfind := (indexes_ofList h).byPhysicalName?_eq name
  rw [List.find?_map] at hfind
  exact congrArg Except.ok hfind

/-- The mappings that a look-up by either kind of name can give are those of the indexes. -/
theorem Indexes.exists_source_iff (h : set.Indexes tables) :
    ((∃ name, set.source.logical name = .ok (some t)) ↔ t ∈ tables) ∧
      ((∃ name, set.source.physical name = .ok (some t)) ↔ t ∈ tables) := by
  simp only [source, Except.ok.injEq]
  constructor
  · exact ⟨fun ⟨_, ht⟩ => h.logical.mem_of_get? ht, fun ht =>
      ⟨t.logicalName, h.logical.get?_of_mem ht⟩⟩
  · exact ⟨fun ⟨_, ht⟩ => h.physical.mem_of_get? ht, fun ht =>
      ⟨t.physicalName, h.physical.get?_of_mem ht⟩⟩

/-- The set has a table of this logical name, with a type index. -/
def HasIndexed (set : MappingSet) (name : String) : Prop :=
  ∃ target index, set.byLogicalName? name = some target ∧ target.index = some index

theorem checkProperty_eq_ok {p : PropertyMapping} :
    set.checkProperty t p = .ok () ↔
      ∀ nested, p.layout.target? = some nested → set.HasIndexed nested := by
  unfold checkProperty HasIndexed
  cases p.layout.target? with
  | none => simp
  | some nested =>
    cases htarget : set.byLogicalName? nested with
    | none => simp [htarget]
    | some target => cases hindex : target.index <;> simp [htarget, hindex]

/-- A set is valid just when it has every table that a property always refers to. -/
theorem validate_eq_ok :
    set.validate = .ok () ↔ ∀ t ∈ set.tables, ∀ nested ∈ t.targets, set.HasIndexed nested := by
  have htargets : ∀ t : TableMapping, (∀ nested ∈ t.targets, set.HasIndexed nested) ↔
      ∀ p ∈ t.properties, ∀ nested, p.layout.target? = some nested → set.HasIndexed nested := by
    intro t
    simp only [targets, List.mem_filterMap]
    constructor
    · intro h p hp nested hnested
      exact h nested ⟨p, hp, hnested⟩
    · intro h nested ⟨p, hp, hnested⟩
      exact h p hp nested hnested
  simp only [validate, forM_eq_ok, checkProperty_eq_ok, htargets]

/-- A list of mappings makes a set just when every index that is given is the one in the physical
name, and both the logical and the physical names differ by more than case. The set finds the only
mapping with a name, in any spelling, or none if there is none. Its two indexes have the same
mappings, as many as the list, and what a look-up in one of them can find, one in the other can. -/
theorem ofList_indexes (tables : List TableMapping) :
    ((∃ set, ofList tables = .ok set) ↔
      (∀ t ∈ tables, ∀ i, t.index = some i → typeIndex? t.physicalName = some i) ∧
        (tables.map fun t => Text.lower t.logicalName).Nodup ∧
        (tables.map fun t => Text.lower t.physicalName).Nodup) ∧
    ∀ set, ofList tables = .ok set →
      (∀ name, ∃ a, set.source.logical name = .ok a ∧ Found logicalName tables name a) ∧
      (∀ name, ∃ a, set.source.physical name = .ok a ∧ Found physicalName tables name a) ∧
      (∀ t, (∃ name, set.source.logical name = .ok (some t)) ↔
        ∃ name, set.source.physical name = .ok (some t)) ∧
      (∀ t, t ∈ set.byLogical.values ↔ t ∈ set.byPhysical.values) ∧
      set.size = tables.length ∧ set.byPhysical.size = tables.length := by
  refine ⟨exists_ofList_iff, fun set h => ?_⟩
  obtain ⟨-, hlogical, hphysical⟩ := exists_ofList_iff.1 ⟨set, h⟩
  have hindexes := indexes_ofList h
  refine ⟨fun name => ?_, fun name => ?_, fun t => ?_, fun t => ?_, ?_, ?_⟩
  · exact ⟨_, source_logical_ofList h name, found_find? hlogical name⟩
  · exact ⟨_, source_physical_ofList h name, found_find? hphysical name⟩
  · rw [hindexes.exists_source_iff.1, hindexes.exists_source_iff.2]
  · rw [hindexes.logical.values_eq, hindexes.physical.values_eq]
  · rw [size, hindexes.logical.size_eq, List.length_map]
  · rw [hindexes.physical.size_eq, List.length_map]

/-- Names are found in another spelling, and two that differ in case only are not told apart. -/
theorem ofList_indexes_spelled :
    let items : TableMapping :=
      { logicalName := "Catalog.Items", physicalName := "_Reference5", type := .catalog }
    let orders : TableMapping :=
      { logicalName := "Документ.Заказ", physicalName := "_Document9", type := .document
        index := some 9 }
    (∃ set, ofList [items, orders] = .ok set ∧ set.size = 2 ∧
      set.source.logical "ДОКУМЕНТ.заказ" = .ok (some orders) ∧
      Found logicalName [items, orders] "ДОКУМЕНТ.заказ" (some orders) ∧
      set.source.physical "_REFERENCE5" = .ok (some { items with index := some 5 }) ∧
      Found physicalName [items, orders] "_REFERENCE5" (some { items with index := some 5 })) ∧
    ¬∃ set, ofList [items, { orders with logicalName := "CATALOG.items" }] = .ok set := by
  intro items orders
  have hdistinct : (∀ t ∈ [items, orders], ∀ i, t.index = some i →
        typeIndex? t.physicalName = some i) ∧
      ([items, orders].map fun t => Text.lower t.logicalName).Nodup ∧
      ([items, orders].map fun t => Text.lower t.physicalName).Nodup := by
    refine ⟨?_, by decide +kernel, by decide +kernel⟩
    rw [List.forall_mem_cons, List.forall_mem_singleton]
    exact ⟨fun i hi => absurd hi (Option.some_ne_none i).symm, fun i hi => hi ▸ by decide +kernel⟩
  obtain ⟨set, h⟩ := (ofList_indexes _).1.2 hdistinct
  obtain ⟨hlogical, hphysical, -, -, hsize, -⟩ := (ofList_indexes _).2 set h
  have horders : set.source.logical "ДОКУМЕНТ.заказ" = .ok (some orders) := by
    rw [source_logical_ofList h]
    decide +kernel
  have hitems : set.source.physical "_REFERENCE5" = .ok (some { items with index := some 5 }) := by
    rw [source_physical_ofList h]
    decide +kernel
  obtain ⟨a, ha, hfound⟩ := hlogical "ДОКУМЕНТ.заказ"
  obtain ⟨b, hb, hfound'⟩ := hphysical "_REFERENCE5"
  cases horders.symm.trans ha
  cases hitems.symm.trans hb
  refine ⟨⟨set, h, hsize, horders, hfound, hitems, hfound'⟩, fun hsame => ?_⟩
  have hnodup := ((ofList_indexes _).1.1 hsame).2.1
  revert hnodup
  decide +kernel

end MappingSet

end LogicalSql
