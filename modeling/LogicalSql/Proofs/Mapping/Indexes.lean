import LogicalSql.Proofs.Mapping.Stored

/-! The two indexes of a mapping set. The loop that fills them leaves the same mappings in both,
each under its own key, and no two of them under one key. -/
namespace LogicalSql

theorem TableMapping.key_not_mem_of_nodup {key : TableMapping → String}
    {tables rest : List TableMapping} {t : TableMapping}
    (h : ((tables ++ t :: rest).map key).Nodup) : key t ∉ tables.map key := by
  rw [List.map_append, List.nodup_append] at h
  exact fun ht => h.2.2 _ ht _ List.mem_cons_self rfl

namespace MappingIndex

variable {index : MappingIndex} {key : TableMapping → String} {tables : List TableMapping}
  {t : TableMapping}

/-- The index has these mappings, in this order, each under its own key. -/
structure Holds (index : MappingIndex) (key : TableMapping → String)
    (tables : List TableMapping) : Prop where
  entries : index.entries = tables.map fun t => (key t, t)
  nodup : (tables.map key).Nodup

namespace Holds

theorem empty (key : TableMapping → String) : Holds {} key [] := ⟨rfl, List.nodup_nil⟩

variable (h : index.Holds key tables)
include h

theorem values_eq : index.values = tables := by
  rw [values, h.entries, List.map_map]
  exact List.map_id tables

theorem size_eq : index.size = tables.length := by
  rw [size, h.entries, List.length_map]

theorem get?_eq (name : String) : index.get? name = tables.find? (key · == name) := by
  rw [get?, h.entries, List.find?_map, Option.map_map]
  exact Option.map_id'

theorem contains_iff (name : String) : index.contains name = true ↔ name ∈ tables.map key := by
  rw [contains, h.get?_eq, List.find?_isSome, List.mem_map]
  simp only [beq_iff_eq]

/-- A mapping under a new key comes last. -/
theorem insert_new (hnew : key t ∉ tables.map key) :
    (index.insert (key t) t).Holds key (tables ++ [t]) := by
  have habsent : ¬index.contains (key t) = true := fun hc => hnew ((h.contains_iff _).1 hc)
  constructor
  · rw [insert, if_neg habsent, h.entries, List.map_append]
    rfl
  · rw [List.map_append, List.nodup_append]
    refine ⟨h.nodup, List.pairwise_singleton _ _, fun a ha b hb hab => ?_⟩
    rw [List.map_singleton, List.mem_singleton] at hb
    exact hnew (hb ▸ hab ▸ ha)

theorem mem_of_get? {name : String} (ht : index.get? name = some t) : t ∈ tables := by
  rw [h.get?_eq] at ht
  exact List.mem_of_find?_eq_some ht

/-- Every mapping is found under its key. -/
theorem get?_of_mem (ht : t ∈ tables) : index.get? (key t) = some t := by
  obtain ⟨before, after, rfl⟩ := List.append_of_mem ht
  have hbefore : ∀ s ∈ before, key s ≠ key t := by
    intro s hs hsame
    exact TableMapping.key_not_mem_of_nodup h.nodup (hsame ▸ List.mem_map_of_mem hs)
  rw [h.get?_eq]
  refine List.find?_eq_some_iff_append.2 ⟨beq_self_eq_true _, before, after, rfl, ?_⟩
  simpa using hbefore

end Holds

end MappingIndex

namespace MappingSet

open TableMapping

variable {set set' : MappingSet} {tables rest : List TableMapping} {t : TableMapping}

/-- Both indexes have these mappings. -/
structure Indexes (set : MappingSet) (tables : List TableMapping) : Prop where
  logical : set.byLogical.Holds logicalKey tables
  physical : set.byPhysical.Holds physicalKey tables

theorem insert_eq_ok :
    set.insert t = .ok set' ↔
      ¬set.byLogical.contains t.logicalKey ∧ ¬set.byPhysical.contains t.physicalKey ∧
        set' = ⟨set.byLogical.insert t.logicalKey t, set.byPhysical.insert t.physicalKey t⟩ := by
  unfold insert
  cases set.byLogical.contains t.logicalKey
  · cases set.byPhysical.contains t.physicalKey
    · simp [pure, Except.pure, eq_comm]
    · simp [throw, throwThe, MonadExceptOf.throw, bind, Except.bind]
  · simp [throw, throwThe, MonadExceptOf.throw, bind, Except.bind]

namespace Indexes

theorem insert (h : set.Indexes tables) (hset' : set.insert t = .ok set') :
    set'.Indexes (tables ++ [t]) := by
  obtain ⟨hlogical, hphysical, rfl⟩ := insert_eq_ok.1 hset'
  rw [h.logical.contains_iff] at hlogical
  rw [h.physical.contains_iff] at hphysical
  exact ⟨h.logical.insert_new hlogical, h.physical.insert_new hphysical⟩

theorem exists_insert_iff (h : set.Indexes tables) :
    (∃ set', set.insert t = .ok set') ↔
      t.logicalKey ∉ tables.map logicalKey ∧ t.physicalKey ∉ tables.map physicalKey := by
  rw [← h.logical.contains_iff, ← h.physical.contains_iff]
  constructor
  · rintro ⟨set', hset'⟩
    obtain ⟨hlogical, hphysical, -⟩ := insert_eq_ok.1 hset'
    exact ⟨hlogical, hphysical⟩
  · rintro ⟨hlogical, hphysical⟩
    exact ⟨_, insert_eq_ok.2 ⟨hlogical, hphysical, rfl⟩⟩

theorem insertAll (h : set.Indexes tables) (hset' : set.insertAll rest = .ok set') :
    set'.Indexes (tables ++ rest.map stored) := by
  induction rest generalizing set tables with
  | nil =>
    cases hset'
    rwa [List.map_nil, List.append_nil]
  | cons t ts ih =>
    rw [MappingSet.insertAll] at hset'
    obtain ⟨index, hindex, hset'⟩ := bind_eq_ok.1 hset'
    obtain ⟨-, rfl⟩ := storedIndex_eq_ok.1 hindex
    obtain ⟨set₁, hset₁, hset'⟩ := bind_eq_ok.1 hset'
    rw [List.map_cons, List.append_cons]
    exact ih (h.insert hset₁) hset'

theorem byLogicalName?_eq (h : set.Indexes tables) (name : String) :
    set.byLogicalName? name = tables.find? (·.logicalKey == Text.lower name) :=
  h.logical.get?_eq _

theorem byPhysicalName?_eq (h : set.Indexes tables) (name : String) :
    set.byPhysicalName? name = tables.find? (·.physicalKey == Text.lower name) :=
  h.physical.get?_eq _

theorem tables_eq (h : set.Indexes tables) : set.tables = tables := h.logical.values_eq

end Indexes

theorem indexes_empty : empty.Indexes [] := ⟨.empty _, .empty _⟩

/-- Both indexes of a set have all the mappings, in their order. -/
theorem indexes_ofList (h : ofList tables = .ok set) : set.Indexes (tables.map stored) :=
  indexes_empty.insertAll h

end MappingSet

end LogicalSql
