import LogicalSql.Proofs.Mapping.Indexes
import LogicalSql.Proofs.Mapping.WarmUp
import LogicalSql.Storage.Memory

/-! A catalog over a memory that holds the rows of some table mappings answers as the mapping set of
these mappings does. -/
namespace LogicalSql

namespace MemoryStorage

/-- A look-up by one text column gives the rows that agree in it, in their order. -/
theorem run_select_text (m : MemoryStorage) {desc : TableDesc} {column : String} {i : Nat}
    (h : desc.columnIndex column = .ok i) (name : String) :
    (select desc [(column, .text name)]).run.run m =
      (.ok ((m.rows desc).filter (matchesKeys [(i, .text name)])),
        { m with selects := m.selects + 1 }) := by
  unfold select
  simp only [List.mapM_cons, List.mapM_nil, h]
  rfl

theorem rows_recreate {desc : TableDesc} {rows : List Row} {m m' : MemoryStorage}
    (h : (recreate desc rows).run.run m = (.ok (), m')) : m'.rows desc = rows := by
  unfold recreate at h
  cases hrows : desc.checkRows rows with
  | error e =>
    rw [hrows] at h
    cases h
  | ok =>
    rw [hrows] at h
    cases h
    simp [MemoryStorage.rows]

end MemoryStorage

/-- The set holds these mappings, each with its type index, and each may be written. -/
structure MappingSet.Holds (set : MappingSet) (tables : List TableMapping) : Prop where
  indexes : set.Indexes (tables.map TableMapping.stored)
  writable : ∀ t ∈ tables, t.checkProperties = .ok ()

namespace Catalog

variable {set : MappingSet} {tables : List TableMapping} {c : Catalog MemoryStorage}

/-- The storage holds the rows of these mappings, and what is remembered is as in the set. -/
structure Backed (set : MappingSet) (tables : List TableMapping) (c : Catalog MemoryStorage) :
    Prop where
  rows : c.storage.rows tableMappingsDesc = tables.map TableMapping.toRow
  logical : ∀ {name a}, c.logical.get? name = some a → a = set.byLogicalName? name
  physical : ∀ {name a}, c.physical.get? name = some a → a = set.byPhysicalName? name

/-- A look-up by one of the name columns finds the first mapping with that name. -/
theorem lookup_rows (hwritable : ∀ t ∈ tables, t.checkProperties = .ok ()) {m : MemoryStorage}
    (hrows : m.rows tableMappingsDesc = tables.map TableMapping.toRow) {column : String} {i : Nat}
    (hi : tableMappingsDesc.columnIndex column = .ok i) (name : String)
    {key : TableMapping → String}
    (hkey : ∀ t, MemoryStorage.matchesKeys [(i, .text name)] t.toRow = (key t == Text.lower name)) :
    lookup column name m =
      (.ok ((tables.find? (key · == Text.lower name)).map TableMapping.stored),
        { m with selects := m.selects + 1 }) := by
  have hmatch : MemoryStorage.matchesKeys [(i, .text name)] ∘ TableMapping.toRow =
      (key · == Text.lower name) := funext hkey
  have hselect : (Storage.select tableMappingsDesc [(column, .text name)]).run.run m = _ :=
    MemoryStorage.run_select_text m hi name
  rw [hrows, List.filter_map, hmatch] at hselect
  rw [← List.head?_filter, lookup, hselect]
  cases hfound : tables.filter (key · == Text.lower name) with
  | nil => rfl
  | cons t ts =>
    have ht : t ∈ tables := (List.mem_filter.1 (hfound ▸ List.mem_cons_self)).1
    rw [List.map_cons]
    dsimp only
    rw [TableMapping.ofRow_toRow (hwritable t ht)]
    rfl

/-- The mapping of a set with this name of one kind. -/
def byName? (set : MappingSet) : NameKind → String → Option TableMapping
  | .logical => set.byLogicalName?
  | .physical => set.byPhysicalName?

theorem Backed.answers (hc : c.Backed set tables) {kind : NameKind} {name : String}
    {a : Option TableMapping} (h : (c.answers kind).get? name = some a) :
    a = byName? set kind name := by
  cases kind with
  | logical => exact hc.logical h
  | physical => exact hc.physical h

theorem Backed.learn (hc : c.Backed set tables) (kind : NameKind) (name : String) :
    (c.learn kind name (byName? set kind name)).Backed set tables := by
  cases kind with
  | logical => exact ⟨hc.rows, fun hn => Cache.get?_cons_eq hc.logical hn, hc.physical⟩
  | physical => exact ⟨hc.rows, hc.logical, fun hn => Cache.get?_cons_eq hc.physical hn⟩

variable (hset : set.Holds tables)
include hset

theorem lookup_backed (hc : c.Backed set tables) (kind : NameKind) (name : String) :
    lookup (column kind) name c.storage =
      (.ok (byName? set kind name), { c.storage with selects := c.storage.selects + 1 }) := by
  cases kind with
  | logical =>
    have hkey : ∀ t : TableMapping, MemoryStorage.matchesKeys [(0, .text name)] t.toRow =
        (t.logicalKey == Text.lower name) := fun t => by
      simp [MemoryStorage.matchesKeys, TableMapping.toRow, Value.agrees, TableMapping.logicalKey]
    rw [lookup_rows hset.writable hc.rows rfl name hkey, byName?, hset.indexes.byLogicalName?_eq,
      List.find?_map]
    rfl
  | physical =>
    have hkey : ∀ t : TableMapping, MemoryStorage.matchesKeys [(1, .text name)] t.toRow =
        (t.physicalKey == Text.lower name) := fun t => by
      simp [MemoryStorage.matchesKeys, TableMapping.toRow, Value.agrees, TableMapping.physicalKey]
    rw [lookup_rows hset.writable hc.rows rfl name hkey, byName?, hset.indexes.byPhysicalName?_eq,
      List.find?_map]
    rfl

theorem resolve_backed (kind : NameKind) (hc : c.Backed set tables) (name : String) :
    ∃ c', (resolve kind name).run.run c = (.ok (byName? set kind name), c') ∧
      c'.Backed set tables := by
  cases hget : (c.answers kind).get? name with
  | some a =>
    rw [run_resolve_of_some kind hget, hc.answers hget]
    exact ⟨c, rfl, hc⟩
  | none =>
    rw [run_resolve, hget, lookup_backed hset hc]
    -- the look-up is counted, the rows are as before
    have hcounted : { c with storage.selects := c.storage.selects + 1 }.Backed set tables :=
      ⟨hc.rows, hc.logical, hc.physical⟩
    exact ⟨_, rfl, hcounted.learn kind name⟩

theorem preload_backed (target : String) (c : Catalog MemoryStorage) (hc : c.Backed set tables) :
    ∃ c', (preload target).run.run c = (.ok (), c') ∧ c'.Backed set tables := by
  obtain ⟨c', hrun, hc'⟩ := resolve_backed hset .logical hc target
  change (resolveLogical target).run.run c = (.ok (set.byLogicalName? target), c') at hrun
  refine ⟨c', ?_, hc'⟩
  rw [preload, run_bind, hrun]
  rfl

theorem warmTable_backed (name : String) (c : Catalog MemoryStorage) (hc : c.Backed set tables) :
    ∃ c', (warmTable name).run.run c = (.ok (), c') ∧ c'.Backed set tables := by
  obtain ⟨c₁, hrun, hc₁⟩ := resolve_backed hset .physical hc name
  change (resolvePhysical name).run.run c = (.ok (set.byPhysicalName? name), c₁) at hrun
  rw [warmTable, run_bind, hrun]
  cases set.byPhysicalName? name with
  | none => exact ⟨c₁, rfl, hc₁⟩
  | some t => exact run_forM_of_keeps (fun target _ => preload_backed hset target) hc₁

/-- Warming up does not fail. -/
theorem warm_backed (q : Query) (hc : c.Backed set tables) :
    ∃ c', (warm q).run.run c = (.ok (), c') ∧ c'.Backed set tables :=
  run_forM_of_keeps (fun name _ => warmTable_backed hset name) hc

omit hset

theorem checkProperties_of_checkWritable {t : TableMapping} (h : checkWritable t = .ok ()) :
    t.checkProperties = .ok () := by
  obtain ⟨_, -, hproperties⟩ := bind_eq_ok.1 h
  exact hproperties

/-- A catalog that has written the mappings of a set answers as the set does. -/
theorem writeTables_backed (hset : MappingSet.ofList tables = .ok set)
    (h : (writeTables tables).run.run { storage := {} } = (.ok (), c)) :
    set.Holds tables ∧ c.Backed set tables := by
  rw [run_writeTables_eq] at h
  cases hchecks : tables.forM checkWritable with
  | error e =>
    rw [hchecks] at h
    cases h
  | ok =>
    rw [hchecks] at h
    have hwritable := forM_eq_ok.1 hchecks
    have hholds : set.Holds tables :=
      ⟨MappingSet.indexes_ofList hset,
        fun t ht => checkProperties_of_checkWritable (hwritable t ht)⟩
    dsimp only at h
    rw [run_onStorage] at h
    rcases hrows : (Storage.recreate tableMappingsDesc (tables.map TableMapping.toRow)).run.run
      ({} : MemoryStorage) with ⟨e | _, m⟩
    · rw [hrows] at h
      cases h
    · rw [hrows] at h
      cases h
      exact ⟨hholds, MemoryStorage.rows_recreate hrows, nofun, nofun⟩

end Catalog

end LogicalSql
