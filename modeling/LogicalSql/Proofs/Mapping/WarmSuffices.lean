import LogicalSql.Lowering.Text
import LogicalSql.Proofs.Lowering.Agreement
import LogicalSql.Proofs.Mapping.WarmUp
import LogicalSql.Storage.Memory

/-! When warming up loads all that lowering asks for: exactly when every table that lowering can ask
for is among those that were collected. -/
namespace LogicalSql

namespace MappingSource

/-- Every look-up has an answer, if only that there is no such table. -/
structure Total (m : MappingSource) : Prop where
  physical : ∀ name, ∃ a, m.physical name = .ok a
  logical : ∀ name, ∃ a, m.logical name = .ok a

/-- The source without what it knows of one physical name. -/
def forget (m : MappingSource) (name : String) : MappingSource where
  logical := m.logical
  physical n := if n = name then .error (.notLoaded n) else m.physical n

/-- The source with what it knows of these physical names alone. -/
def restrict (m : MappingSource) (names : List String) : MappingSource where
  logical := m.logical
  physical n := if n ∈ names then m.physical n else .error (.notLoaded n)

/-- The answer of a look-up. One that fails counts as no table. -/
def answer (x : Except MappingError (Option TableMapping)) : Option TableMapping :=
  match x with
  | .ok a => a
  | .error _ => none

/-- The source with no table where a look-up fails. -/
def complete (m : MappingSource) : MappingSource where
  logical name := .ok (answer (m.logical name))
  physical name := .ok (answer (m.physical name))

variable {m : MappingSource} {name n : String} {a : Option TableMapping}

theorem complete_physical (h : m.physical name = .ok a) : m.complete.physical name = .ok a := by
  simp only [complete, answer, h]

theorem complete_logical (h : m.logical name = .ok a) : m.complete.logical name = .ok a := by
  simp only [complete, answer, h]

theorem forget_physical_self : (m.forget name).physical name = .error (.notLoaded name) :=
  if_pos rfl

theorem forget_physical_of_ne (h : n ≠ name) : (m.forget name).physical n = m.physical n :=
  if_neg h

theorem restrict_physical_of_mem {names : List String} (h : n ∈ names) :
    (m.restrict names).physical n = m.physical n :=
  if_pos h

theorem restrict_physical_of_not_mem {names : List String} (h : n ∉ names) :
    (m.restrict names).physical n = .error (.notLoaded n) :=
  if_neg h

theorem complete_total (m : MappingSource) : m.complete.Total :=
  ⟨fun _ => ⟨_, rfl⟩, fun _ => ⟨_, rfl⟩⟩

/-- Physical tables are known or not loaded, and the targets of those that are known are known. -/
structure Loaded (m : MappingSource) : Prop where
  physical : ∀ name, m.physical name = .error (.notLoaded name) ∨ ∃ a, m.physical name = .ok a
  targets : ∀ {name t target}, m.physical name = .ok (some t) → target ∈ t.targets →
    ∃ b, m.logical target = .ok b

/-- The tables that the properties of a physical table always refer to. -/
def targetsOf (m : MappingSource) (name : String) : List String :=
  ((answer (m.physical name)).map TableMapping.targets).getD []

theorem mem_flatMap_targetsOf {names : List String} {t : TableMapping} {target : String}
    (h : name ∈ names) (ht : answer (m.physical name) = some t) (htarget : target ∈ t.targets) :
    target ∈ names.flatMap m.targetsOf := by
  refine List.mem_flatMap.2 ⟨name, h, ?_⟩
  simpa only [targetsOf, ht, Option.map_some, Option.getD_some] using htarget

/-- A catalog that remembers what the source knows of these physical names and their targets. -/
def toCatalog (m : MappingSource) (names : List String) : Catalog MemoryStorage where
  storage := {}
  physical := names.map fun n => (n, answer (m.physical n))
  logical := (names.flatMap m.targetsOf).map fun n => (n, answer (m.logical n))

theorem toCatalog_warmed (m : MappingSource) {names : List String} (h : name ∈ names) :
    (m.toCatalog names).Warmed name := by
  refine ⟨answer (m.physical name), (Cache.get?_map _ names).trans (if_pos h), ?_⟩
  intro t ht target htarget
  exact ⟨_, (Cache.get?_map _ _).trans (if_pos (mem_flatMap_targetsOf h ht htarget))⟩

theorem toCatalog_physical (hm : m.Total) (names : List String) :
    (m.toCatalog names).source.physical name = (m.restrict names).physical name := by
  by_cases hn : name ∈ names
  · obtain ⟨a, ha⟩ := hm.physical name
    rw [restrict_physical_of_mem hn, ha]
    refine Catalog.source_physical ((Cache.get?_map _ names).trans ?_)
    rw [if_pos hn, ha]
    rfl
  · rw [restrict_physical_of_not_mem hn]
    exact Catalog.source_physical_of_none ((Cache.get?_map _ names).trans (if_neg hn))

theorem toCatalog_logical (hm : m.Total) {names : List String} {t : TableMapping} {target : String}
    (h : name ∈ names) (ht : m.physical name = .ok (some t)) (htarget : target ∈ t.targets) :
    (m.toCatalog names).source.logical target = m.logical target := by
  have hanswer : answer (m.physical name) = some t := by rw [ht]; rfl
  obtain ⟨b, hb⟩ := hm.logical target
  rw [hb]
  refine Catalog.source_logical ((Cache.get?_map _ _).trans ?_)
  rw [if_pos (mem_flatMap_targetsOf h hanswer htarget), hb]
  rfl

end MappingSource

namespace Query

open MappingSource

/-- With some mappings, lowering asks for this physical table. -/
def Asks (q : Query) (name : String) : Prop :=
  ∃ m : MappingSource, m.Total ∧ q.lower (m.forget name) = .error (.mapping (.notLoaded name))

/-- After a successful warm-up no mapping is missing, whatever the catalog and its storage. -/
def WarmSuffices (q : Query) : Prop :=
  ∀ (σ : Type) [Storage σ] (c c' : Catalog σ), (Catalog.warm q).run.run c = (.ok (), c') →
    ∀ name, Pass.runAll (Pass.defaults c'.source) q ≠ .error (.mapping (.notLoaded name))

/-- The table that is missed first is one that lowering asks for. -/
theorem asks_of_lower {m : MappingSource} (hm : m.Loaded) {q : Query} {e : MappingError}
    (h : q.lower m = .error (.mapping e)) :
    ∃ name, m.physical name = .error (.notLoaded name) ∧ q.Asks name := by
  have hN : Within (fun _ => True) q.readTables := fun _ _ => trivial
  -- with the missing tables taken for absent ones no look-up fails
  have hcomplete : SourcesAgree
      (fun e => ∃ name, e = .notLoaded name ∧ m.physical name = .error (.notLoaded name))
      (fun _ _ => False) (fun _ => True) m m.complete := by
    refine ⟨fun n _ => ?_, fun {n t target} _ ht htarget => ?_⟩
    · obtain hn | ⟨a, ha⟩ := hm.physical n
      · rw [hn]
        exact .excused ⟨n, rfl, hn⟩ _
      · rw [ha, complete_physical ha]
        exact .ok a
    · obtain ⟨b, hb⟩ := hm.targets ht htarget
      rw [hb, complete_logical hb]
      exact .ok b
  obtain ⟨name, rfl, hname⟩ := Lowering.excused_of_agree (lower_agree hcomplete hN) h
  refine ⟨name, hname, m.complete, m.complete_total, ?_⟩
  -- with this one table missing, lowering goes the same way up to it
  have hforget : SourcesAgree (fun e => ∃ n, e = .notLoaded n ∧ n ≠ name) Eq (fun _ => True) m
      (m.complete.forget name) := by
    refine ⟨fun n _ => ?_, fun {n t target} _ ht htarget => ?_⟩
    · by_cases hn : n = name
      · rw [hn, hname, forget_physical_self]
        exact .error rfl
      · rw [forget_physical_of_ne hn]
        obtain hmissing | ⟨a, ha⟩ := hm.physical n
        · rw [hmissing]
          exact .excused ⟨n, rfl, hn⟩ _
        · rw [ha, complete_physical ha]
          exact .ok a
    · obtain ⟨b, hb⟩ := hm.targets ht htarget
      have hforgotten : (m.complete.forget name).logical target = .ok b := complete_logical hb
      rw [hb, hforgotten]
      exact .ok b
  obtain heq | ⟨e, he, n, rfl, hn⟩ := Lowering.eq_of_agree (lower_agree hforget hN)
  · exact heq ▸ h
  · rw [h] at he
    cases he
    exact absurd rfl hn

/-- Lowering asks for no table that the query does not name. -/
theorem mem_readTables_of_asks {q : Query} {name : String} (h : q.Asks name) :
    name ∈ q.readTables := by
  obtain ⟨m, hm, hmissing⟩ := h
  refine Decidable.byContradiction fun hname => ?_
  have hself : SourcesAgree (fun _ => False) (fun _ _ => False) (· ∈ q.readTables)
      (m.forget name) (m.forget name) := by
    refine ⟨fun n hn => ?_, fun {n t target} _ _ _ => ?_⟩
    · have hne : n ≠ name := fun h => hname (h ▸ hn)
      obtain ⟨a, ha⟩ := hm.physical n
      rw [forget_physical_of_ne hne, ha]
      exact .ok a
    · obtain ⟨b, hb⟩ := hm.logical target
      have hforgotten : (m.forget name).logical target = .ok b := hb
      rw [hforgotten]
      exact .ok b
  exact Lowering.excused_of_agree (lower_agree hself fun _ hn => hn) hmissing

theorem restrict_loaded {names : List String} {σ : Type} {c : Catalog σ}
    (h : ∀ n ∈ names, c.Warmed n) : (c.source.restrict names).Loaded := by
  refine ⟨fun n => ?_, fun {n t target} ht htarget => ?_⟩
  · by_cases hn : n ∈ names
    · obtain ⟨a, ha, -⟩ := h n hn
      exact .inr ⟨a, (restrict_physical_of_mem hn).trans (Catalog.source_physical ha)⟩
    · exact .inl (restrict_physical_of_not_mem hn)
  · by_cases hn : n ∈ names
    · obtain ⟨a, ha, htargets⟩ := h n hn
      rw [restrict_physical_of_mem hn, Catalog.source_physical ha] at ht
      obtain ⟨b, hb⟩ := htargets t (Except.ok.inj ht) target htarget
      exact ⟨b, Catalog.source_logical hb⟩
    · rw [restrict_physical_of_not_mem hn] at ht
      cases ht

theorem warmSuffices_of_asks {q : Query} (h : ∀ n, q.Asks n → n ∈ q.tableNames) :
    q.WarmSuffices := by
  intro σ _ c c' hwarm name hmissing
  have hwarmed := Catalog.warm_warms hwarm
  rw [Pass.runAll_defaults] at hmissing
  have hrestrict : SourcesAgree (fun _ => True) Eq (fun _ => True)
      (c'.source.restrict q.tableNames) c'.source := by
    refine ⟨fun n _ => ?_, fun {n t target} _ _ _ => .refl _⟩
    by_cases hn : n ∈ q.tableNames
    · rw [restrict_physical_of_mem hn]
      exact .refl _
    · rw [restrict_physical_of_not_mem hn]
      exact .excused trivial _
  obtain ⟨e, he⟩ := Lowering.error_of_agree (lower_agree hrestrict fun _ _ => trivial) hmissing
  obtain ⟨n, hn, hasks⟩ := asks_of_lower (restrict_loaded hwarmed) he
  obtain ⟨a, ha, -⟩ := hwarmed n (h n hasks)
  rw [restrict_physical_of_mem (h n hasks), Catalog.source_physical ha] at hn
  cases hn

theorem mem_tableNames_of_warmSuffices {q : Query} (hq : q.WarmSuffices) {name : String}
    (h : q.Asks name) : name ∈ q.tableNames := by
  obtain ⟨m, hm, hmissing⟩ := h
  refine Decidable.byContradiction fun hname => ?_
  -- a catalog that has come to know all tables but this one
  let names := (q.tableNames ++ q.readTables).filter (· ≠ name)
  have hnames : ∀ n, n ∈ names ↔ (n ∈ q.tableNames ∨ n ∈ q.readTables) ∧ n ≠ name := by
    simp [names, or_and_right]
  have hwarm : (Catalog.warm q).run.run (m.toCatalog names) = (.ok (), m.toCatalog names) := by
    refine Catalog.run_warm_of_warmed fun n hn => m.toCatalog_warmed ?_
    exact (hnames n).2 ⟨.inl hn, fun h => hname (h ▸ hn)⟩
  have hagree : SourcesAgree (fun _ => False) Eq (· ∈ q.readTables) (m.toCatalog names).source
      (m.forget name) := by
    refine ⟨fun n hn => ?_, fun {n t target} hn ht htarget => ?_⟩
    · rw [toCatalog_physical hm]
      by_cases hne : n = name
      · have hnot : n ∉ names := fun h => ((hnames n).1 h).2 hne
        rw [restrict_physical_of_not_mem hnot, hne, forget_physical_self]
        exact .refl _
      · rw [restrict_physical_of_mem ((hnames n).2 ⟨.inr hn, hne⟩), forget_physical_of_ne hne]
        exact .refl _
    · rw [toCatalog_physical hm] at ht
      by_cases hmem : n ∈ names
      · rw [restrict_physical_of_mem hmem] at ht
        rw [toCatalog_logical hm hmem ht htarget]
        exact .refl _
      · rw [restrict_physical_of_not_mem hmem] at ht
        cases ht
  refine hq MemoryStorage _ _ hwarm name ?_
  rw [Pass.runAll_defaults, lower_eq_of_agree hagree, hmissing]

/-- Warming up suffices just when every table that lowering can ask for was collected, and so at
least when every table that the query names anywhere was. -/
theorem warmSuffices_iff (q : Query) :
    (q.WarmSuffices ↔ ∀ name, q.Asks name → name ∈ q.tableNames) ∧
      ((∀ name ∈ q.readTables, name ∈ q.tableNames) → q.WarmSuffices) := by
  refine ⟨⟨fun h name => mem_tableNames_of_warmSuffices h, warmSuffices_of_asks⟩, fun h => ?_⟩
  exact warmSuffices_of_asks fun name hname => h name (mem_readTables_of_asks hname)

/-- A table that stands in `ORDER BY` alone is not collected. Warming up succeeds, and lowering then
misses it. -/
theorem warm_misses_ordering :
    let items : TableMapping :=
      { logicalName := "Catalog.Items", physicalName := "_Reference5", type := .catalog }
    let orders : TableMapping :=
      { logicalName := "Document.Orders", physicalName := "_Document9", type := .document
        properties := [⟨"Item", .single "_fld10rref" (some "Catalog.Items")⟩] }
    let written : Catalog MemoryStorage :=
      ((Catalog.writeTables [items, orders]).run.run { storage := {} }).2
    (do
      let q ← (parse ("SELECT a FROM t ORDER BY " ++
        "(SELECT TYPEIDENTIFIER(o._fld10rref) FROM _Document9 o)")).toOption
      let (warmed, c) := (Catalog.warm q).run.run written
      return (warmed, q.loweredSql c.source)) =
    some (.ok (), .error (.mapping (.notLoaded "_Document9"))) := by
  decide +kernel

end Query

end LogicalSql
