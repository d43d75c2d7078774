import LogicalSql.Proofs.Mapping.Catalog

/-! What warming up loads: the tables that were collected from a query, and the targets of their
properties. -/
namespace LogicalSql

theorem mem_insertName {name x : String} {names : List String} :
    x ∈ insertName name names ↔ x = name ∨ x ∈ names := by
  induction names with
  | nil => simp [insertName]
  | cons n ns ih =>
    unfold insertName
    split
    · simp
    · split
      case isTrue h => simp [h]
      case isFalse => simp [ih, or_left_comm]

theorem Query.mem_tableNameSet {q : Query} {x : String} :
    x ∈ q.tableNameSet ↔ x ∈ q.tableNames := by
  unfold Query.tableNameSet
  induction q.tableNames with
  | nil => rfl
  | cons n ns ih => rw [List.foldr_cons, mem_insertName, ih, List.mem_cons]

namespace Catalog

variable {σ : Type}

theorem source_physical {c : Catalog σ} {name : String} {a : Option TableMapping}
    (h : c.physical.get? name = some a) : c.source.physical name = .ok a := by
  simp only [source, h]

theorem source_physical_of_none {c : Catalog σ} {name : String} (h : c.physical.get? name = none) :
    c.source.physical name = .error (.notLoaded name) := by
  simp only [source, h]

theorem source_logical {c : Catalog σ} {name : String} {a : Option TableMapping}
    (h : c.logical.get? name = some a) : c.source.logical name = .ok a := by
  simp only [source, h]

theorem source_logical_of_none {c : Catalog σ} {name : String} (h : c.logical.get? name = none) :
    c.source.logical name = .error (.notLoaded name) := by
  simp only [source, h]

/-- The table is remembered, and so are the tables that its properties always refer to. -/
def Warmed (c : Catalog σ) (name : String) : Prop :=
  ∃ a, c.physical.get? name = some a ∧
    ∀ t, a = some t → ∀ target ∈ t.targets, ∃ b, c.logical.get? target = some b

theorem Extends.warmed {c c' : Catalog σ} {name : String} (h : c.Extends c') (hc : c.Warmed name) :
    c'.Warmed name := by
  obtain ⟨a, ha, htargets⟩ := hc
  refine ⟨a, h.physical ha, ?_⟩
  intro t ht target htarget
  obtain ⟨b, hb⟩ := htargets t ht target htarget
  exact ⟨b, h.logical hb⟩

variable [Storage σ]

/-- Loads a logical table for later. -/
def preload (target : String) : CatalogM σ PUnit := do
  let _ ← resolveLogical target

theorem preload_remembers (target : String) (c c' : Catalog σ)
    (h : (preload target).run.run c = (.ok (), c')) :
    c.Extends c' ∧ ∃ b, c'.logical.get? target = some b := by
  unfold preload at h
  rw [run_bind] at h
  rcases htarget : (resolveLogical target).run.run c with ⟨e | b, c₁⟩ <;> rw [htarget] at h
  · cases h
  · cases h
    obtain ⟨hc, hb⟩ := resolve_remembers .logical htarget
    exact ⟨hc, b, hb⟩

theorem warmTable_warms (name : String) (c c' : Catalog σ)
    (h : (warmTable name).run.run c = (.ok (), c')) : c.Extends c' ∧ c'.Warmed name := by
  unfold warmTable at h
  rw [run_bind] at h
  rcases hname : (resolvePhysical name).run.run c with ⟨e | a, c₁⟩ <;> rw [hname] at h
  · cases h
  · obtain ⟨hc, ha⟩ := resolve_remembers .physical hname
    cases a with
    | none =>
      cases h
      exact ⟨hc, none, ha, nofun⟩
    | some t =>
      -- the targets are loaded after the table, which must not be lost meanwhile
      obtain ⟨hc₁, htargets⟩ := forM_extends preload_remembers
        (fun hc ⟨b, hb⟩ => ⟨b, hc.logical hb⟩) h
      refine ⟨hc.trans hc₁, some t, hc₁.physical ha, ?_⟩
      rintro _ ⟨⟩
      exact htargets

theorem warm_warms {q : Query} {c c' : Catalog σ} (h : (warm q).run.run c = (.ok (), c')) :
    ∀ name ∈ q.tableNames, c'.Warmed name := by
  intro name hname
  exact (forM_extends warmTable_warms Extends.warmed h).2 name (Query.mem_tableNameSet.2 hname)

/-- Nothing is left to do for a table that is loaded. -/
theorem run_warmTable_of_warmed {c : Catalog σ} {name : String} (h : c.Warmed name) :
    (warmTable name).run.run c = (.ok (), c) := by
  obtain ⟨a, ha, htargets⟩ := h
  have hname : (resolvePhysical name).run.run c = (.ok a, c) := run_resolve_of_some .physical ha
  unfold warmTable
  rw [run_bind, hname]
  cases a with
  | none => rfl
  | some t =>
    have hstep : ∀ target ∈ t.targets, ∀ c₁, c₁ = c →
        ∃ c', (preload target).run.run c₁ = (.ok (), c') ∧ c' = c := by
      rintro target htarget c rfl
      obtain ⟨b, hb⟩ := htargets t rfl target htarget
      have hrun : (resolveLogical target).run.run c = (.ok b, c) := run_resolve_of_some .logical hb
      refine ⟨c, ?_, rfl⟩
      rw [preload, run_bind, hrun]
      rfl
    obtain ⟨c', hrun, rfl⟩ := run_forM_of_keeps hstep rfl
    exact hrun

theorem run_warm_of_warmed {c : Catalog σ} {q : Query} (h : ∀ name ∈ q.tableNames, c.Warmed name) :
    (warm q).run.run c = (.ok (), c) := by
  have hstep : ∀ name ∈ q.tableNameSet, ∀ c₁, c₁ = c →
      ∃ c', (warmTable name).run.run c₁ = (.ok (), c') ∧ c' = c := by
    rintro name hname c rfl
    exact ⟨c, run_warmTable_of_warmed (h name (Query.mem_tableNameSet.1 hname)), rfl⟩
  obtain ⟨c', hrun, rfl⟩ := run_forM_of_keeps hstep rfl
  exact hrun

end Catalog

end LogicalSql
