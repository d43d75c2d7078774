import LogicalSql.Lowering.Text
import LogicalSql.Proofs.Lowering.Agreement
import LogicalSql.Proofs.Mapping.Backed

/-! Lowering with mappings from a storage and lowering with the same mappings at hand. -/
namespace LogicalSql

theorem Query.loweredSql_eq (mappings : MappingSource) (q : Query) :
    q.loweredSql mappings = (q.lower mappings).map Query.sql := by
  rw [loweredSql, Pass.runAll_defaults]
  cases q.lower mappings <;> rfl

namespace Catalog

/-- Loads the mappings of a query and lowers it. -/
def translate {σ : Type} [Storage σ] (q : Query) :
    ExceptT LoweringError (StateM (Catalog σ)) String := do
  (warm q).adapt LoweringError.mapping
  lower q

theorem run_translate {σ : Type} [Storage σ] {q : Query} {c c' : Catalog σ}
    (h : (warm q).run.run c = (.ok (), c')) :
    (translate q).run.run c = (q.loweredSql c'.source, c') := by
  have hwarm : ((warm q).adapt LoweringError.mapping).run.run c = (.ok (), c') := by
    change Prod.map (Except.mapError _) id ((warm q).run.run c) = _
    rw [h]
    rfl
  rw [translate, run_bind, hwarm]
  rfl

theorem run_lowerText {σ : Type} [Storage σ] (text : String) (c : Catalog σ) :
    (lowerText text).run.run c =
      match (Query.parse text).mapError LoweringError.parse with
      | .ok q => (translate q).run.run c
      | .error e => (.error e, c) := by
  rw [lowerText]
  cases (Query.parse text).mapError LoweringError.parse <;> rfl

variable {set : MappingSet} {tables : List TableMapping} {c : Catalog MemoryStorage}

/-- What a catalog knows, it knows as the set does. -/
theorem Backed.sourcesAgree (hc : c.Backed set tables) :
    SourcesAgree (fun e => ∃ name, e = .notLoaded name) Eq (fun _ => True) c.source set.source := by
  refine ⟨fun n _ => ?_, fun {n t target} _ _ _ => ?_⟩
  · cases hget : c.physical.get? n with
    | none =>
      rw [source_physical_of_none hget]
      exact .excused ⟨n, rfl⟩ _
    | some a =>
      rw [source_physical hget, hc.physical hget]
      exact .ok _
  · cases hget : c.logical.get? target with
    | none =>
      rw [source_logical_of_none hget]
      exact .excused ⟨target, rfl⟩ _
    | some a =>
      rw [source_logical hget, hc.logical hget]
      exact .ok _

/-- A translation misses a mapping or is the one with the set, and the catalog stays true to it. -/
theorem Backed.translate (hset : set.Holds tables) (hc : c.Backed set tables) (q : Query) :
    ((∃ name, ((translate q).run.run c).1 = .error (.mapping (.notLoaded name))) ∨
      ((translate q).run.run c).1 = q.loweredSql set.source) ∧
    ((translate q).run.run c).2.Backed set tables := by
  obtain ⟨c', hwarm, hc'⟩ := warm_backed hset q hc
  rw [run_translate hwarm]
  refine ⟨?_, hc'⟩
  rw [Query.loweredSql_eq, Query.loweredSql_eq]
  have hagree := Query.lower_agree hc'.sourcesAgree fun n (_ : n ∈ q.readTables) => trivial
  obtain heq | ⟨e, he, name, rfl⟩ := Lowering.eq_of_agree hagree
  · exact .inr (by rw [heq])
  · exact .inl ⟨name, by rw [he]; rfl⟩

/-- The catalog after these queries were translated, whether they could be or not. -/
def after {σ : Type} [Storage σ] (c : Catalog σ) (earlier : List Query) : Catalog σ :=
  earlier.foldl (fun c q => ((translate q).run.run c).2) c

theorem Backed.after (hset : set.Holds tables) (hc : c.Backed set tables) (earlier : List Query) :
    (c.after earlier).Backed set tables := by
  induction earlier generalizing c with
  | nil => exact hc
  | cons q qs ih => exact ih (hc.translate hset q).2

/-- Once the mappings of a set are written, every translation misses a mapping or gives what the set
gives, the same text or the same error, whatever was translated before. -/
theorem translate_of_writeTables (hset : MappingSet.ofList tables = .ok set)
    (hwrite : (writeTables tables).run.run { storage := {} } = (.ok (), c)) (earlier : List Query) :
    (∀ q : Query,
      (∃ name, ((translate q).run.run (c.after earlier)).1 = .error (.mapping (.notLoaded name))) ∨
        ((translate q).run.run (c.after earlier)).1 = q.loweredSql set.source) ∧
    ∀ text : String,
      (∃ name, ((lowerText text).run.run (c.after earlier)).1 =
        .error (.mapping (.notLoaded name))) ∨
        ((lowerText text).run.run (c.after earlier)).1 = set.lowerText text := by
  obtain ⟨hholds, hc⟩ := writeTables_backed hset hwrite
  have hquery := fun q => ((hc.after hholds earlier).translate hholds q).1
  refine ⟨hquery, fun text => ?_⟩
  rw [run_lowerText, MappingSet.lowerText]
  cases (Query.parse text).mapError LoweringError.parse with
  | error e => exact .inr rfl
  | ok q => exact hquery q

/-- The type behind a column, from the storage and so from the set. -/
theorem lowerText_of_written :
    let items : TableMapping :=
      { logicalName := "Catalog.Items", physicalName := "_Reference5", type := .catalog }
    let orders : TableMapping :=
      { logicalName := "Document.Orders", physicalName := "_Document9", type := .document
        properties := [⟨"Item", .single "_fld10rref" (some "Catalog.Items")⟩] }
    let written : Catalog MemoryStorage :=
      ((writeTables [items, orders]).run.run { storage := {} }).2
    (writeTables [items, orders]).run.run { storage := {} } = (.ok (), written) ∧
    ∃ set, MappingSet.ofList [items, orders] = .ok set ∧
      set.lowerText "SELECT TYPEIDENTIFIER(o._fld10rref) FROM _Document9 o" =
        .ok "SELECT '\\x00000005'::bytea FROM _Document9 AS o" := by
  intro items orders written
  have hwritten : ((writeTables [items, orders]).run.run
      { storage := ({} : MemoryStorage) }).1 = .ok () := by
    decide +kernel
  have hwrite : (writeTables [items, orders]).run.run { storage := {} } = (.ok (), written) :=
    Prod.ext hwritten rfl
  have hok : (MappingSet.ofList [items, orders]).isOk = true := by decide +kernel
  have hanswer : ((lowerText "SELECT TYPEIDENTIFIER(o._fld10rref) FROM _Document9 o").run.run
      written).1 = .ok "SELECT '\\x00000005'::bytea FROM _Document9 AS o" := by
    decide +kernel
  refine ⟨hwrite, ?_⟩
  cases hset : MappingSet.ofList [items, orders] with
  | error e =>
    rw [hset] at hok
    cases hok
  | ok set =>
    refine ⟨set, rfl, ?_⟩
    obtain ⟨name, hmissing⟩ | heq := (translate_of_writeTables hset hwrite []).2
      "SELECT TYPEIDENTIFIER(o._fld10rref) FROM _Document9 o"
    · exact absurd (hanswer.symm.trans hmissing) nofun
    · exact heq.symm.trans hanswer

end Catalog

end LogicalSql
