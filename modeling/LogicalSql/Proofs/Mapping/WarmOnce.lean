import LogicalSql.Lowering.Text
import LogicalSql.Proofs.Mapping.Interleaving

/-! Requests to a catalog, one after another. None of them makes the catalog forget, so a query that
was warmed up stays so. -/
namespace LogicalSql

namespace Catalog

variable {σ ε δ α β : Type}

inductive Request where
  | writeTables (tables : List TableMapping)
  | writeEnums (enums : List EnumMapping)
  | resolve (question : Question)
  | warm (query : Query)
  | translate (text : String)

/-- The catalog after a request, be it granted or not. -/
def serve [Storage σ] (c : Catalog σ) : Request → Catalog σ
  | .writeTables tables => ((Catalog.writeTables tables).run.run c).2
  | .writeEnums enums => ((Catalog.writeEnums enums).run.run c).2
  | .resolve question => (question.resolve.run.run c).2
  | .warm query => ((Catalog.warm query).run.run c).2
  | .translate text => ((lowerText text).run.run c).2

def serveAll [Storage σ] (c : Catalog σ) (requests : List Request) : Catalog σ :=
  requests.foldl serve c

/-- What was remembered before the step is remembered after it, also where the step fails. -/
def Retains (m : ExceptT ε (StateM (Catalog σ)) α) : Prop :=
  ∀ c : Catalog σ, c.Keeps (m.run.run c).2

namespace Retains

variable {m : ExceptT ε (StateM (Catalog σ)) α} {f : α → ExceptT ε (StateM (Catalog σ)) β}

theorem pure (a : α) : Retains (Pure.pure a : ExceptT ε (StateM (Catalog σ)) α) := fun c => .refl c

theorem bind (hm : Retains m) (hf : ∀ a, Retains (f a)) : Retains (m >>= f) := by
  intro c
  have hkeeps := hm c
  rw [run_bind]
  rcases hrun : m.run.run c with ⟨e | a, c₁⟩
  · rw [hrun] at hkeeps
    exact hkeeps
  · rw [hrun] at hkeeps
    exact hkeeps.trans (hf a c₁)

theorem forM {f : α → ExceptT ε (StateM (Catalog σ)) PUnit} (hf : ∀ a, Retains (f a))
    (as : List α) : Retains (as.forM f) := by
  induction as with
  | nil => exact .pure _
  | cons a as ih => exact (hf a).bind fun _ => ih

theorem lift (x : Except ε α) : Retains (liftM x : ExceptT ε (StateM (Catalog σ)) α) :=
  fun c => .refl c

theorem adapt (hm : Retains m) (g : ε → δ) : Retains (m.adapt g) := by
  intro c
  have hrun : (m.adapt g).run.run c = Prod.map (Except.mapError g) id (m.run.run c) := rfl
  rw [hrun]
  exact hm c

end Retains

section Requests

variable [Storage σ]

theorem resolve_retains (question : Question) : Retains (question.resolve (σ := σ)) := by
  rw [question.resolve_eq]
  refine Retains.bind (fun c => .refl c) fun c => ?_
  cases question.remembered? c with
  | some a => exact .pure a
  | none =>
    have hload : Retains (question.load (σ := σ)) := run_load_keeps question
    refine hload.bind fun a c₁ => ?_
    obtain ⟨b, c₂, hrun, hkeeps, -⟩ := run_question_remember question a c₁
    rw [hrun]
    exact hkeeps

theorem warmTable_retains (name : String) : Retains (warmTable (σ := σ) name) := by
  have hphysical : Retains (resolvePhysical (σ := σ) name) := resolve_retains (.physical name)
  have hlogical : ∀ target, Retains (resolveLogical (σ := σ) target) := fun target =>
    resolve_retains (.logical target)
  unfold warmTable
  refine hphysical.bind fun a => ?_
  cases a with
  | none => exact .pure _
  | some t => exact .forM (fun target => (hlogical target).bind fun _ => .pure _) t.targets

theorem warm_retains (q : Query) : Retains (warm (σ := σ) q) := .forM warmTable_retains _

theorem lowerText_retains (text : String) : Retains (lowerText (σ := σ) text) := by
  unfold lowerText
  refine Retains.bind (.lift _) fun q => ?_
  exact ((warm_retains q).adapt _).bind fun _ => fun c => .refl c

theorem serve_keeps (c : Catalog σ) (request : Request) : c.Keeps (c.serve request) := by
  cases request with
  | writeTables tables => exact run_writeTables_keeps tables c
  | writeEnums enums => exact run_writeEnums_keeps enums c
  | resolve question => exact resolve_retains question c
  | warm query => exact warm_retains query c
  | translate text => exact lowerText_retains text c

theorem serveAll_keeps (c : Catalog σ) (requests : List Request) :
    c.Keeps (c.serveAll requests) := by
  induction requests generalizing c with
  | nil => exact .refl c
  | cons request requests ih => exact (c.serve_keeps request).trans (ih (c.serve request))

end Requests

theorem Keeps.extends {c c' : Catalog σ} (h : c.Keeps c') : c.Extends c' :=
  ⟨fun {name a} => h (.logical name) a, fun {name a} => h (.physical name) a⟩

/-- Once a query was warmed up, warming it up again looks nothing up and changes nothing, whatever
was asked of the catalog and written to it in between. The tables of the query, and the tables that
their properties always refer to, are still what they were after the first time. -/
theorem warm_once {q : Query} {c c₁ : Catalog MemoryStorage}
    (h : (warm q).run.run c = (.ok (), c₁)) (requests : List Request) :
    (warm q).run.run (c₁.serveAll requests) = (.ok (), c₁.serveAll requests) ∧
    ∀ name ∈ q.tableNames, ∃ a, c₁.source.physical name = .ok a ∧
      (c₁.serveAll requests).source.physical name = .ok a ∧
      ∀ t, a = some t → ∀ target ∈ t.targets, ∃ b, c₁.source.logical target = .ok b ∧
        (c₁.serveAll requests).source.logical target = .ok b := by
  have hwarmed := warm_warms h
  have hextends := (c₁.serveAll_keeps requests).extends
  constructor
  · exact run_warm_of_warmed fun name hname => hextends.warmed (hwarmed name hname)
  · intro name hname
    obtain ⟨a, ha, htargets⟩ := hwarmed name hname
    refine ⟨a, source_physical ha, source_physical (hextends.physical ha), ?_⟩
    intro t ht target htarget
    obtain ⟨b, hb⟩ := htargets t ht target htarget
    exact ⟨b, source_logical hb, source_logical (hextends.logical hb)⟩

/-- Tables that were written over, or were not there at first, are still what they were. -/
theorem warm_once_written_over :
    let items : TableMapping :=
      { logicalName := "Catalog.Items", physicalName := "_Reference5", type := .catalog
        index := some 5 }
    let orders : TableMapping :=
      { logicalName := "Document.Orders", physicalName := "_Document9", type := .document
        properties := [⟨"Item", .single "_fld10rref" (some "Catalog.Items")⟩], index := some 9 }
    let q : Query := .select
      { projections := [.wildcard]
        sources := [.table none "_Document9" none, .table none "_Document11" none] }
    let empty : Catalog MemoryStorage := { storage := {} }
    let c := empty.serve (.writeTables [items, orders])
    let c₁ := c.serve (.warm q)
    let requests : List Request :=
      [.writeTables [{ items with physicalName := "_Document11", index := none }], .writeEnums [],
        .resolve (.logical "CATALOG.ITEMS"), .translate "SELECT a FROM _document11"]
    let c₂ := c₁.serveAll requests
    ((warm q).run.run c).1 = .ok () ∧ c₁.storage.selects = 3 ∧
      (warm q).run.run c₂ = (.ok (), c₂) ∧
      c₂.source.physical "_Document9" = .ok (some orders) ∧
      c₂.source.logical "Catalog.Items" = .ok (some items) ∧
      c₂.source.physical "_Document11" = .ok none := by
  intro items orders q empty c c₁ requests c₂
  have hok : ((warm q).run.run c).1 = .ok () := by decide +kernel
  have horders : c₁.source.physical "_Document9" = .ok (some orders) := by decide +kernel
  have hitems : c₁.source.logical "Catalog.Items" = .ok (some items) := by decide +kernel
  have hnone : c₁.source.physical "_Document11" = .ok none := by decide +kernel
  have hwarm : (warm q).run.run c = (.ok (), c₁) := Prod.ext hok rfl
  obtain ⟨hagain, hanswers⟩ := warm_once hwarm requests
  obtain ⟨a, ha, ha', htargets⟩ := hanswers "_Document9" (by decide)
  obtain ⟨b, hb, hb', -⟩ := hanswers "_Document11" (by decide)
  cases horders.symm.trans ha
  cases hnone.symm.trans hb
  obtain ⟨t, ht, ht'⟩ := htargets orders rfl "Catalog.Items" List.mem_cons_self
  cases hitems.symm.trans ht
  exact ⟨hok, by decide +kernel, hagain, ha', ht', hb'⟩

end Catalog

end LogicalSql
