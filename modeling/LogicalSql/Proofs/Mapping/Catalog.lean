import LogicalSql.Mapping.Catalog
import LogicalSql.Proofs.Outcome

/-! How a catalog answers: from what it remembers, and otherwise from its storage, once. What is
remembered stays. -/
namespace LogicalSql

namespace Cache

variable {κ ν : Type} [DecidableEq κ] {cache : Cache κ ν} {key k : κ} {value : ν}

theorem get?_cons :
    get? ((key, value) :: cache) k = if key = k then some value else cache.get? k := by
  by_cases h : key = k <;> simp [get?, h]

theorem remember_of_none (h : cache.get? key = none) :
    cache.remember key value = (key, value) :: cache := by
  simp [remember, h]

/-- A new answer leaves the others in their place. -/
theorem get?_cons_of_some {a : ν} (hkey : cache.get? key = none) (hk : cache.get? k = some a) :
    get? ((key, value) :: cache) k = some a := by
  have hne : key ≠ k := by
    rintro rfl
    rw [hkey] at hk
    cases hk
  rw [get?_cons, if_neg hne, hk]

/-- If every answer is what `f` gives, so is it with one more answer of `f`. -/
theorem get?_cons_eq {f : κ → ν} {a : ν} (h : ∀ {k a}, cache.get? k = some a → a = f k)
    (hk : get? ((key, f key) :: cache) k = some a) : a = f k := by
  rw [get?_cons] at hk
  by_cases hkey : key = k
  · rw [if_pos hkey, hkey] at hk
    exact (Option.some.inj hk).symm
  · rw [if_neg hkey] at hk
    exact h hk

theorem get?_map (f : κ → ν) (keys : List κ) :
    get? (keys.map fun k => (k, f k)) key = if key ∈ keys then some (f key) else none := by
  induction keys with
  | nil => rfl
  | cons k ks ih =>
    rw [List.map_cons, get?_cons, ih]
    by_cases hk : k = key
    · simp [hk]
    · simp [hk, Ne.symm hk]

end Cache

namespace Catalog

variable {σ : Type} {α β : Type}

theorem run_forM_cons (f : α → CatalogM σ PUnit) (x : α) (xs : List α) (c : Catalog σ) :
    ((x :: xs).forM f).run.run c =
      match (f x).run.run c with
      | (.ok _, c') => (xs.forM f).run.run c'
      | (.error e, c') => (.error e, c') := by
  have h : (x :: xs).forM f = f x >>= fun _ => xs.forM f := rfl
  rw [h, run_bind]
  rcases (f x).run.run c with ⟨_ | _, c'⟩ <;> rfl

theorem run_get (c : Catalog σ) : (get : CatalogM σ (Catalog σ)).run.run c = (.ok c, c) := rfl

theorem run_onStorage (step : StorageM σ α) (c : Catalog σ) :
    (onStorage step).run.run c =
      match step.run.run c.storage with
      | (.ok a, storage) => (.ok a, { c with storage })
      | (.error e, storage) => (.error (.storage e), { c with storage }) := by
  unfold onStorage
  rw [run_bind, run_get]
  dsimp only
  rcases step.run.run c.storage with ⟨_ | _, storage⟩ <;> rfl

theorem run_forM_checkWritable (tables : List TableMapping) (c : Catalog σ) :
    (tables.forM fun t => (checkWritable t : CatalogM σ Unit)).run.run c =
      (tables.forM checkWritable, c) := by
  induction tables with
  | nil => rfl
  | cons t ts ih =>
    have hrun : (checkWritable t : CatalogM σ Unit).run.run c = (checkWritable t, c) := rfl
    have hcons :
        (t :: ts).forM checkWritable = checkWritable t >>= fun _ => ts.forM checkWritable :=
      rfl
    rw [run_forM_cons, hrun, hcons]
    cases checkWritable t with
    | error e => rfl
    | ok => exact ih

theorem checkedRows_eq_ok {desc : TableDesc} {toRow : α → Row}
    (hrow : ∀ item, (toRow item).length = desc.columns.length) (items : List α) :
    checkedRows desc toRow items = .ok (items.map toRow) := by
  induction items with
  | nil => rfl
  | cons item items ih =>
    have hitem : desc.checkRow (toRow item) = .ok () := if_pos (hrow item)
    rw [checkedRows, List.mapM_cons, ← checkedRows, ih]
    dsimp only
    rw [hitem]
    rfl

/-- Rows of the right length pass the check in front of the storage. -/
theorem recreate_eq [Storage σ] {desc : TableDesc} {toRow : α → Row}
    (hrow : ∀ item, (toRow item).length = desc.columns.length) (items : List α) :
    (recreate desc toRow items : CatalogM σ Unit) =
      onStorage (Storage.recreate desc (items.map toRow)) := by
  rw [recreate, checkedRows_eq_ok hrow]
  rfl

theorem writeEnums_eq [Storage σ] (enums : List EnumMapping) :
    (writeEnums enums : CatalogM σ Unit) =
      onStorage (Storage.recreate enumMappingsDesc (enums.map EnumMapping.toRow)) :=
  recreate_eq (fun _ => rfl) enums

/-- All mappings are checked before the storage is asked. -/
theorem run_writeTables_eq [Storage σ] (tables : List TableMapping) (c : Catalog σ) :
    (writeTables tables).run.run c =
      match tables.forM checkWritable with
      | .ok _ =>
        (onStorage (Storage.recreate tableMappingsDesc (tables.map TableMapping.toRow))).run.run c
      | .error e => (.error e, c) := by
  rw [writeTables, run_bind, run_forM_checkWritable, recreate_eq fun _ => rfl]
  cases tables.forM checkWritable <;> rfl

/-- What holds before a row of steps and is kept by each holds after it, and none of them fails. -/
theorem run_forM_of_keeps {f : α → CatalogM σ PUnit} {xs : List α} {I : Catalog σ → Prop}
    (hstep : ∀ x ∈ xs, ∀ c, I c → ∃ c', (f x).run.run c = (.ok (), c') ∧ I c') {c : Catalog σ}
    (hc : I c) : ∃ c', (xs.forM f).run.run c = (.ok (), c') ∧ I c' := by
  induction xs generalizing c with
  | nil => exact ⟨c, rfl, hc⟩
  | cons x xs ih =>
    obtain ⟨c₁, hx, hc₁⟩ := hstep x List.mem_cons_self c hc
    obtain ⟨c₂, hxs, hc₂⟩ := ih (fun y hy => hstep y (List.mem_cons_of_mem x hy)) hc₁
    refine ⟨c₂, ?_, hc₂⟩
    rw [run_forM_cons, hx]
    exact hxs

/-- What one catalog remembers, the other remembers with the same answer. -/
structure Extends (c c' : Catalog σ) : Prop where
  logical : ∀ {name a}, c.logical.get? name = some a → c'.logical.get? name = some a
  physical : ∀ {name a}, c.physical.get? name = some a → c'.physical.get? name = some a

theorem Extends.refl (c : Catalog σ) : c.Extends c := ⟨id, id⟩

theorem Extends.trans {c c' c'' : Catalog σ} (h : c.Extends c') (h' : c'.Extends c'') :
    c.Extends c'' :=
  ⟨fun hn => h'.logical (h.logical hn), fun hn => h'.physical (h.physical hn)⟩

/-- If each step that succeeds brings about `Q`, and what is remembered later does not undo it, then
a row of steps that succeeds brings it about for all. -/
theorem forM_extends {f : α → CatalogM σ PUnit} {xs : List α} {Q : α → Catalog σ → Prop}
    (hstep : ∀ x c c', (f x).run.run c = (.ok (), c') → c.Extends c' ∧ Q x c')
    (hQ : ∀ {x c c'}, c.Extends c' → Q x c → Q x c') {c c' : Catalog σ}
    (h : (xs.forM f).run.run c = (.ok (), c')) : c.Extends c' ∧ ∀ x ∈ xs, Q x c' := by
  induction xs generalizing c with
  | nil =>
    cases h
    exact ⟨.refl c', nofun⟩
  | cons x xs ih =>
    rw [run_forM_cons] at h
    rcases hx : (f x).run.run c with ⟨e | _, c₁⟩ <;> rw [hx] at h
    · cases h
    · obtain ⟨hc, hQx⟩ := hstep x c c₁ hx
      obtain ⟨hc₁, hQxs⟩ := ih h
      exact ⟨hc.trans hc₁, List.forall_mem_cons.2 ⟨hQ hc₁ hQx, hQxs⟩⟩

/-- What is remembered of the names of one kind. -/
def answers (c : Catalog σ) : NameKind → Cache String (Option TableMapping)
  | .logical => c.logical
  | .physical => c.physical

/-- The catalog with one more answer. -/
def learn (c : Catalog σ) (kind : NameKind) (name : String) (a : Option TableMapping) : Catalog σ :=
  match kind with
  | .logical => { c with logical := (name, a) :: c.logical }
  | .physical => { c with physical := (name, a) :: c.physical }

theorem answers_learn (c : Catalog σ) (kind : NameKind) (name : String) (a : Option TableMapping) :
    (c.learn kind name a).answers kind = (name, a) :: c.answers kind := by
  cases kind <;> rfl

theorem extends_learn {c : Catalog σ} {kind : NameKind} {name : String}
    (h : (c.answers kind).get? name = none) (storage : σ) (a : Option TableMapping) :
    c.Extends ({ c with storage }.learn kind name a) := by
  cases kind with
  | logical => exact ⟨fun hn => Cache.get?_cons_of_some h hn, id⟩
  | physical => exact ⟨id, fun hn => Cache.get?_cons_of_some h hn⟩

def remember : NameKind → String → Option TableMapping → CatalogM σ (Option TableMapping)
  | .logical => rememberLogical
  | .physical => rememberPhysical

theorem run_remember {c : Catalog σ} {kind : NameKind} {name : String}
    (h : (c.answers kind).get? name = none) (a : Option TableMapping) :
    (remember kind name a).run.run c = (.ok a, c.learn kind name a) := by
  have hfirst : ∀ cache, Cache.get? ((name, a) :: cache) name = some a := fun _ => by
    rw [Cache.get?_cons, if_pos rfl]
  cases kind with
  | logical =>
    have hcache : c.logical.remember name a = (name, a) :: c.logical := Cache.remember_of_none h
    change (Except.ok (((c.logical.remember name a).get? name).getD a),
      { c with logical := c.logical.remember name a }) = _
    rw [hcache, hfirst]
    rfl
  | physical =>
    have hcache : c.physical.remember name a = (name, a) :: c.physical := Cache.remember_of_none h
    change (Except.ok (((c.physical.remember name a).get? name).getD a),
      { c with physical := c.physical.remember name a }) = _
    rw [hcache, hfirst]
    rfl

variable [Storage σ]

/-- The answer of the storage to a look-up, and the storage after it. -/
def lookup (column name : String) (storage : σ) :
    Except MappingError (Option TableMapping) × σ :=
  match (Storage.select tableMappingsDesc [(column, .text name)]).run.run storage with
  | (.error e, storage) => (.error (.storage e), storage)
  | (.ok [], storage) => (.ok none, storage)
  | (.ok (row :: _), storage) => ((TableMapping.ofRow row).map some, storage)

theorem run_loadTable (c : Catalog σ) (column name : String) :
    (loadTable column name).run.run c =
      ((lookup column name c.storage).1,
        { c with storage := (lookup column name c.storage).2 }) := by
  unfold loadTable lookup
  rw [run_bind, run_onStorage]
  rcases (Storage.select tableMappingsDesc [(column, .text name)]).run.run c.storage with
    ⟨_ | _ | ⟨row, _⟩, storage⟩
  · rfl
  · rfl
  · cases h : TableMapping.ofRow row <;> simp only [h] <;> rfl

/-- The column that holds the names of one kind. -/
def column : NameKind → String
  | .logical => "queryTableName"
  | .physical => "dbName"

def resolve : NameKind → String → CatalogM σ (Option TableMapping)
  | .logical => resolveLogical
  | .physical => resolvePhysical

theorem resolve_eq (kind : NameKind) (name : String) :
    resolve (σ := σ) kind name = (do
      match ((← get).answers kind).get? name with
      | some answer => return answer
      | none => remember kind name (← loadTable (column kind) name)) := by
  cases kind <;> rfl

/-- A name that is not remembered is looked up, and the answer remembered. -/
theorem run_resolve (kind : NameKind) (name : String) (c : Catalog σ) :
    (resolve kind name).run.run c =
      match (c.answers kind).get? name, lookup (column kind) name c.storage with
      | some a, _ => (.ok a, c)
      | none, (.error e, storage) => (.error e, { c with storage })
      | none, (.ok a, storage) => (.ok a, { c with storage }.learn kind name a) := by
  rw [resolve_eq, run_bind, run_get]
  dsimp only
  cases hget : (c.answers kind).get? name with
  | some a => rfl
  | none =>
    dsimp only
    rw [run_bind, run_loadTable]
    rcases lookup (column kind) name c.storage with ⟨_ | a, storage⟩
    · rfl
    · exact run_remember (c := { c with storage }) (by cases kind <;> exact hget) a

theorem run_resolve_of_some (kind : NameKind) {name : String} {c : Catalog σ}
    {a : Option TableMapping} (h : (c.answers kind).get? name = some a) :
    (resolve kind name).run.run c = (.ok a, c) := by
  rw [run_resolve, h]

theorem resolve_remembers (kind : NameKind) {name : String} {c c' : Catalog σ}
    {a : Option TableMapping} (h : (resolve kind name).run.run c = (.ok a, c')) :
    c.Extends c' ∧ (c'.answers kind).get? name = some a := by
  cases hget : (c.answers kind).get? name with
  | some b =>
    rw [run_resolve_of_some kind hget] at h
    cases h
    exact ⟨.refl c, hget⟩
  | none =>
    rw [run_resolve, hget] at h
    rcases hlookup : lookup (column kind) name c.storage with ⟨e | b, storage⟩ <;>
      rw [hlookup] at h
    · cases h
    · cases h
      refine ⟨extends_learn hget storage a, ?_⟩
      rw [answers_learn, Cache.get?_cons, if_pos rfl]

end Catalog

end LogicalSql
