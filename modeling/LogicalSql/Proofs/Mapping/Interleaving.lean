import LogicalSql.Proofs.Mapping.Written

/-! Look-ups that run side by side, with writes between their steps. Main statement: what is
remembered stays, so all look-ups of one name that succeed give one answer. -/
namespace LogicalSql

namespace Cache

variable {κ ν : Type} [DecidableEq κ] {cache : Cache κ ν} {key k : κ} {value a : ν}

/-- What is remembered under a key is the first value that it was given. -/
theorem get?_remember :
    (cache.remember key value).get? key = some ((cache.get? key).getD value) := by
  cases h : cache.get? key with
  | none => rw [remember_of_none h, get?_cons, if_pos rfl, Option.getD_none]
  | some b => rw [remember, if_pos (by rw [h]; rfl), h, Option.getD_some]

theorem get?_remember_of_some (h : cache.get? k = some a) :
    (cache.remember key value).get? k = some a := by
  cases hkey : cache.get? key with
  | none => rw [remember_of_none hkey, get?_cons_of_some hkey h]
  | some b => rw [remember, if_pos (by rw [hkey]; rfl), h]

theorem get?_remember_getD : (cache.remember key value).get? key =
    some (((cache.remember key value).get? key).getD value) := by
  rw [get?_remember, Option.getD_some]

end Cache

namespace Catalog

variable {σ : Type} {c c' : Catalog σ}

deriving instance DecidableEq for Question

namespace Question

/-- What the question is answered with. -/
abbrev Answer : Question → Type
  | .logical _ => Option TableMapping
  | .physical _ => Option TableMapping
  | .enumValue _ _ => Option Int32

instance : (q : Question) → DecidableEq q.Answer
  | .logical _ => inferInstanceAs (DecidableEq (Option TableMapping))
  | .physical _ => inferInstanceAs (DecidableEq (Option TableMapping))
  | .enumValue _ _ => inferInstanceAs (DecidableEq (Option Int32))

/-- The answer that is remembered. -/
def remembered? (c : Catalog σ) : (q : Question) → Option q.Answer
  | .logical name => c.logical.get? name
  | .physical name => c.physical.get? name
  | .enumValue enum value => c.enums.get? (enum, value)

/-- The answer of the storage. -/
def load [Storage σ] : (q : Question) → CatalogM σ q.Answer
  | .logical name => loadTable "queryTableName" name
  | .physical name => loadTable "dbName" name
  | .enumValue enum value => loadEnumValue enum value

/-- The answer that is remembered from now on. -/
def remember : (q : Question) → q.Answer → CatalogM σ q.Answer
  | .logical name => rememberLogical name
  | .physical name => rememberPhysical name
  | .enumValue enum value => rememberEnumValue (enum, value)

def resolve [Storage σ] : (q : Question) → CatalogM σ q.Answer
  | .logical name => resolveLogical name
  | .physical name => resolvePhysical name
  | .enumValue enum value => resolveEnumValue enum value

end Question

/-- How far a look-up has come. -/
inductive Stage (α : Type) where
  | asked
  /-- Nothing was remembered. -/
  | missed
  | loaded (answer : α)
  | done (result : Except MappingError α)
  deriving DecidableEq

structure Lookup where
  question : Question
  stage : Stage question.Answer := .asked
  deriving DecidableEq

/-- The next step of a look-up. One that is done takes no more steps. -/
def Lookup.advance [Storage σ] (c : Catalog σ) : Lookup → Lookup × Catalog σ
  | ⟨q, .asked⟩ =>
    match q.remembered? c with
    | some a => (⟨q, .done (.ok a)⟩, c)
    | none => (⟨q, .missed⟩, c)
  | ⟨q, .missed⟩ =>
    match q.load.run.run c with
    | (.ok a, c') => (⟨q, .loaded a⟩, c')
    | (.error e, c') => (⟨q, .done (.error e)⟩, c')
  | ⟨q, .loaded a⟩ =>
    let (result, c') := (q.remember a).run.run c
    (⟨q, .done result⟩, c')
  | ⟨q, .done result⟩ => (⟨q, .done result⟩, c)

/-- A catalog with the look-ups that were begun on it. -/
structure Session (σ : Type) where
  catalog : Catalog σ
  lookups : List Lookup := []

inductive Action (σ : Type) where
  | ask (question : Question)
  /-- The look-up at this place takes its next step. -/
  | advance (place : Nat)
  | writeTables (tables : List TableMapping)
  | writeEnums (enums : List EnumMapping)
  /-- The storage is changed by others, or by a write that is still under way. -/
  | change (storage : σ)

namespace Session

variable [Storage σ]

def act (s : Session σ) : Action σ → Session σ
  | .ask question => { s with lookups := s.lookups ++ [{ question }] }
  | .advance place =>
    match s.lookups[place]? with
    | some l =>
      let (l, catalog) := l.advance s.catalog
      ⟨catalog, s.lookups.set place l⟩
    | none => s
  | .writeTables tables => { s with catalog := ((writeTables tables).run.run s.catalog).2 }
  | .writeEnums enums => { s with catalog := ((writeEnums enums).run.run s.catalog).2 }
  | .change storage => { s with catalog.storage := storage }

def run (s : Session σ) (actions : List (Action σ)) : Session σ := actions.foldl act s

end Session

/-! What one step does to what is remembered. -/

variable {s : Session σ}

/-- What one catalog remembers, the other remembers with the same answer. -/
def Keeps (c c' : Catalog σ) : Prop :=
  ∀ (q : Question) (a : q.Answer), q.remembered? c = some a → q.remembered? c' = some a

theorem keeps_storage (c : Catalog σ) (storage : σ) : c.Keeps { c with storage } := by
  intro q a h
  cases q <;> exact h

theorem Keeps.refl (c : Catalog σ) : c.Keeps c := fun _ _ h => h

theorem Keeps.trans {c'' : Catalog σ} (h : c.Keeps c') (h' : c'.Keeps c'') : c.Keeps c'' :=
  fun q a ha => h' q a (h q a ha)

/-- The answer given is the one that is remembered. -/
theorem run_question_remember (q : Question) (a : q.Answer) (c : Catalog σ) :
    ∃ b c', (q.remember a).run.run c = (.ok b, c') ∧ c.Keeps c' ∧ q.remembered? c' = some b := by
  cases q with
  | logical name =>
    refine ⟨_, { c with logical := c.logical.remember name a }, rfl, ?_, Cache.get?_remember_getD⟩
    intro q b h
    cases q with
    | logical other => exact Cache.get?_remember_of_some h
    | physical | enumValue => exact h
  | physical name =>
    refine ⟨_, { c with physical := c.physical.remember name a }, rfl, ?_, Cache.get?_remember_getD⟩
    intro q b h
    cases q with
    | physical other => exact Cache.get?_remember_of_some h
    | logical | enumValue => exact h
  | enumValue enum value =>
    refine ⟨_, { c with enums := c.enums.remember (enum, value) a }, rfl, ?_,
      Cache.get?_remember_getD⟩
    intro q b h
    cases q with
    | enumValue => exact Cache.get?_remember_of_some h
    | logical | physical => exact h

/-- A look-up that is done with an answer gives what is remembered. -/
def Lookup.Sound (c : Catalog σ) (l : Lookup) : Prop :=
  ∀ (q : Question) (a : q.Answer), l = ⟨q, .done (.ok a)⟩ → q.remembered? c = some a

theorem Lookup.Sound.keeps {l : Lookup} (hl : l.Sound c) (h : c.Keeps c') : l.Sound c' :=
  fun q a hq => h q a (hl q a hq)

/-- Every look-up that is done with an answer gives what is remembered. -/
def Session.Sound (s : Session σ) : Prop := ∀ l ∈ s.lookups, l.Sound s.catalog

theorem Session.Sound.keeps (hs : s.Sound) (h : s.catalog.Keeps c) :
    { s with catalog := c }.Sound := fun l hl => (hs l hl).keeps h

theorem run_onStorage_keeps {α : Type} (step : StorageM σ α) (c : Catalog σ) :
    c.Keeps ((onStorage step).run.run c).2 := by
  rw [run_onStorage]
  rcases step.run.run c.storage with ⟨_ | _, storage⟩ <;> exact c.keeps_storage storage

variable [Storage σ]

theorem run_load_keeps (q : Question) (c : Catalog σ) : c.Keeps (q.load.run.run c).2 := by
  cases q with
  | logical name =>
    change c.Keeps ((loadTable "queryTableName" name).run.run c).2
    rw [run_loadTable]
    exact c.keeps_storage _
  | physical name =>
    change c.Keeps ((loadTable "dbName" name).run.run c).2
    rw [run_loadTable]
    exact c.keeps_storage _
  | enumValue enum value =>
    change c.Keeps ((loadEnumValue enum value).run.run c).2
    rw [run_loadEnumValue]
    exact c.keeps_storage _

theorem Question.resolve_eq (q : Question) :
    q.resolve (σ := σ) = (do
      match q.remembered? (← get) with
      | some answer => return answer
      | none => q.remember (← q.load)) := by
  cases q with
  | logical name =>
    refine congrArg (get >>= ·) (funext fun c => ?_)
    rw [remembered?]
    cases c.logical.get? name <;> rfl
  | physical name =>
    refine congrArg (get >>= ·) (funext fun c => ?_)
    rw [remembered?]
    cases c.physical.get? name <;> rfl
  | enumValue enum value =>
    refine congrArg (get >>= ·) (funext fun c => ?_)
    rw [remembered?]
    cases c.enums.get? (enum, value) <;> rfl

theorem run_question_resolve (q : Question) (c : Catalog σ) :
    q.resolve.run.run c =
      match q.remembered? c, q.load.run.run c with
      | some a, _ => (.ok a, c)
      | none, (.error e, c') => (.error e, c')
      | none, (.ok a, c') => (q.remember a).run.run c' := by
  rw [q.resolve_eq, run_bind, run_get]
  dsimp only
  cases q.remembered? c with
  | some a => rfl
  | none =>
    dsimp only
    rw [run_bind]
    rcases q.load.run.run c with ⟨_ | a, c'⟩ <;> rfl

/-- A write changes nothing but the storage, whether it succeeds or not. -/
theorem run_writeTables_keeps (tables : List TableMapping) (c : Catalog σ) :
    c.Keeps ((writeTables tables).run.run c).2 := by
  rw [run_writeTables_eq]
  cases tables.forM checkWritable with
  | error e => exact .refl c
  | ok => exact run_onStorage_keeps _ c

theorem run_writeEnums_keeps (enums : List EnumMapping) (c : Catalog σ) :
    c.Keeps ((writeEnums enums).run.run c).2 := by
  rw [writeEnums_eq]
  exact run_onStorage_keeps _ c

/-- One step of a look-up keeps what is remembered, and its answer is remembered once it is done. -/
theorem Lookup.advance_sound (l : Lookup) (hl : l.Sound c) :
    c.Keeps (l.advance c).2 ∧ (l.advance c).1.Sound (l.advance c).2 := by
  obtain ⟨q, stage⟩ := l
  cases stage with
  | asked =>
    rw [Lookup.advance]
    cases hc : q.remembered? c with
    | none => exact ⟨.refl c, nofun⟩
    | some a =>
      refine ⟨.refl c, ?_⟩
      rintro _ _ ⟨⟩
      exact hc
  | missed =>
    have hload := run_load_keeps q c
    rw [Lookup.advance]
    rcases hrun : q.load.run.run c with ⟨_ | _, c'⟩
    all_goals
      rw [hrun] at hload
      exact ⟨hload, nofun⟩
  | loaded a =>
    obtain ⟨b, c', hrun, hkeeps, hb⟩ := run_question_remember q a c
    rw [Lookup.advance, hrun]
    refine ⟨hkeeps, ?_⟩
    rintro _ _ ⟨⟩
    exact hb
  | done result => exact ⟨.refl c, hl⟩

namespace Session

theorem act_sound (hs : s.Sound) (action : Action σ) :
    s.catalog.Keeps (s.act action).catalog ∧ (s.act action).Sound := by
  cases action with
  | ask question =>
    refine ⟨.refl _, fun l hl => ?_⟩
    rcases List.mem_append.1 hl with hl | hl
    · exact hs l hl
    · rw [List.mem_singleton.1 hl]
      exact nofun
  | advance place =>
    rw [act]
    cases hplace : s.lookups[place]? with
    | none => exact ⟨.refl _, hs⟩
    | some l =>
      obtain ⟨hkeeps, hl⟩ := l.advance_sound (hs l (List.mem_of_getElem? hplace))
      refine ⟨hkeeps, fun l' hl' => ?_⟩
      rcases List.mem_or_eq_of_mem_set hl' with hl' | rfl
      · exact (hs l' hl').keeps hkeeps
      · exact hl
  | writeTables tables =>
    have hkeeps := run_writeTables_keeps tables s.catalog
    exact ⟨hkeeps, hs.keeps hkeeps⟩
  | writeEnums enums =>
    have hkeeps := run_writeEnums_keeps enums s.catalog
    exact ⟨hkeeps, hs.keeps hkeeps⟩
  | change storage =>
    have hkeeps := s.catalog.keeps_storage storage
    exact ⟨hkeeps, hs.keeps hkeeps⟩

theorem run_sound (hs : s.Sound) (actions : List (Action σ)) :
    s.catalog.Keeps (s.run actions).catalog ∧ (s.run actions).Sound := by
  induction actions generalizing s with
  | nil => exact ⟨.refl _, hs⟩
  | cons action actions ih =>
    obtain ⟨hkeeps, hact⟩ := act_sound hs action
    obtain ⟨hkeeps', hrun⟩ := ih hact
    exact ⟨hkeeps.trans hkeeps', hrun⟩

/-- A look-up that nothing comes between is the question to the catalog. -/
theorem run_alone (q : Question) (c : Catalog σ) :
    run { catalog := c } [.ask q, .advance 0, .advance 0, .advance 0] =
      ⟨(q.resolve.run.run c).2, [⟨q, .done (q.resolve.run.run c).1⟩]⟩ := by
  -- With one look-up, a step of the session is a step of the look-up.
  have hadvance : ∀ (l : Lookup) (c : Catalog σ) (actions : List (Action σ)),
      run ⟨c, [l]⟩ (.advance 0 :: actions) = run ⟨(l.advance c).2, [(l.advance c).1]⟩ actions :=
    fun _ _ _ => rfl
  have hask : run { catalog := c } [.ask q, .advance 0, .advance 0, .advance 0] =
      run ⟨c, [⟨q, .asked⟩]⟩ [.advance 0, .advance 0, .advance 0] := rfl
  rw [hask, run_question_resolve, hadvance, hadvance, hadvance, Lookup.advance]
  cases q.remembered? c with
  | some a => rfl
  | none =>
    dsimp only
    rw [Lookup.advance]
    rcases q.load.run.run c with ⟨_ | a, c'⟩ <;> rfl

end Session

/-- What is remembered never changes. All look-ups of one name that succeed give one answer,
whichever came first and whatever was written between. A look-up that runs alone is the question to
the catalog. -/
theorem lookups_agree (c : Catalog σ) (actions later : List (Action σ)) :
    (∀ q, Session.run { catalog := c } [.ask q, .advance 0, .advance 0, .advance 0] =
      ⟨(q.resolve.run.run c).2, [⟨q, .done (q.resolve.run.run c).1⟩]⟩) ∧
    (∀ (q : Question) (a : q.Answer),
      q.remembered? (Session.run { catalog := c } actions).catalog = some a →
      q.remembered? (Session.run { catalog := c } (actions ++ later)).catalog = some a) ∧
    ∀ (q : Question) (a b : q.Answer),
      ⟨q, .done (.ok a)⟩ ∈ (Session.run { catalog := c } actions).lookups →
      ⟨q, .done (.ok b)⟩ ∈ (Session.run { catalog := c } (actions ++ later)).lookups → a = b := by
  have hstart : ({ catalog := c } : Session σ).Sound := fun _ hl => nomatch hl
  obtain ⟨-, hbefore⟩ := Session.run_sound hstart actions
  obtain ⟨hkeeps, hafter⟩ := Session.run_sound hbefore later
  have hrun : Session.run { catalog := c } (actions ++ later) =
      (Session.run { catalog := c } actions).run later := List.foldl_append
  rw [hrun]
  refine ⟨fun q => Session.run_alone q c, hkeeps, fun q a b ha hb => ?_⟩
  have hfirst := hkeeps q a (hbefore _ ha q a rfl)
  have hsecond := hafter _ hb q b rfl
  exact Option.some.inj (hfirst.symm.trans hsecond)

/-- Two look-ups of one name load before and after a write, and the second remembers first. -/
theorem lookups_agree_across_write :
    let items : TableMapping :=
      { logicalName := "Catalog.Items", physicalName := "_Reference5", type := .catalog
        index := some 5 }
    let goods : TableMapping := { items with logicalName := "Catalog.Goods" }
    let question : Question := .physical "_REFERENCE5"
    let loads : List (Action MemoryStorage) :=
      [.writeTables [items], .ask question, .ask question, .advance 0, .advance 1, .advance 0,
        .writeTables [goods], .advance 1]
    let s : Session MemoryStorage := { catalog := { storage := {} } }
    (s.run loads).lookups = [⟨question, .loaded (some items)⟩, ⟨question, .loaded (some goods)⟩] ∧
    ⟨question, .done (.ok (some goods))⟩ ∈ (s.run (loads ++ [.advance 1])).lookups ∧
    ∃ answer, (s.run (loads ++ [.advance 1] ++ [.advance 0])).lookups.head? =
      some ⟨question, .done (.ok answer)⟩ ∧ some goods = answer := by
  intro items goods question loads s
  have hloads : (s.run loads).lookups =
      [⟨question, .loaded (some items)⟩, ⟨question, .loaded (some goods)⟩] := by
    decide +kernel
  have hsecond : ⟨question, .done (.ok (some goods))⟩ ∈
      (s.run (loads ++ [.advance 1])).lookups := by
    decide +kernel
  have hfirst : (s.run (loads ++ [.advance 1] ++ [.advance 0])).lookups.head? =
      some ⟨question, .done (.ok (some goods))⟩ := by
    decide +kernel
  obtain ⟨-, -, hagree⟩ := lookups_agree s.catalog (loads ++ [.advance 1]) [.advance 0]
  exact ⟨hloads, hsecond, _, hfirst,
    hagree question _ _ hsecond (List.mem_of_mem_head? hfirst)⟩

end Catalog

end LogicalSql
