import LogicalSql.Query.Walk

/-! Outcomes of steps that may fail: what a success says about its parts, and when two outcomes
agree. -/
namespace LogicalSql

variable {ε δ σ α β : Type}

instance (priority := 2000) decidableEqExcept [DecidableEq ε] [DecidableEq α] :
    DecidableEq (Except ε α)
  | .ok a, .ok b => decidable_of_iff (a = b) ⟨congrArg _, Except.ok.inj⟩
  | .error e, .error e' => decidable_of_iff (e = e') ⟨congrArg _, Except.error.inj⟩
  | .ok _, .error _ => .isFalse nofun
  | .error _, .ok _ => .isFalse nofun

theorem bind_eq_ok {x : Except ε α} {f : α → Except ε β} {b : β} :
    x >>= f = .ok b ↔ ∃ a, x = .ok a ∧ f a = .ok b := by
  constructor
  · intro h
    cases x with
    | error e => cases h
    | ok a => exact ⟨a, rfl, h⟩
  · rintro ⟨a, rfl, h⟩
    exact h

theorem pure_eq_ok {a b : α} : (pure a : Except ε α) = .ok b ↔ b = a :=
  ⟨fun h => (Except.ok.inj h).symm, fun h => h ▸ rfl⟩

theorem run_bind_eq_ok {x : StateT σ (Except ε) α} {f : α → StateT σ (Except ε) β} {s t : σ}
    {b : β} :
    (x >>= f).run s = .ok (b, t) ↔
      ∃ a s', x.run s = .ok (a, s') ∧ (f a).run s' = .ok (b, t) := by
  rw [StateT.run_bind, bind_eq_ok, Prod.exists]

theorem run_pure_eq_ok {a b : α} {s t : σ} :
    (pure a : StateT σ (Except ε) α).run s = .ok (b, t) ↔ b = a ∧ t = s := by
  rw [StateT.run_pure, pure_eq_ok, Prod.mk.injEq]

theorem forM_eq_ok {f : α → Except ε PUnit} {xs : List α} :
    xs.forM f = .ok () ↔ ∀ x ∈ xs, f x = .ok () := by
  induction xs with
  | nil => exact ⟨fun _ => List.forall_mem_nil _, fun _ => rfl⟩
  | cons x xs ih =>
    have hcons : (x :: xs).forM f = f x >>= fun _ => xs.forM f := rfl
    rw [hcons, bind_eq_ok, List.forall_mem_cons, ih]
    exact ⟨fun ⟨_, hx, hxs⟩ => ⟨hx, hxs⟩, fun ⟨hx, hxs⟩ => ⟨(), hx, hxs⟩⟩

/-- The error of a row of steps is that of the first step that fails. -/
theorem first_of_forM_eq_error {f : α → Except ε PUnit} {xs : List α} {e : ε}
    (h : xs.forM f = .error e) :
    ∃ before x after, xs = before ++ x :: after ∧ (∀ y ∈ before, f y = .ok ()) ∧
      f x = .error e := by
  induction xs with
  | nil => cases h
  | cons x xs ih =>
    have hcons : (x :: xs).forM f = f x >>= fun _ => xs.forM f := rfl
    rw [hcons] at h
    cases hx : f x with
    | error e' =>
      rw [hx] at h
      cases h
      exact ⟨[], x, xs, rfl, List.forall_mem_nil _, hx⟩
    | ok =>
      rw [hx] at h
      obtain ⟨before, y, after, rfl, hbefore, hy⟩ := ih h
      exact ⟨x :: before, y, after, rfl, List.forall_mem_cons.2 ⟨hx, hbefore⟩, hy⟩

/-- A step that fails ends the run in the state that it left. -/
theorem run_bind (m : ExceptT ε (StateM σ) α) (f : α → ExceptT ε (StateM σ) β) (s : σ) :
    (m >>= f).run.run s =
      match m.run.run s with
      | (.ok a, t) => (f a).run.run t
      | (.error e, t) => (.error e, t) := by
  rw [ExceptT.run_bind, StateT.run_bind]
  rcases m.run.run s with ⟨_ | _, t⟩ <;> rfl

/-- An outcome without a state keeps the state. -/
theorem run_liftM (x : Except ε α) (s : σ) :
    (liftM x : ExceptT ε (StateM σ) α).run.run s = (x, s) := by
  cases x <;> rfl

theorem run_mapM_liftM (f : α → Except ε β) (as : List α) (s : σ) :
    (as.mapM fun a => (liftM (f a) : ExceptT ε (StateM σ) β)).run.run s = (as.mapM f, s) := by
  induction as with
  | nil => rfl
  | cons a as ih =>
    rw [List.mapM_cons, List.mapM_cons, run_bind, run_liftM]
    cases f a with
    | error e => rfl
    | ok b =>
      simp only [run_bind, ih]
      cases as.mapM f <;> rfl

/-- Checks that all pass leave the state as it was. -/
theorem run_forM_of_ok {f : α → ExceptT ε (StateM σ) PUnit} {as : List α}
    {s : σ} (h : ∀ a ∈ as, (f a).run.run s = (.ok (), s)) :
    (as.forM f).run.run s = (.ok (), s) := by
  induction as with
  | nil => rfl
  | cons a as ih =>
    rw [List.forall_mem_cons] at h
    have hcons : (a :: as).forM f = f a >>= fun _ => as.forM f := rfl
    rw [hcons, run_bind, h.1]
    exact ih h.2

section TryCatch

variable {m : ExceptT ε (StateM σ) α} {handle : ε → ExceptT ε (StateM σ) α} {s t : σ}

theorem run_tryCatch_of_ok {a : α} (h : m.run.run s = (.ok a, t)) :
    (tryCatch m handle).run.run s = (.ok a, t) := by
  rw [ExceptT.run_tryCatch, StateT.run_bind, h]
  rfl

/-- A failure is handled in the state that it left. -/
theorem run_tryCatch_of_error {e : ε} (h : m.run.run s = (.error e, t)) :
    (tryCatch m handle).run.run s = (handle e).run.run t := by
  rw [ExceptT.run_tryCatch, StateT.run_bind, h]
  rfl

end TryCatch

/-- Whatever the step returns meets `p`. -/
def Yields (m : Except ε α) (p : α → Prop) : Prop := ∀ a, m = .ok a → p a

namespace Yields

variable {m : Except ε α} {k : α → Except ε β} {p : α → Prop} {r : β → Prop}

theorem pure {a : α} (h : p a) : Yields (Pure.pure a : Except ε α) p := by
  intro b hb
  rw [pure_eq_ok.1 hb]
  exact h

theorem bind (hm : Yields m p) (hk : ∀ a, p a → Yields (k a) r) : Yields (m >>= k) r := by
  intro b hb
  obtain ⟨a, ha, hb⟩ := bind_eq_ok.1 hb
  exact hk a (hm a ha) b hb

theorem mapM {f : α → Except ε β} {as : List α} (hf : ∀ a ∈ as, Yields (f a) r) :
    Yields (as.mapM f) fun bs => ∀ b ∈ bs, r b := by
  induction as with
  | nil => exact pure nofun
  | cons a as ih =>
    rw [List.forall_mem_cons] at hf
    rw [List.mapM_cons]
    exact hf.1.bind fun b hb => (ih hf.2).bind fun bs hbs =>
      pure (List.forall_mem_cons.2 ⟨hb, hbs⟩)

end Yields

/-- Whatever the step fails with meets `p`. -/
def Fails (m : Except ε α) (p : ε → Prop) : Prop := ∀ e, m = .error e → p e

namespace Fails

variable {m : Except ε α} {k : α → Except ε β} {p : ε → Prop}

theorem ok (a : α) : Fails (.ok a : Except ε α) p := by
  intro e h
  cases h

theorem error {e : ε} (h : p e) : Fails (.error e : Except ε α) p := by
  intro e' he
  cases he
  exact h

theorem bind (hm : Fails m p) (hk : ∀ a, m = .ok a → Fails (k a) p) : Fails (m >>= k) p := by
  cases m with
  | error e => exact .error (hm e rfl)
  | ok a => exact hk a rfl

end Fails

/-- Both succeed with the same value or fail with errors that `R` relates. A first failure that `E`
excuses agrees with anything. -/
inductive Agree (E : ε → Prop) (R : ε → δ → Prop) : Except ε α → Except δ α → Prop
  | ok (a : α) : Agree E R (.ok a) (.ok a)
  | error {e : ε} {e' : δ} (h : R e e') : Agree E R (.error e) (.error e')
  | excused {e : ε} (h : E e) (y : Except δ α) : Agree E R (.error e) y

namespace Agree

variable {E : ε → Prop} {R : ε → δ → Prop}

theorem refl (x : Except ε α) : Agree E Eq x x := by
  cases x with
  | error e => exact .error rfl
  | ok a => exact .ok a

theorem eq {x y : Except ε α} (h : Agree (fun _ => False) Eq x y) : x = y := by
  cases h with
  | ok a => rfl
  | error h => rw [h]
  | excused h y => exact h.elim

theorem bind {x : Except ε α} {y : Except δ α} {f : α → Except ε β} {g : α → Except δ β}
    (h : Agree E R x y) (k : ∀ a, x = .ok a → Agree E R (f a) (g a)) :
    Agree E R (x >>= f) (y >>= g) := by
  cases h with
  | ok a => exact k a rfl
  | error h => exact .error h
  | excused h y => exact .excused h _

end Agree

end LogicalSql
