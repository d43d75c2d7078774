import LogicalSql.Query.Scope
import Mathlib.Data.List.Forall2

/-! A scope with one source replaced: the new source answers where the old one did, and the others
stay. Two scopes with related sources in the same places. -/
namespace LogicalSql.Scope

variable {s : Scope} {qualifier : Option String} {old new : Source}

/-- `new` stands in `t` where `s` has the source `old` that the qualifier means. -/
structure Replaced (qualifier : Option String) (old new : Source) (s t : Scope) : Prop where
  found : s.find? qualifier = some old
  replaced : t.find? qualifier = some new
  others : ∃ before after, s.all = before ++ old :: after ∧ t.all = before ++ new :: after
  joined : t.joined.length = s.joined.length

theorem find?_all (h : s.find? qualifier = some old) :
    s.all.find? (answersTo qualifier) = some old := by
  cases qualifier with
  | none =>
    simp only [find?] at h
    split at h
    case h_1 source hall =>
      rw [hall, ← Option.some.inj h]
      rfl
    case h_2 => cases h
  | some q => exact h

theorem length_replaceFirst (p : Source → Bool) (new : Source) (sources : List Source) :
    (replaceFirst p new sources).length = sources.length := by
  induction sources with
  | nil => rfl
  | cons s ss ih => by_cases hs : p s <;> simp [replaceFirst, hs, ih]

theorem replaceFirst_append (p : Source → Bool) (new : Source) (xs ys : List Source) :
    replaceFirst p new (xs ++ ys) =
      if xs.any p then replaceFirst p new xs ++ ys else xs ++ replaceFirst p new ys := by
  induction xs with
  | nil => rfl
  | cons x xs ih =>
    by_cases hx : p x
    · simp [replaceFirst, hx]
    · by_cases hxs : xs.any p
      · rw [if_pos hxs] at ih
        simp [replaceFirst, hx, hxs, ih]
      · rw [if_neg hxs] at ih
        simp [replaceFirst, hx, hxs, ih]

theorem replaceFirst_found {p : Source → Bool} {before after : List Source}
    (hbefore : ∀ s ∈ before, (!p s) = true) (hold : p old = true) :
    replaceFirst p new (before ++ old :: after) = before ++ new :: after := by
  have hany : before.any p = false := by simpa using hbefore
  rw [replaceFirst_append, hany]
  simp [replaceFirst, hold]

theorem all_replace (s : Scope) (qualifier : Option String) (new : Source) :
    (s.replace qualifier new).all = replaceFirst (answersTo qualifier) new s.all := by
  rw [all, all, replaceFirst_append, replace]
  split <;> rfl

/-- A qualifier cannot tell apart two sources of one name. -/
theorem replaced_replace (hfound : s.find? qualifier = some old)
    (hname : new.bindingName = old.bindingName) :
    s.Replaced qualifier old new (s.replace qualifier new) := by
  obtain ⟨hold, before, after, hall, hbefore⟩ := List.find?_eq_some_iff_append.1 (find?_all hfound)
  have hall' : (s.replace qualifier new).all = before ++ new :: after := by
    rw [all_replace, hall, replaceFirst_found hbefore hold]
  refine ⟨hfound, ?_, ⟨before, after, hall, hall'⟩, ?_⟩
  · cases qualifier with
    | none =>
      -- without a qualifier nothing stands beside the source
      cases before with
      | cons b before => exact absurd (hbefore b (by simp)) (by simp [answersTo])
      | nil =>
        cases after with
        | nil => simp [find?, hall']
        | cons a after => simp [find?, hall] at hfound
    | some q =>
      have hnew : answersTo (some q) new = true := by
        simpa only [answersTo, hname] using hold
      rw [find?, hall']
      exact List.find?_eq_some_iff_append.2 ⟨hnew, before, after, rfl, hbefore⟩
  · rw [replace]
    split
    · rfl
    · exact length_replaceFirst _ _ _

/-- The sources in the same places are related. -/
structure Rel (P : Source → Source → Prop) (s t : Scope) : Prop where
  sources : List.Forall₂ P s.sources t.sources
  joined : List.Forall₂ P s.joined t.joined

namespace Rel

variable {t : Scope} {P : Source → Source → Prop}

theorem all (h : s.Rel P t) : List.Forall₂ P s.all t.all :=
  List.rel_append h.sources h.joined

theorem refl (hP : ∀ x, P x x) (s : Scope) : s.Rel P s :=
  ⟨List.forall₂_same.2 fun x _ => hP x, List.forall₂_same.2 fun x _ => hP x⟩

/-- Related sources of one name are found by the same qualifiers. -/
theorem find? (h : s.Rel P t) (hname : ∀ x y, P x y → y.bindingName = x.bindingName)
    (qualifier : Option String) : Option.Rel P (s.find? qualifier) (t.find? qualifier) := by
  have hall := h.all
  cases qualifier with
  | none =>
    simp only [Scope.find?]
    generalize s.all = xs at hall ⊢
    generalize t.all = ys at hall ⊢
    cases hall with
    | nil => exact .none
    | cons hx hxs =>
      cases hxs with
      | nil => exact .some hx
      | cons => exact .none
  | some q =>
    simp only [Scope.find?]
    generalize s.all = xs at hall ⊢
    generalize t.all = ys at hall ⊢
    induction hall with
    | nil => exact .none
    | @cons x y xs ys hx hxs ih =>
      have hanswers : answersTo (some q) y = answersTo (some q) x := by
        simp only [answersTo, hname x y hx]
      cases hq : answersTo (some q) x with
      | true =>
        rw [List.find?_cons_of_pos hq, List.find?_cons_of_pos (hanswers.trans hq)]
        exact .some hx
      | false =>
        rw [List.find?_cons_of_neg (by simp [hq]), List.find?_cons_of_neg (by simp [hanswers, hq])]
        exact ih

theorem find?_right (h : s.Rel P t) (hname : ∀ x y, P x y → y.bindingName = x.bindingName)
    {x : Source} (hx : s.find? qualifier = some x) : ∃ y, t.find? qualifier = some y ∧ P x y := by
  have hrel := h.find? hname qualifier
  rw [hx] at hrel
  generalize t.find? qualifier = found at hrel
  cases hrel with
  | some hxy => exact ⟨_, rfl, hxy⟩

theorem find?_left (h : s.Rel P t) (hname : ∀ x y, P x y → y.bindingName = x.bindingName)
    {y : Source} (hy : t.find? qualifier = some y) : ∃ x, s.find? qualifier = some x ∧ P x y := by
  have hrel := h.find? hname qualifier
  rw [hy] at hrel
  generalize s.find? qualifier = found at hrel
  cases hrel with
  | some hxy => exact ⟨_, rfl, hxy⟩

theorem replaceFirst {p : Source → Bool} {xs ys : List Source} (h : List.Forall₂ P xs ys)
    (hfound : ys.find? p = some old) (hnew : ∀ x, P x old → P x new) :
    List.Forall₂ P xs (Scope.replaceFirst p new ys) := by
  induction h with
  | nil => cases hfound
  | @cons x y xs ys hx hxs ih =>
    rw [Scope.replaceFirst]
    by_cases hy : p y = true
    · rw [List.find?_cons_of_pos hy] at hfound
      cases hfound
      rw [if_pos hy]
      exact .cons (hnew x hx) hxs
    · rw [List.find?_cons_of_neg hy] at hfound
      rw [if_neg hy]
      exact .cons hx (ih hfound)

/-- A source may be replaced by one that is related to whatever the old one is related to. -/
theorem replace {w : Scope} (h : w.Rel P s) (hfound : s.find? qualifier = some old)
    (hnew : ∀ x, P x old → P x new) : w.Rel P (s.replace qualifier new) := by
  have hall := find?_all hfound
  rw [Scope.all, List.find?_append] at hall
  rw [Scope.replace]
  by_cases hany : s.sources.any (answersTo qualifier) = true
  · obtain ⟨x, hx, hpx⟩ := List.any_eq_true.1 hany
    obtain ⟨y, hy⟩ := Option.isSome_iff_exists.1 (List.find?_isSome.2 ⟨x, hx, hpx⟩)
    rw [hy, Option.some_or] at hall
    rw [if_pos hany]
    exact ⟨replaceFirst h.sources (hy.trans hall) hnew, h.joined⟩
  · have hnone : s.sources.find? (answersTo qualifier) = none := by
      rw [List.find?_eq_none]
      intro x hx hpx
      exact hany (List.any_eq_true.2 ⟨x, hx, hpx⟩)
    rw [hnone, Option.none_or] at hall
    rw [if_neg hany]
    exact ⟨h.sources, replaceFirst h.joined hall hnew⟩

theorem eq (h : s.Rel Eq t) : s = t := by
  obtain ⟨hsources, hjoined⟩ := h
  rw [List.forall₂_eq_eq_eq] at hsources hjoined
  cases s
  exact congr (congrArg Scope.mk hsources) hjoined

end Rel

/-- The source that is there already. -/
theorem replace_self (h : s.find? qualifier = some old) : s.replace qualifier old = s :=
  ((Rel.refl (fun _ => rfl) s).replace h fun _ hx => hx).eq.symm

end LogicalSql.Scope
