import LogicalSql.Proofs.Surface.FlatChains
import LogicalSql.Query.Parse

/-! `LIMIT` and `OFFSET` behind the parentheses around a selection. A query has one of each, so that
the levels are merged into one. -/
namespace LogicalSql

/-- What stands behind one level of a query. -/
structure RowBounds where
  limit : Option Nat
  offset : Option Nat
  deriving DecidableEq

namespace RowBounds

variable {α : Type}

def skipped (b : RowBounds) : Nat := b.offset.getD 0

/-- The rows that are left of a list. -/
def rows (b : RowBounds) (l : List α) : List α :=
  match b.limit with
  | none => l.drop b.skipped
  | some n => (l.drop b.skipped).take n

/-- The limit and the offset of the outermost levels that have one. The levels are listed from the
outside in. -/
def outermost (levels : List RowBounds) : RowBounds :=
  ⟨levels.findSome? limit, levels.findSome? offset⟩

/-- One level around another, as bounds of one level. -/
def around (outer inner : RowBounds) : RowBounds where
  limit :=
    match inner.limit, outer.limit with
    | none, limit => limit
    | some n, none => some (n - outer.skipped)
    | some n, some m => some (min (n - outer.skipped) m)
  offset := some (inner.skipped + outer.skipped)

def bare : RowBounds := ⟨none, none⟩

/-- All levels, from the inside out. -/
def inTurn (levels : List RowBounds) : RowBounds := levels.foldr around bare

theorem rows_around (outer inner : RowBounds) (l : List α) :
    (outer.around inner).rows l = outer.rows (inner.rows l) := by
  obtain ⟨limit, offset⟩ := inner
  obtain ⟨limit', offset'⟩ := outer
  cases limit <;> cases limit' <;>
    simp only [rows, around, skipped, Option.getD_some, List.drop_drop, List.drop_take,
      List.take_take, Nat.min_comm]

theorem rows_inTurn (levels : List RowBounds) (l : List α) :
    (inTurn levels).rows l = levels.foldr rows l := by
  induction levels with
  | nil => rfl
  | cons b levels ih => rw [inTurn, List.foldr_cons, rows_around, List.foldr_cons, ← ih, inTurn]

/-- The same rows are left, whatever the list. -/
def Same (b b' : RowBounds) : Prop :=
  b.limit = b'.limit ∧ (b.skipped = b'.skipped ∨ b.limit = some 0)

instance (b b' : RowBounds) : Decidable (b.Same b') := inferInstanceAs (Decidable (_ ∧ _))

/-- The row of this number is left. -/
def Keeps (b : RowBounds) (i : Nat) : Prop :=
  b.skipped ≤ i ∧ ∀ n ∈ b.limit, i < b.skipped + n

theorem mem_drop_range (k n i : Nat) : i ∈ (List.range n).drop k ↔ k ≤ i ∧ i < n := by
  rw [List.range_eq_range', List.drop_range', List.mem_range'_1]
  omega

theorem mem_rows_range (b : RowBounds) (n i : Nat) :
    i ∈ b.rows (List.range n) ↔ i < n ∧ b.Keeps i := by
  rw [rows, Keeps]
  cases b.limit with
  | none =>
    simp only [mem_drop_range, Option.not_mem_none, false_imp_iff, implies_true, and_true]
    exact And.comm
  | some m =>
    simp only [List.take_drop, List.take_range, mem_drop_range, Option.mem_some_iff, forall_eq']
    omega

theorem same_of_keeps {b b' : RowBounds} (h : ∀ i, b.Keeps i ↔ b'.Keeps i) : b.Same b' := by
  simp only [Keeps] at h
  rw [Same]
  generalize b.limit = limit, b'.limit = limit', b.skipped = k, b'.skipped = k' at h ⊢
  -- rows at the ends of either range tell the ranges apart
  cases limit with
  | none =>
    cases limit' with
    | none =>
      have hfirst := h k
      have hfirst' := h k'
      simp only [Option.not_mem_none, false_imp_iff, implies_true, and_true] at hfirst hfirst'
      exact ⟨rfl, .inl (by omega)⟩
    | some m =>
      have hbehind := h (max k (k' + m))
      simp only [Option.not_mem_none, Option.mem_some_iff, forall_eq', false_imp_iff, implies_true,
        and_true] at hbehind
      omega
  | some n =>
    cases limit' with
    | none =>
      have hbehind := h (max k' (k + n))
      simp only [Option.not_mem_none, Option.mem_some_iff, forall_eq', false_imp_iff, implies_true,
        and_true] at hbehind
      omega
    | some m =>
      simp only [Option.mem_some_iff, forall_eq'] at h
      have hfirst := h k
      have hfirst' := h k'
      have hlast := h (k + n - 1)
      have hlast' := h (k' + m - 1)
      rw [Option.some_inj, Option.some_inj]
      omega

theorem rows_eq_iff (b b' : RowBounds) :
    (∀ {α : Type} (l : List α), b.rows l = b'.rows l) ↔ b.Same b' := by
  constructor
  · intro h
    refine same_of_keeps fun i => ?_
    have hrange := mem_rows_range b (i + 1) i
    rw [h, mem_rows_range] at hrange
    simpa only [Nat.lt_succ_self, true_and] using hrange.symm
  · rintro ⟨hlimit, hskipped | hzero⟩ α l
    · rw [rows, rows, hlimit, hskipped]
    · simp only [rows, ← hlimit, hzero, List.take_zero]

theorem foldr_rows_bare {levels : List RowBounds} (h : ∀ x ∈ levels, x = bare) (l : List α) :
    levels.foldr rows l = l := by
  induction levels with
  | nil => rfl
  | cons x levels ih =>
    rw [List.forall_mem_cons] at h
    rw [List.foldr_cons, ih h.2, h.1]
    rfl

theorem findSome?_bare {levels : List RowBounds} {f : RowBounds → Option Nat} (hf : f bare = none)
    (h : ∀ x ∈ levels, x = bare) : levels.findSome? f = none := by
  rw [List.findSome?_eq_none_iff]
  intro x hx
  rw [h x hx, hf]

section OneLevel

variable {outer inner : List RowBounds} (b : RowBounds) (houter : ∀ x ∈ outer, x = bare)
  (hinner : ∀ x ∈ inner, x = bare)

include houter hinner

theorem findSome?_one {f : RowBounds → Option Nat} (hf : f bare = none) :
    (outer ++ b :: inner).findSome? f = f b := by
  rw [List.findSome?_append, findSome?_bare hf houter, Option.none_or, List.findSome?_cons]
  cases f b with
  | none => exact findSome?_bare hf hinner
  | some n => rfl

/-- Nothing is lost where one level alone has bounds. -/
theorem outermost_same_inTurn :
    (outermost (outer ++ b :: inner)).Same (inTurn (outer ++ b :: inner)) := by
  have hone : outermost (outer ++ b :: inner) = b := by
    rw [outermost, findSome?_one b houter hinner rfl, findSome?_one b houter hinner rfl]
  rw [← rows_eq_iff]
  intro α l
  rw [hone, rows_inTurn, List.foldr_append, List.foldr_cons, foldr_rows_bare hinner,
    foldr_rows_bare houter]

end OneLevel

end RowBounds

def Expr.natural (n : Nat) : Expr := .integer n

/-- The selection is bounded by these numbers. -/
structure Select.HasBounds (s : Select) (b : RowBounds) : Prop where
  limit : s.limit = b.limit.map .natural
  offset : s.offset = b.offset.map .natural

theorem Select.Alone.hasBounds {s : Select} (h : s.Alone) : s.HasBounds (.outermost []) :=
  ⟨h.limit, h.offset⟩

/-- Bounds outside take the place of those inside. -/
theorem Select.HasBounds.overrideWith {s : Select} {levels : List RowBounds}
    (h : s.HasBounds (.outermost levels)) (orderBy : List OrderItem) (b : RowBounds) :
    (s.overrideWith orderBy (b.limit.map .natural) (b.offset.map .natural)).HasBounds
      (.outermost (b :: levels)) := by
  obtain ⟨limit, offset⟩ := b
  constructor
  · cases limit
    · exact h.limit
    · rfl
  · cases offset
    · exact h.offset
    · rfl

namespace Surface

open RowBounds

/-- A number that fits 64 bits. -/
def Expr.integer? : Expr → Option Nat
  | .constant (.number digits _) =>
    (Text.readNat? digits.toList).filter (· < 0x8000000000000000)
  | _ => none

def writtenBound? : Option Expr → Option (Option Nat)
  | none => some none
  | some e => e.integer?.map some

/-- The bounds behind a selection and behind each of the parentheses around it, from the outside in,
if the query is such a selection and the bounds are numbers. -/
def Query.levels? : Query → Option (List RowBounds)
  | ⟨none, .select _, _, limit, offset, _, none, [], none⟩ => do
    return [⟨← writtenBound? limit, ← writtenBound? offset⟩]
  | ⟨none, .query q, [], limit, offset, _, none, [], none⟩ => do
    return ⟨← writtenBound? limit, ← writtenBound? offset⟩ :: (← q.levels?)
  | _ => none

/-- The levels of a text that is one such query. -/
def levels? (text : String) : Option (List RowBounds) :=
  match readStatements? text with
  | some [.query q] => q.levels?
  | _ => none

theorem interpretOption_written {e : Option Expr} {bound : Option Nat}
    (h : writtenBound? e = some bound) :
    interpretOption e = .ok (bound.map .natural) := by
  cases e with
  | none =>
    cases h
    rw [interpretOption]
    rfl
  | some e =>
    obtain ⟨n, hn, rfl⟩ := Option.map_eq_some_iff.1 h
    unfold Expr.integer? at hn
    split at hn
    case h_1 digits long =>
      obtain ⟨hread, hfits⟩ := Option.filter_eq_some_iff.1 hn
      have hnumber : interpretNumber digits = .ok (.natural n) := by
        rw [interpretNumber, hread]
        exact if_pos (of_decide_eq_true hfits)
      rw [interpretOption, Expr.interpret, Constant.interpret, hnumber]
      rfl
    case h_2 => cases hn

/-- The query is a selection with the outermost bounds of these levels. -/
def IsBounded (levels : List RowBounds) (q : LogicalSql.Query) : Prop :=
  ∃ s, q = .select s ∧ s.HasBounds (outermost levels)

/-- One level more around a selection. -/
theorem Query.interpret_isBounded {body : Body} {orderBy : List OrderItem}
    {limit offset : Option Expr} {offsetRows : Option String} {fetch purpose : Option Shown}
    {locks : List Shown} {b : RowBounds} {levels : List RowBounds}
    (hlimit : writtenBound? limit = some b.limit) (hoffset : writtenBound? offset = some b.offset)
    (hbody : Yields (body.interpret false) (IsBounded levels)) :
    Yields (Query.interpret ⟨none, body, orderBy, limit, offset, offsetRows, fetch, locks, purpose⟩)
      (IsBounded (b :: levels)) := by
  intro q hq
  obtain ⟨ctes, q₁, q₂, hctes, hq₁, hmodified, rfl⟩ := Query.interpret_eq_ok hq
  rw [interpretWith] at hctes
  cases hctes
  obtain ⟨s, rfl, hs⟩ := hbody q₁ hq₁
  cases hmodified with
  | other hne => exact absurd rfl (hne s)
  | @select _ orderBy' limit' offset' _ hlimit' hoffset' =>
    rw [interpretOption_written hlimit] at hlimit'
    rw [interpretOption_written hoffset] at hoffset'
    cases hlimit'
    cases hoffset'
    exact ⟨_, rfl, hs.overrideWith orderBy' b⟩

theorem Query.interpret_levels {q : Query} {levels : List RowBounds} (h : q.levels? = some levels) :
    Yields q.interpret (IsBounded levels) := by
  fun_induction Query.levels? q generalizing levels with
  | case1 select orderBy limit offset offsetRows =>
    obtain ⟨limit', hlimit, h⟩ := Option.bind_eq_some_iff.1 h
    obtain ⟨offset', hoffset, h⟩ := Option.bind_eq_some_iff.1 h
    cases h
    refine Query.interpret_isBounded hlimit hoffset ?_
    rw [Body.interpret]
    exact .bind (Select.interpret_flat select) fun s hs => .pure ⟨s, rfl, hs.2.hasBounds⟩
  | case2 inner limit offset offsetRows ih =>
    obtain ⟨limit', hlimit, h⟩ := Option.bind_eq_some_iff.1 h
    obtain ⟨offset', hoffset, h⟩ := Option.bind_eq_some_iff.1 h
    obtain ⟨levels', hinner, h⟩ := Option.bind_eq_some_iff.1 h
    cases h
    refine Query.interpret_isBounded hlimit hoffset ?_
    rw [Body.interpret]
    exact ih hinner
  | case3 => cases h

theorem parse_of_readStatements {text : String} {written : Query}
    (h : readStatements? text = some [.query written]) :
    LogicalSql.Query.parse text = written.interpret := by
  rw [LogicalSql.Query.parse, LogicalSql.Query.parseAll, h]
  simp only [List.mapM_cons, List.mapM_nil, Statement.interpret]
  cases written.interpret <;> rfl

/-- The query keeps the outermost limit and the outermost offset. These leave the rows that the
levels leave one after another exactly if both come to the same bounds, and so always where one
level alone has bounds. -/
theorem parse_levels {text : String} {levels : List RowBounds} {q : LogicalSql.Query}
    (hlevels : levels? text = some levels) (h : LogicalSql.Query.parse text = .ok q) :
    ∃ s, q = .select s ∧ s.HasBounds (outermost levels) ∧
      ((∀ {α : Type} (l : List α), (outermost levels).rows l = levels.foldr rows l) ↔
        (outermost levels).Same (inTurn levels)) ∧
      ∀ outer b inner, levels = outer ++ b :: inner → (∀ x ∈ outer, x = bare) →
        (∀ x ∈ inner, x = bare) →
        ∀ {α : Type} (l : List α), (outermost levels).rows l = levels.foldr rows l := by
  unfold levels? at hlevels
  split at hlevels
  case h_2 => cases hlevels
  case h_1 written hread =>
    rw [parse_of_readStatements hread] at h
    obtain ⟨s, rfl, hs⟩ := Query.interpret_levels hlevels q h
    refine ⟨s, rfl, hs, ?_, fun outer b inner hsplit houter hinner α l => ?_⟩
    · rw [← rows_eq_iff]
      simp only [rows_inTurn]
    · rw [hsplit, (rows_eq_iff ..).2 (outermost_same_inTurn b houter hinner), rows_inTurn]

/-- The offset inside the parentheses and the limit outside. -/
theorem parse_limit_of_offset :
    let text := "(SELECT a FROM t OFFSET 2) LIMIT 5"
    levels? text = some [⟨some 5, none⟩, ⟨none, some 2⟩] ∧
    ∃ s, LogicalSql.Query.parse text = .ok (.select s) ∧ s.HasBounds ⟨some 5, some 2⟩ ∧
      ∀ {α : Type} (l : List α),
        rows ⟨some 5, some 2⟩ l = rows ⟨some 5, none⟩ (rows ⟨none, some 2⟩ l) := by
  intro text
  have hlevels : levels? text = some [⟨some 5, none⟩, ⟨none, some 2⟩] := by decide +kernel
  have hsome : (LogicalSql.Query.parse text).toOption.isSome = true := by decide +kernel
  cases h : LogicalSql.Query.parse text with
  | error e =>
    rw [h] at hsome
    cases hsome
  | ok q =>
    obtain ⟨s, rfl, hs, hiff, -⟩ := parse_levels hlevels h
    exact ⟨hlevels, s, rfl, hs, hiff.2 (by decide)⟩

/-- The smaller limit is lost, and one row too many is left. -/
theorem parse_limit_of_limit :
    let text := "(SELECT a FROM t LIMIT 1) LIMIT 2"
    levels? text = some [⟨some 2, none⟩, ⟨some 1, none⟩] ∧
    (LogicalSql.Query.parse text).map LogicalSql.Query.sql = .ok "SELECT a FROM t LIMIT 2" ∧
    rows ⟨some 2, none⟩ [1, 2] = [1, 2] ∧
    rows ⟨some 2, none⟩ (rows ⟨some 1, none⟩ [1, 2]) = [1] := by
  decide +kernel

end Surface

end LogicalSql
