import LogicalSql.Proofs.Surface.Clauses
import LogicalSql.Proofs.Surface.SetOperations
import LogicalSql.Surface.Reader.Query

/-! How whole queries are read, given how their parts are: selections that set operations join, with
what stands before and behind them. -/
namespace LogicalSql

/-- A set operation with the clauses of the operand behind it. -/
def SetStep.tokens (x : SetStep Select) : List Surface.Token :=
  .keyword x.op.sql :: ((if x.all then [.keyword "ALL"] else []) ++ x.right.ownTokens)

namespace SetStep

variable {α : Type}

/-- The operands of `INTERSECT` that come first, and each other operand with those behind it. -/
def split : List (SetStep α) → List (SetStep α) × List (SetStep α × List (SetStep α))
  | [] => ([], [])
  | x :: xs =>
    if x.op = .intersect then (x :: (split xs).1, (split xs).2)
    else ([], (x, (split xs).1) :: (split xs).2)

/-- An operand with those of `INTERSECT` behind it. -/
def unit (u : SetStep α × List (SetStep α)) : List (SetStep α) := u.1 :: u.2

theorem split_append (xs : List (SetStep α)) :
    (split xs).1 ++ (split xs).2.flatMap unit = xs := by
  induction xs with
  | nil => rfl
  | cons x xs ih =>
    rw [split]
    split
    · rw [List.cons_append, ih]
    · rw [List.nil_append, List.flatMap_cons, unit, List.cons_append, ih]

theorem split_op (xs : List (SetStep α)) :
    (∀ x ∈ (split xs).1, x.op = .intersect) ∧
      ∀ u ∈ (split xs).2, u.1.op ≠ .intersect ∧ ∀ x ∈ u.2, x.op = .intersect := by
  induction xs with
  | nil => exact ⟨nofun, nofun⟩
  | cons x xs ih =>
    rw [split]
    split
    · rename_i hop
      exact ⟨List.forall_mem_cons.2 ⟨hop, ih.1⟩, ih.2⟩
    · rename_i hop
      exact ⟨nofun, List.forall_mem_cons.2 ⟨⟨hop, ih.1⟩, ih.2⟩⟩

end SetStep

namespace Surface

open Reader

/-- The body stands for one flat chain of selections. -/
structure Body.IsRow (s : LogicalSql.Select) (steps : List (SetStep LogicalSql.Select)) (b : Body) :
    Prop where
  interpret : b.interpret true = .ok (.select (s.link steps))
  not_query : ∀ inner, b ≠ .query inner
  first_alone : s.Alone
  alone : ∀ x ∈ steps, x.right.Alone

section Row

variable {s s' : LogicalSql.Select} {steps steps' : List (SetStep LogicalSql.Select)}
  {left right : Body}

theorem Body.isRow_select {x : Select} (hx : x.interpret = .ok s) (hs : s.Alone) :
    (Body.select x).IsRow s [] := by
  refine ⟨?_, nofun, hs, nofun⟩
  rw [Body.interpret, hx]
  rfl

/-- A row behind another one goes on with it. -/
theorem Body.IsRow.setOperation (hleft : left.IsRow s steps) (hright : right.IsRow s' steps')
    (op : SetOperator) (quantifier : SetQuantifier) :
    (Body.setOperation left op quantifier right).IsRow s
      (steps ++ ⟨op, quantifier.isAll, s'⟩ :: steps') := by
  refine ⟨?_, nofun, hleft.first_alone, ?_⟩
  · rw [Body.interpret, hleft.interpret, hright.interpret]
    change (LogicalSql.Query.select (s.link steps)).combine _ _ _ = _
    rw [LogicalSql.Query.combine, LogicalSql.Select.append_link hleft.first_alone hleft.alone]
    rfl
  · exact List.forall_mem_append.2
      ⟨hleft.alone, List.forall_mem_cons.2 ⟨hright.first_alone, hright.alone⟩⟩

theorem Body.IsRow.interpret_false (h : left.IsRow s steps) :
    left.interpret false = .ok (.select (s.link steps)) :=
  (Body.interpret_eq h.not_query).trans h.interpret

end Row

namespace Reader

variable {L : Level} {f : Bool} {rest : List Token} {s : LogicalSql.Select}
  {steps : List (SetStep LogicalSql.Select)} {fits : SelectItem → Bool}

/-! Rows of operands. -/

theorem own_alone (s : LogicalSql.Select) : s.own.Alone := ⟨rfl, rfl, rfl, rfl⟩

theorem term_reads (h : ReadsClauses L fits s) (hrest : FollowedBy (clauseWords.drop 10) rest) :
    Reads (s.projections.all fits) (term L) s.ownTokens rest (·.IsRow s.own []) := by
  have hselect : Reads true (peekKeyword "SELECT") [] (s.ownTokens ++ rest) (· = true) :=
    peekKeyword_reads "SELECT"
  refine Reads.ite_true (s := []) hselect ?_
  exact (select_reads h hrest).map fun x hx => Body.isRow_select hx (own_alone s)

theorem quantifier_reads (all : Bool) :
    Reads true quantifier (if all then [.keyword "ALL"] else []) (.keyword "SELECT" :: rest)
      (·.isAll = all) := by
  cases all with
  | false =>
    refine Reads.ite_false (u := []) (keywords_miss rfl) ?_
    refine Reads.ite_false (u := []) (keywords_miss rfl) ?_
    refine Reads.ite_false (u := []) (keyword_miss rfl) ?_
    exact Reads.ite_false (u := []) (keyword_miss rfl) (.pure rfl)
  | true =>
    refine Reads.ite_false (keywords_miss rfl) ?_
    refine Reads.ite_false (keywords_miss rfl) ?_
    refine Reads.ite_true (u := []) (keyword_hit "ALL" rfl) ?_
    exact Reads.ite_false (u := []) (keywords_miss rfl) (.pure rfl)

/-- Operands with the operators in front of them are read one by one. -/
theorem setLoop_reads {operator : Reader (Option SetOperator)} {operand : Reader Body}
    (units : List (SetStep LogicalSql.Select × List (SetStep LogicalSql.Select)))
    (hoperator : ∀ u ∈ units, ∀ rest,
      Reads true operator [.keyword u.1.op.sql] rest (· = some u.1.op))
    (hoperand : ∀ pre u post, units = pre ++ u :: post →
      Reads true operand (u.1.right.ownTokens ++ u.2.flatMap SetStep.tokens)
        ((post.flatMap SetStep.unit).flatMap SetStep.tokens ++ rest) (·.IsRow u.1.right u.2))
    (hrest : Reads true operator [] rest (· = none)) {n : Nat} (hn : units.length ≤ n) {left : Body}
    (hleft : left.IsRow s steps) :
    Reads true (setLoop operator operand n left)
      ((units.flatMap SetStep.unit).flatMap SetStep.tokens)
      rest (·.IsRow s (steps ++ units.flatMap SetStep.unit)) := by
  induction n generalizing units steps left with
  | zero =>
    obtain rfl := List.length_eq_zero_iff.1 (Nat.le_zero.1 hn)
    exact .pure (by rwa [List.flatMap_nil, List.append_nil])
  | succ n ih =>
    cases units with
    | nil =>
      refine hrest.look (u := []) ?_
      rintro _ rfl
      exact .pure (by rwa [List.flatMap_nil, List.append_nil])
    | cons u units =>
      obtain ⟨⟨op, all, right⟩, more⟩ := u
      rw [List.forall_mem_cons] at hoperator
      have hfirst := hoperand [] _ units rfl
      rw [List.flatMap_cons, List.flatMap_append, SetStep.unit, List.flatMap_cons, SetStep.tokens,
        List.cons_append, List.cons_append, List.append_assoc, List.append_assoc,
        ← List.append_assoc right.ownTokens]
      refine (hoperator.1 _).step ?_
      rintro _ rfl
      refine (quantifier_reads all).step ?_
      rintro quantifier rfl
      refine hfirst.step fun x hx => ?_
      have hread := ih units hoperator.2 (fun pre u post heq => hoperand (_ :: pre) u post
        (by rw [heq, List.cons_append])) (Nat.le_of_succ_le_succ hn)
        (hleft.setOperation hx op quantifier)
      simpa [SetStep.unit] using hread

/-- The operand of a set operation is read from its tokens. -/
structure ReadsStep (L : Level) (x : SetStep LogicalSql.Select) : Prop where
  alone : x.right.Alone
  clauses : ReadsClauses L (fun _ => true) x.right

theorem own_of_alone (h : s.Alone) : s.own = s := by
  obtain ⟨horder, hlimit, hoffset, hoperation⟩ := h
  cases s
  simp_all [LogicalSql.Select.own]

theorem ReadsStep.term_reads {x : SetStep LogicalSql.Select} (h : ReadsStep L x)
    (hrest : FollowedBy (clauseWords.drop 10) rest) :
    Reads true (term L) x.right.ownTokens rest (·.IsRow x.right []) := by
  have hterm := Reader.term_reads h.clauses hrest
  rwa [all_fits, own_of_alone h.alone] at hterm

theorem followedBy_steps (steps : List (SetStep LogicalSql.Select))
    (hrest : FollowedBy (clauseWords.drop 10) rest) :
    FollowedBy (clauseWords.drop 10) (steps.flatMap SetStep.tokens ++ rest) := by
  cases steps with
  | nil => exact hrest
  | cons x steps =>
    have hword : x.op.sql ∈ clauseWords.drop 10 := by cases x.op <;> decide
    exact followedBy_keyword hword

theorem intersect?_reads {op : SetOperator} (hop : op = .intersect) :
    Reads true intersect? [.keyword op.sql] rest (· = some op) := by
  subst hop
  exact Reads.ite_true (u := []) (keyword_hit "INTERSECT" rfl) (.pure rfl)

theorem intersect?_none (h : headIs (·.isKeyword "INTERSECT") rest = false) :
    Reads true intersect? [] rest (· = none) :=
  Reads.ite_false (u := []) (keyword_miss h) (.pure rfl)

theorem unionOrExcept?_reads {op : SetOperator} (hop : op ≠ .intersect) :
    Reads true unionOrExcept? [.keyword op.sql] rest (· = some op) := by
  cases op with
  | union => exact Reads.ite_true (u := []) (keyword_hit "UNION" rfl) (.pure rfl)
  | «except» =>
    refine Reads.ite_false (keyword_miss rfl) ?_
    exact Reads.ite_true (u := []) (keyword_hit "EXCEPT" rfl) (.pure rfl)
  | intersect => exact absurd rfl hop

theorem intersections_reads (hs : ReadsClauses L fits s) (hsteps : ∀ x ∈ steps, ReadsStep L x)
    (hop : ∀ x ∈ steps, x.op = .intersect) (hrest : FollowedBy (clauseWords.drop 10) rest)
    (hend : headIs (·.isKeyword "INTERSECT") rest = false) :
    Reads (s.projections.all fits) (intersections L)
      (s.ownTokens ++ steps.flatMap SetStep.tokens) rest
      (·.IsRow s.own steps) := by
  refine (term_reads hs (followedBy_steps steps hrest)).andThen fun first hfirst => ?_
  refine Reads.get fun ls hls => ?_
  -- each operand stands alone
  have hunits : (steps.map fun x => (x, [])).flatMap SetStep.unit = steps := by
    rw [List.flatMap_map]
    exact List.flatMap_singleton' steps
  have hloop : Reads true (setLoop intersect? (term L) ls.length first) _ rest _ :=
    setLoop_reads (steps.map fun x => (x, [])) ?_ ?_ (intersect?_none hend) ?_ hfirst
  · rwa [hunits] at hloop
  · intro u hu rest
    obtain ⟨x, hx, rfl⟩ := List.mem_map.1 hu
    exact intersect?_reads (hop x hx)
  · intro pre u post heq
    obtain ⟨x, hx, rfl⟩ := List.mem_map.1 (heq ▸ List.mem_append_right pre List.mem_cons_self)
    rw [List.flatMap_nil, List.append_nil]
    exact (hsteps x hx).term_reads (followedBy_steps _ hrest)
  · have hlength := congrArg List.length hls
    rw [List.length_map, List.length_append] at hlength
    rw [List.length_map, hlength]
    exact Nat.le_add_right_of_le
      (length_le_flatMap SetStep.tokens steps fun _ _ => List.cons_ne_nil _ _)

/-- Operands of `INTERSECT` end where the next one of another operator begins, or with the chain. -/
theorem units_keyword_ne
    {units : List (SetStep LogicalSql.Select × List (SetStep LogicalSql.Select))}
    (hunits : ∀ u ∈ units, u.1.op ≠ .intersect) (hrest : FollowedBy (clauseWords.drop 13) rest) :
    headIs (·.isKeyword "INTERSECT")
      ((units.flatMap SetStep.unit).flatMap SetStep.tokens ++ rest) = false := by
  cases units with
  | nil => exact hrest.drop_keyword_ne (by decide)
  | cons u units =>
    have hword : Text.upper u.1.op.sql ≠ "INTERSECT" := by
      cases hop : u.1.op with
      | intersect => exact absurd hop (hunits u List.mem_cons_self)
      | union => decide
      | «except» => decide
    exact isKeyword_eq_false hword

/-- Operands of `UNION` and `EXCEPT`, each with those of `INTERSECT` behind it. -/
theorem body_reads (hs : ReadsClauses L fits s) (hsteps : ∀ x ∈ steps, ReadsStep L x)
    (hrest : FollowedBy (clauseWords.drop 13) rest) :
    Reads (s.projections.all fits) (body L) (s.ownTokens ++ steps.flatMap SetStep.tokens) rest
      (·.IsRow s.own steps) := by
  have hsplit := SetStep.split_append steps
  obtain ⟨hfirst, hunits⟩ := SetStep.split_op steps
  generalize (SetStep.split steps).1 = inner,
    (SetStep.split steps).2 = units at hsplit hfirst hunits
  subst hsplit
  rw [List.forall_mem_append] at hsteps
  have hbehind :
      ∀ {xs}, FollowedBy (clauseWords.drop 10) (List.flatMap SetStep.tokens xs ++ rest) :=
    followedBy_steps _ (hrest.drop (by decide))
  rw [List.flatMap_append, ← List.append_assoc]
  refine (intersections_reads hs hsteps.1 hfirst hbehind
    (units_keyword_ne (fun u hu => (hunits u hu).1) hrest)).andThen fun first hrow => ?_
  refine Reads.get fun ls hls => setLoop_reads units ?_ ?_ ?_ ?_ hrow
  · exact fun u hu rest => unionOrExcept?_reads (hunits u hu).1
  · intro pre u post heq
    have hmem : ∀ v ∈ u :: post, v ∈ units := fun v hv => heq ▸ List.mem_append_right pre hv
    have hunit : ∀ x ∈ SetStep.unit u, ReadsStep L x := fun x hx =>
      hsteps.2 x (List.mem_flatMap.2 ⟨u, hmem u List.mem_cons_self, hx⟩)
    rw [SetStep.unit, List.forall_mem_cons] at hunit
    have hread :=
      intersections_reads hunit.1.clauses hunit.2 (hunits u (hmem u List.mem_cons_self)).2
      hbehind (units_keyword_ne
      (fun v hv => (hunits v (hmem v (List.mem_cons_of_mem u hv))).1) hrest)
    rwa [all_fits, own_of_alone hunit.1.alone] at hread
  · refine Reads.ite_false (u := []) (keyword_miss (hrest.drop_keyword_ne (by decide))) ?_
    exact Reads.ite_false (u := []) (keyword_miss (hrest.drop_keyword_ne (by decide))) (.pure rfl)
  · have hlength := congrArg List.length hls
    rw [List.length_map, List.length_append] at hlength
    have hwords := length_le_flatMap SetStep.tokens (units.flatMap SetStep.unit)
      fun _ _ => List.cons_ne_nil _ _
    have hsteps := length_le_flatMap SetStep.unit units fun _ _ => List.cons_ne_nil _ _
    omega

end Reader

end Surface

end LogicalSql
