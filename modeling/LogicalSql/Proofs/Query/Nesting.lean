import LogicalSql.Proofs.Query.Plain

/-! How deep a plain expression nests. An operand on the left is no level further down than the
whole, any other part is. -/
namespace LogicalSql

mutual

def nestings : List Expr → Nat
  | [] => 0
  | e :: es => max e.nesting (nestings es)

def whenNestings : List (Expr × Expr) → Nat
  | [] => 0
  | (condition, result) :: ws => max condition.nesting (max result.nesting (whenNestings ws))

def optionNesting : Option Expr → Nat
  | none => 0
  | some e => e.nesting

/-- The levels of a plain expression. -/
def Expr.nesting : Expr → Nat
  | .column _ _ => 1
  | .literal _ => 1
  | .binary left _ right => max left.nesting (right.nesting + 1)
  | .unary _ e => e.nesting + 1
  | .nested e => e.nesting + 1
  | .isNull e _ => e.nesting
  | .between e low high _ => max e.nesting (max low.nesting high.nesting + 1)
  | .inList e list _ => max e.nesting (nestings list + 1)
  | .case operand whens otherwise =>
    max (optionNesting operand) (max (whenNestings whens) (optionNesting otherwise)) + 1
  | .function _ args _ => nestings args + 1
  | _ => 1

end

mutual

def keywordsFitAll : List Expr → Nat → Bool
  | [], _ => true
  | e :: es, n => e.keywordsFit n && keywordsFitAll es n

/-- What stands behind `NOT` or `CASE` nests no deeper than is left of these levels. Where it nests
deeper, the word is taken for a name. -/
def Expr.keywordsFit : Expr → Nat → Bool
  | .column _ _, _ => true
  | .literal _, _ => true
  | .unary .not e, n => e.nesting + 1 ≤ n
  | .case operand whens otherwise, n => (Expr.case operand whens otherwise).nesting ≤ n
  | .binary left _ right, n => left.keywordsFit n && right.keywordsFit (n - 1)
  | .unary _ e, n => e.keywordsFit (n - 1)
  | .nested e, n => e.keywordsFit (n - 1)
  | .isNull e _, n => e.keywordsFit n
  | .between e low high _, n =>
    e.keywordsFit n && low.keywordsFit (n - 1) && high.keywordsFit (n - 1)
  | .inList e list _, n => e.keywordsFit n && keywordsFitAll list (n - 1)
  | .function _ args _, n => keywordsFitAll args (n - 1)
  | _, _ => true

end

theorem nestings_le {es : List Expr} {n : Nat} : nestings es ≤ n ↔ ∀ e ∈ es, e.nesting ≤ n := by
  induction es with
  | nil => simp [nestings]
  | cons e es ih => rw [nestings, Nat.max_le, ih, List.forall_mem_cons]

theorem whenNestings_le {whens : List (Expr × Expr)} {n : Nat} :
    whenNestings whens ≤ n ↔ ∀ w ∈ whens, w.1.nesting ≤ n ∧ w.2.nesting ≤ n := by
  induction whens with
  | nil => simp [whenNestings]
  | cons w ws ih => rw [whenNestings, Nat.max_le, Nat.max_le, ih, List.forall_mem_cons, and_assoc]

theorem optionNesting_le {o : Option Expr} {n : Nat} :
    optionNesting o ≤ n ↔ ∀ e ∈ o, e.nesting ≤ n := by
  cases o <;> simp [optionNesting]

theorem keywordsFitAll_eq_true {es : List Expr} {n : Nat} :
    keywordsFitAll es n = true ↔ ∀ e ∈ es, e.keywordsFit n = true := by
  induction es with
  | nil => simp [keywordsFitAll]
  | cons e es ih => rw [keywordsFitAll, Bool.and_eq_true, ih, List.forall_mem_cons]

theorem Expr.Plain.one_le_nesting {e : Expr} (he : e.Plain) : 1 ≤ e.nesting := by
  induction he with
  | isNull _ _ ih => exact ih
  | _ =>
    simp only [Expr.nesting]
    omega

/-- Where all levels fit, keywords do. -/
theorem Expr.Plain.keywordsFit_of_nesting_le {e : Expr} (he : e.Plain) {n : Nat}
    (h : e.nesting ≤ n) : e.keywordsFit n = true := by
  induction he generalizing n with
  | column | qualified | null | boolean | natural | string => rw [Expr.keywordsFit]
  | case => exact decide_eq_true h
  | unary op _ ih =>
    rw [Expr.nesting] at h
    cases op with
    | not => exact decide_eq_true h
    | minus | plus => exact ih (by omega)
  | binary op _ _ ihleft ihright =>
    rw [Expr.nesting] at h
    rw [Expr.keywordsFit, ihleft (by omega), ihright (by omega)]
    rfl
  | nested _ ih =>
    rw [Expr.nesting] at h
    exact ih (by omega)
  | isNull _ _ ih => exact ih h
  | between _ _ _ _ ih ihlow ihhigh =>
    rw [Expr.nesting] at h
    rw [Expr.keywordsFit, ih (by omega), ihlow (by omega), ihhigh (by omega)]
    rfl
  | @inList _ list _ _ _ _ ih ihlist =>
    rw [Expr.nesting] at h
    have hlist : ∀ x ∈ list, x.nesting ≤ n - 1 := nestings_le.1 (by omega)
    rw [Expr.keywordsFit, ih (by omega), Bool.true_and, keywordsFitAll_eq_true]
    exact fun x hx => ihlist x hx (hlist x hx)
  | @function _ args _ _ ihargs =>
    rw [Expr.nesting] at h
    have hargs : ∀ x ∈ args, x.nesting ≤ n - 1 := nestings_le.1 (by omega)
    rw [Expr.keywordsFit, keywordsFitAll_eq_true]
    exact fun x hx => ihargs x hx (hargs x hx)

end LogicalSql
