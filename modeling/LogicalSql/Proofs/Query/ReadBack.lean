import LogicalSql.Proofs.Query.Nesting
import LogicalSql.Proofs.Surface.Climbing
import LogicalSql.Proofs.Surface.Queries

/-! A plain expression is read back from its text. Main statement: a query that selects nothing but
the expression is the query of the text `SELECT` and the text of the expression, up to the depth
that statements may have. -/
namespace LogicalSql

open Surface Surface.Reader

variable {e : Expr} {n : Nat}

/-! Plain expressions at a level. -/

/-- Where keywords fit, the expression is read if all its levels do. -/
def Expr.ClimbsByNesting (e : Expr) : Prop :=
  ∀ n, e.keywordsFit (n + 1) = true → e.Climbs n (decide (e.nesting ≤ n + 1))

theorem Expr.ClimbsByNesting.fits (h : e.ClimbsByNesting) (he : e.Plain)
    (hfit : e.keywordsFit n = true) : e.Fits n (decide (e.nesting ≤ n)) := by
  cases n with
  | zero =>
    have hone := he.one_le_nesting
    exact decide_eq_false (by omega)
  | succ m => exact h m hfit

theorem Expr.ClimbsByNesting.fits_of_le (h : e.ClimbsByNesting) (he : e.Plain)
    (hle : e.nesting ≤ n) :
    e.Fits n true := by
  rw [← decide_eq_true hle]
  exact h.fits he (he.keywordsFit_of_nesting_le hle)

theorem Expr.climbsByNesting_of_atom (hnesting : e.nesting = 1) (h : ∀ n, e.Climbs n true) :
    e.ClimbsByNesting := by
  intro n _
  rw [hnesting, decide_eq_true (by omega)]
  exact h n

theorem all_nesting_le (es : List Expr) (n : Nat) :
    (es.all fun x => decide (x.nesting ≤ n)) = decide (nestings es ≤ n) := by
  rw [Bool.eq_iff_iff, List.all_eq_true]
  simp only [decide_eq_true_eq, nestings_le]

theorem unary_climbsByNesting (op : UnaryOp) (he : e.Plain) (h : e.ClimbsByNesting)
    (hbinding : op.binding ≤ e.binding .written) : (Expr.unary op e).ClimbsByNesting := by
  have hsign : op ≠ .not → ∀ n, e.keywordsFit n = true →
      (Expr.unary op e).Climbs n (decide ((Expr.unary op e).nesting ≤ n + 1)) := by
    intro hop n hfit
    simp only [Expr.nesting, Nat.add_le_add_iff_right]
    exact sign_climbs hop (h.fits he hfit) hbinding
  intro n hfit
  cases op with
  | minus => exact hsign (by decide) n hfit
  | plus => exact hsign (by decide) n hfit
  | not =>
    -- behind the keyword all levels fit
    have hle : e.nesting + 1 ≤ n + 1 := of_decide_eq_true hfit
    rw [Expr.nesting, decide_eq_true hle]
    exact not_climbs (h.fits_of_le he (Nat.le_of_succ_le_succ hle)) hbinding
      ((e.leads he.legible).exists_ne he.leftmost)

theorem case_climbsByNesting {operand otherwise : Option Expr} {whens : List (Expr × Expr)}
    (hne : whens ≠ []) (hoperand : ∀ x ∈ operand, x.Plain ∧ x.ClimbsByNesting)
    (hwhens : ∀ w ∈ whens, (w.1.Plain ∧ w.1.ClimbsByNesting) ∧ w.2.Plain ∧ w.2.ClimbsByNesting)
    (hotherwise : ∀ x ∈ otherwise, x.Plain ∧ x.ClimbsByNesting) :
    (Expr.case operand whens otherwise).ClimbsByNesting := by
  intro n hfit
  have hle : (Expr.case operand whens otherwise).nesting ≤ n + 1 := of_decide_eq_true hfit
  rw [decide_eq_true hle]
  rw [Expr.nesting, Nat.add_le_add_iff_right, Nat.max_le, Nat.max_le, optionNesting_le,
    optionNesting_le, whenNestings_le] at hle
  refine case_climbs hne (fun x hx => ⟨?_, (x.leads (hoperand x hx).1.legible).opens⟩)
    (fun w hw => ?_)
    (fun w hw => ?_) fun x hx => ?_
  · exact (hoperand x hx).2.fits_of_le (hoperand x hx).1 (hle.1 x hx)
  · exact (hwhens w hw).1.2.fits_of_le (hwhens w hw).1.1 (hle.2.1 w hw).1
  · exact (hwhens w hw).2.2.fits_of_le (hwhens w hw).2.1 (hle.2.1 w hw).2
  · exact (hotherwise x hx).2.fits_of_le (hotherwise x hx).1 (hle.2.2 x hx)

theorem function_climbsByNesting {name : String} {args : List Expr}
    (hname : isPlainFunction name = true) (hargs : ∀ x ∈ args, x.Plain ∧ x.ClimbsByNesting) :
    (Expr.function name args false).ClimbsByNesting := by
  intro n hfit
  have hcall := isFunctionName_of_isPlainName (isPlainName_of_isPlainFunction hname)
  simp only [isPlainFunction, Bool.and_eq_true, Bool.not_eq_true', beq_iff_eq,
    Option.isNone_iff_eq_none] at hname
  rw [Expr.keywordsFit, keywordsFitAll_eq_true] at hfit
  simp only [Expr.nesting, Nat.add_le_add_iff_right, ← all_nesting_le]
  refine function_climbs hcall hname.1.1.2 hname.1.2 hname.2
    ⟨fun x hx => .inr ⟨?_, ?_⟩, fun hstar => ?_⟩
    (absurd · Bool.false_ne_true)
  · exact (hargs x hx).2.fits (hargs x hx).1 (hfit x hx)
  · exact (x.leads (hargs x hx).1.legible).opens
  · cases (hargs _ hstar).1

theorem Expr.Plain.climbsByNesting (he : e.Plain) (hgrouped : e.grouped .written = true) :
    e.ClimbsByNesting := by
  induction he with
  | column hname =>
    exact Expr.climbsByNesting_of_atom rfl
      fun _ => column_climbs (isColumnName_of_isPlainName hname)
  | qualified htable _ =>
    exact Expr.climbsByNesting_of_atom rfl
      fun _ => qualified_climbs (isOperandName_of_isPlainName htable)
  | null => exact Expr.climbsByNesting_of_atom rfl fun _ => literal_climbs rfl
  | boolean value => exact Expr.climbsByNesting_of_atom rfl fun _ => literal_climbs rfl
  | natural hn => exact Expr.climbsByNesting_of_atom rfl fun _ => natural_climbs hn
  | string text => exact Expr.climbsByNesting_of_atom rfl fun _ => string_climbs text
  | @binary left right op hleft hright ihleft ihright =>
    simp only [Expr.grouped, Bool.and_eq_true, decide_eq_true_eq] at hgrouped
    intro n hfit
    rw [Expr.keywordsFit, Bool.and_eq_true] at hfit
    simp only [Expr.nesting, Nat.max_le, Nat.add_le_add_iff_right, Bool.decide_and]
    exact binary_climbs op (ihleft hgrouped.1.1.1 n hfit.1)
      ((ihright hgrouped.1.1.2).fits hright hfit.2) (right.leads hright.legible).opens hgrouped.1.2
      hgrouped.2
  | unary op he ih =>
    simp only [Expr.grouped, Bool.and_eq_true, decide_eq_true_eq] at hgrouped
    exact unary_climbsByNesting op he (ih hgrouped.1) hgrouped.2
  | @nested e he ih =>
    intro n hfit
    simp only [Expr.nesting, Nat.add_le_add_iff_right]
    exact nested_climbs ((ih hgrouped).fits he hfit) (e.leads he.legible).opens
  | isNull negated he ih =>
    rw [Expr.grouped, Bool.and_eq_true, decide_eq_true_eq] at hgrouped
    exact fun n hfit => isNull_climbs negated (ih hgrouped.1 n hfit) hgrouped.2
  | between negated he hlow hhigh ih ihlow ihhigh =>
    simp only [Expr.grouped, Bool.and_eq_true, decide_eq_true_eq] at hgrouped
    obtain ⟨⟨⟨⟨⟨hg, hglow⟩, hghigh⟩, hbinding⟩, hlowBinding⟩, hhighBinding⟩ := hgrouped
    intro n hfit
    simp only [Expr.keywordsFit, Bool.and_eq_true] at hfit
    simp only [Expr.nesting, Nat.max_le, Nat.add_le_add_iff_right, Bool.decide_and]
    exact between_climbs negated (ih hg n hfit.1.1) ((ihlow hglow).fits hlow hfit.1.2)
      ((ihhigh hghigh).fits hhigh hfit.2) hbinding hlowBinding hhighBinding
  | inList negated he hne hlist ih ihlist =>
    simp only [Expr.grouped, Bool.and_eq_true, decide_eq_true_eq, groupedExprs_eq_true] at hgrouped
    intro n hfit
    rw [Expr.keywordsFit, Bool.and_eq_true, keywordsFitAll_eq_true] at hfit
    simp only [Expr.nesting, Nat.max_le, Nat.add_le_add_iff_right, Bool.decide_and,
      ← all_nesting_le]
    exact inList_climbs negated hne (ih hgrouped.1.1 n hfit.1)
      (fun x hx => (ihlist x hx (hgrouped.2 x hx)).fits (hlist x hx) (hfit.2 x hx))
      (fun x hx => (x.leads (hlist x hx).legible).opens) hgrouped.1.2
  | case hoperand hne hconditions hresults hotherwise ihoperand ihconditions ihresults
      ihotherwise =>
    simp only [Expr.grouped, Bool.and_eq_true, groupedOption_eq_true,
      groupedWhens_eq_true] at hgrouped
    refine case_climbsByNesting hne
      (fun x hx => ⟨hoperand x hx, ihoperand x hx (hgrouped.1.1 x hx)⟩)
      (fun w hw => ⟨⟨hconditions w hw, ?_⟩, hresults w hw, ?_⟩)
      fun x hx => ⟨hotherwise x hx, ihotherwise x hx (hgrouped.2 x hx)⟩
    · exact ihconditions w hw (hgrouped.1.2 w hw).1
    · exact ihresults w hw (hgrouped.1.2 w hw).2
  | function hname hargs ih =>
    rw [Expr.grouped, groupedExprs_eq_true] at hgrouped
    exact function_climbsByNesting hname fun x hx => ⟨hargs x hx, ih x hx (hgrouped x hx)⟩

/-- The query that selects nothing but the expression. -/
def Query.selecting (e : Expr) : Query := .select { projections := [.expr e none] }

theorem Query.selecting_sql (e : Expr) : (Query.selecting e).sql = "SELECT " ++ e.sql := by
  simp [Query.selecting, Query.sql, Select.sql, distinctSql, itemTexts, commaList, SelectItem.sql,
    aliasSql, listClause, sourceTexts, joinTexts, clauseText, exprTexts, setOperationText,
    orderTexts]

theorem Query.selecting_legible (he : e.legible = true) : (Query.selecting e).legible = true := by
  simp [Query.selecting, Query.legible, Select.legible, legibleItems, SelectItem.legible,
    legibleSources, legibleJoins, legibleOption, legibleExprs, legibleOrder, legibleRest, he]

/-- Nothing but the expression is read. -/
theorem readsChain_selecting {L : Level} {f : Bool} (he : ReadsAny L f e)
    (hlegible : e.legible = true) :
    ReadsChain L (fun _ => f) { projections := [.expr e none] } [] := by
  refine ⟨⟨List.cons_ne_nil _ _, ?_, fun _ => rfl, nofun, nofun, nofun, nofun⟩, readsRest_none,
    nofun, nofun, nofun⟩
  intro i hi
  rw [List.mem_singleton.1 hi]
  exact readsItem_legible he hlegible

theorem parse_of_keywordsFit (hplain : e.Plain) (hgrouped : e.grouped .written = true)
    (hfit : e.keywordsFit (maxNesting - 2) = true) :
    Query.parse ("SELECT " ++ e.sql) =
      if e.nesting ≤ maxNesting - 2 then .ok (.selecting e) else .error .malformed := by
  have hfits : e.Fits (maxNesting - 2) (decide (e.nesting ≤ maxNesting - 2)) :=
    (hplain.climbsByNesting hgrouped).fits hplain hfit
  have hchain := readsChain_selecting (hfits.readsAny (L := level (maxNesting - 2)) ⟨rfl, rfl⟩)
    hplain.legible
  have hread := query_reads hchain followedBy_nil (with?_select _)
  rw [List.all_cons, List.all_nil, Bool.and_true] at hread
  have hparse := parse_of_reads (Query.selecting_legible hplain.legible) hread
  rw [← Query.selecting_sql, hparse]
  simp only [decide_eq_true_eq]

/-- The text of a plain expression that has the parentheses it needs is read as the expression,
where it nests two levels less deep than a statement may. Deeper expressions are not read, unless
one of the words `NOT` and `CASE` is taken for a name because what stands behind it nests too
deeply. -/
theorem Query.parse_select_sql (hplain : e.Plain) (hgrouped : e.grouped .written = true) :
    (e.nesting ≤ maxNesting - 2 → Query.parse ("SELECT " ++ e.sql) = .ok (.selecting e)) ∧
      (maxNesting - 2 < e.nesting → e.keywordsFit (maxNesting - 2) = true →
        Query.parse ("SELECT " ++ e.sql) = .error .malformed) := by
  refine ⟨fun hle => ?_, fun hlt hfit => ?_⟩
  · rw [parse_of_keywordsFit hplain hgrouped (hplain.keywordsFit_of_nesting_le hle), if_pos hle]
  · rw [parse_of_keywordsFit hplain hgrouped hfit, if_neg (Nat.not_le.2 hlt)]

/-- An expression with words and symbols of all kinds, and one with more signs than are read. -/
theorem Query.parse_select_mixed :
    (∃ e : Expr, e.Plain ∧ e.grouped .written = true ∧ e.nesting ≤ maxNesting - 2 ∧
      e.sql = "NOT x BETWEEN - 1 AND 2 * (x - 1) AND CASE x WHEN NULL THEN F(TRUE) END IN ('it''s')" ∧
      Query.parse ("SELECT " ++ e.sql) = .ok (.selecting e)) ∧
    ∃ e : Expr, e.Plain ∧ e.grouped .written = true ∧ maxNesting - 2 < e.nesting ∧
      e.keywordsFit (maxNesting - 2) = true ∧
      Query.parse ("SELECT " ++ e.sql) = .error .malformed := by
  let x : Expr := .column none "x"
  have hx : x.Plain := .column (by decide +kernel)
  constructor
  · let one : Expr := .literal (.integer 1)
    let bounded : Expr := .between x (.unary .minus one)
      (.binary (.literal (.integer 2)) .multiply (.nested (.binary x .minus one))) false
    let call : Expr := .function "F" [.literal (.boolean true)] false
    let chosen : Expr := .case (some x) [(.literal .null, call)] none
    have hone : one.Plain := .natural (n := 1) (by decide)
    have hproduct := Expr.Plain.binary .multiply (.natural (n := 2) (by decide))
      (.nested (.binary .minus hx hone))
    have hbounded : bounded.Plain := .between false hx (.unary .minus hone) hproduct
    have hcall : call.Plain :=
      .function (by decide +kernel) (by simpa using Expr.Plain.boolean true)
    have hchosen : chosen.Plain := .case (by simpa using hx) (by simp)
      (by simpa using Expr.Plain.null) (by simpa using hcall) (by simp)
    have hlisted :=
      Expr.Plain.inList false hchosen (List.cons_ne_nil (.literal (.string "it's")) [])
      (by simpa using Expr.Plain.string "it's")
    have hplain := Expr.Plain.binary .and (.unary .not hbounded) hlisted
    exact ⟨_, hplain, rfl, by decide +kernel, by decide +kernel,
      (Query.parse_select_sql hplain rfl).1 (by decide +kernel)⟩
  · have hsigns : ∀ n, (Nat.repeat (.unary .minus) n x).Plain := by
      intro n
      induction n with
      | zero => exact hx
      | succ n ih => exact .unary .minus ih
    exact ⟨_, hsigns 48, by decide +kernel, by decide +kernel, by decide +kernel,
      (Query.parse_select_sql (hsigns 48) (by decide +kernel)).2 (by decide +kernel)
        (by decide +kernel)⟩

/-- The last of too many negations is taken for a column, and the column behind it for its alias. -/
theorem Query.parse_select_negations :
    let e : Expr := Nat.repeat (.unary .not) 48 (.column none "x")
    e.Plain ∧ e.grouped .written = true ∧ e.keywordsFit (maxNesting - 2) = false ∧
      ∃ q, Query.parse ("SELECT " ++ e.sql) = .ok q ∧
        q.sql = "SELECT " ++ (Nat.repeat (.unary .not) 47 (Expr.column none "NOT")).sql ++ " AS x" ∧
        q ≠ .selecting e := by
  intro e
  have hrepeat : ∀ n, (Nat.repeat (.unary .not) n (Expr.column none "x")).Plain := by
    intro n
    induction n with
    | zero => exact .column (by decide +kernel)
    | succ n ih => exact .unary .not ih
  have hread : (Query.parse ("SELECT " ++ e.sql)).map Query.sql =
      .ok ("SELECT " ++ (Nat.repeat (.unary .not) 47 (Expr.column none "NOT")).sql ++ " AS x") := by
    decide +kernel
  refine ⟨hrepeat 48, by decide +kernel, by decide +kernel, ?_⟩
  cases hparse : Query.parse ("SELECT " ++ e.sql) with
  | error err =>
    rw [hparse] at hread
    cases hread
  | ok q =>
    rw [hparse] at hread
    have hsql := Except.ok.inj hread
    refine ⟨q, rfl, hsql, ?_⟩
    rintro rfl
    revert hsql
    decide +kernel

end LogicalSql
