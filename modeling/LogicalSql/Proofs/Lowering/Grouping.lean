import LogicalSql.Lowering.Text
import LogicalSql.Proofs.Lowering.WalkFrame
import LogicalSql.Proofs.Query.Grouping

/-! Lowering and the grouping of operators: the result is grouped exactly where the query is grouped
around what its calls become. -/
namespace LogicalSql

open Lowering

theorem Expr.IsType.grouped {e : Expr} (h : e.IsType) (r : Reading) : e.grouped r = true := by
  cases h <;> simp only [Expr.grouped]

theorem Expr.IsType.binding {e : Expr} (h : e.IsType) (r : Reading) :
    e.binding r = Binding.atom := by
  cases h <;> simp only [Expr.binding]

theorem FieldsGained.grouped {T : TypeRule} {items fields : List SelectItem} {columns : List String}
    (h : FieldsGained T items columns fields) (r : Reading) :
    groupedItems r fields = groupedItems r items := by
  induction h with
  | none => rfl
  | written _ _ ih => exact ih
  | added _ _ _ htype _ ih =>
    simp only [groupedItems_append, groupedItems, SelectItem.grouped, htype.grouped, ih,
      Bool.and_true]

theorem groupedExprs_integerLiterals {args : List Expr} {components : List Int}
    (h : args.mapM integerLiteral? = some components) (r : Reading) :
    groupedExprs r args = true := by
  refine groupedExprs_eq_true.2 fun e he => ?_
  obtain ⟨n, rfl⟩ := integerLiterals h e he
  simp only [Expr.grouped]

/-- Of the calls, only that of `PRESENTATION` may come to bind less tightly. -/
theorem Lowering.Lowered.binding {f : LogicalFunction} {args : List Expr} {e : Expr}
    (h : Lowered f args e) :
    e.binding .written = if f = .presentation then headBinding .written args else Binding.atom := by
  cases h with
  | dateTime _ he =>
    obtain ⟨text, dataType, rfl⟩ := dateTime_cast he
    simp [Expr.binding]
  | presentation => simp [headBinding]
  | year | quarter | isNull | substring | dateTrunc | datePart => simp [Expr.binding]

/-- Of the calls, only that of `ISNULL` puts an argument beside an operator. -/
theorem Lowering.Lowered.grouped {f : LogicalFunction} {args : List Expr} {e : Expr}
    (h : Lowered f args e) :
    e.grouped .written = (groupedExprs .written args &&
      decide (f = .isNull → Binding.nullTest ≤ headBinding .written args)) := by
  cases h with
  | dateTime hargs he =>
    obtain ⟨text, dataType, rfl⟩ := dateTime_cast he
    simp [Expr.grouped, groupedExprs_integerLiterals hargs]
  | presentation => simp [groupedExprs]
  | isNull value fallback =>
    -- the value is tested, and is the result where it is not null
    simp only [Expr.grouped, groupedOption, groupedWhens, groupedExprs, headBinding, forall_const,
      Bool.true_and, Bool.and_true]
    cases value.grouped .written <;> cases fallback.grouped .written <;> simp
  | dateTrunc value period =>
    simp [Expr.grouped, groupedExprs, Bool.and_comm]
  | year | quarter | substring | datePart =>
    simp [Expr.grouped, Expr.string, groupedExprs]

variable {R : SourceRule}

mutual

theorem Expr.Framed.binding : ∀ (e : Expr) {T : TypeRule} {e' : Expr},
    Expr.Framed R T e e' → e'.binding .written = e.binding .lowered
  | .call f args, _, _, .intro hparts _ => by
    cases hparts with
    | call hargs h =>
      rw [h.binding, Expr.binding, headBinding_framed args hargs]
      simp only [true_and]
    | typeIdentifier _ htype => rw [htype.binding, Expr.binding, if_neg (by decide)]
  | .column _ _, _, _, .intro hparts _
  | .literal _, _, _, .intro hparts _
  | .binary _ _ _, _, _, .intro hparts _
  | .unary _ _, _, _, .intro hparts _
  | .function _ _ _, _, _, .intro hparts _
  | .aggregate _ _ _ _, _, _, .intro hparts _
  | .case _ _ _, _, _, .intro hparts _
  | .subquery _, _, _, .intro hparts _
  | .exists _, _, _, .intro hparts _
  | .inList _ _ _, _, _, .intro hparts _
  | .inSubquery _ _ _, _, _, .intro hparts _
  | .between _ _ _ _, _, _, .intro hparts _
  | .isNull _ _, _, _, .intro hparts _
  | .cast _ _, _, _, .intro hparts _
  | .wildcard, _, _, .intro hparts _
  | .parameter _, _, _, .intro hparts _
  | .nested _, _, _, .intro hparts _ => by
    cases hparts
    rw [Expr.binding, Expr.binding]
termination_by structural e _ _ _ => e

theorem headBinding_framed : ∀ (es : List Expr) {T : TypeRule} {es' : List Expr},
    FramedExprs R T es es' → headBinding .written es' = headBinding .lowered es
  | [], _, _, .nil => by rw [headBinding, headBinding]
  | e :: _, _, _, .cons he _ => by rw [headBinding, headBinding, Expr.Framed.binding e he]
termination_by structural es _ _ _ => es

end

mutual

theorem Query.Framed.grouped : ∀ (q : Query) {columns : List String} {q' : Query},
    Query.Framed R columns q q' → q'.grouped .written = q.grouped .lowered
  | .select s, _, _, .select h => by
    rw [Query.grouped, Query.grouped, Select.Framed.grouped s h]
  | .withCtes _ ctes body, _, _, .withCtes hctes hbody => by
    rw [Query.grouped, Query.grouped, groupedCtes_framed ctes hctes,
      Query.Framed.grouped body hbody]
  | .raw _, _, _, .raw _ => by rw [Query.grouped, Query.grouped]
termination_by structural q _ _ _ => q

theorem groupedCtes_framed : ∀ (cs : List Cte) {cs' : List Cte},
    List.Forall₂ (Cte.Framed R) cs cs' → groupedCtes .written cs' = groupedCtes .lowered cs
  | [], _, .nil => by rw [groupedCtes, groupedCtes]
  | ⟨_, _, query⟩ :: cs, _, .cons (.intro h) hcs => by
    rw [groupedCtes, groupedCtes, Query.Framed.grouped query h, groupedCtes_framed cs hcs]
termination_by structural cs _ _ => cs

theorem Select.Framed.grouped : ∀ (s : Select) {columns : List String} {s' : Select},
    Select.Framed R columns s s' → s'.grouped .written = s.grouped .lowered
  | ⟨_, projections, sources, joins, filter, groupBy, having, orderBy, limit, offset, rest⟩, _, _,
    .intro _ hitems hgained hsources hjoins hfilter hgroupBy hhaving horderBy hlimit hoffset
      hrest => by
    rw [Select.grouped, Select.grouped, hgained.grouped, groupedItems_framed projections hitems,
      groupedSources_framed sources hsources, groupedJoins_framed joins hjoins,
      groupedOption_framed filter hfilter, groupedExprs_framed groupBy hgroupBy,
      groupedOption_framed having hhaving, groupedOrder_framed orderBy horderBy,
      groupedOption_framed limit hlimit, groupedOption_framed offset hoffset,
      groupedRest_framed rest hrest]
termination_by structural s _ _ _ => s

theorem groupedRest_framed : ∀ (o : Option SetOperation) {columns : List String}
    {o' : Option SetOperation},
    FramedRest R columns o o' → groupedRest .written o' = groupedRest .lowered o
  | none, _, _, .none => by rw [groupedRest, groupedRest]
  | some ⟨_, _, right⟩, _, _, .some h => by
    rw [groupedRest, groupedRest, Query.Framed.grouped right h]
termination_by structural o _ _ _ => o

theorem groupedSources_framed : ∀ (ss : List Source) {ss' : List Source},
    List.Forall₂ (Source.Framed R) ss ss' → groupedSources .written ss' = groupedSources .lowered ss
  | [], _, .nil => by rw [groupedSources, groupedSources]
  | s :: ss, _, .cons hs hss => by
    rw [groupedSources, groupedSources, Source.Framed.grouped s hs, groupedSources_framed ss hss]
termination_by structural ss _ _ => ss

theorem Source.Framed.grouped : ∀ (s : Source) {s' : Source},
    Source.Framed R s s' → s'.grouped .written = s.grouped .lowered
  | .table _ _ _, _, .table _ _ _ => by rw [Source.grouped, Source.grouped]
  | .subquery query _, _, .subquery _ h => by
    rw [Source.grouped, Source.grouped, Query.Framed.grouped query h]
  | .function _ _ _, _, .function _ _ _ => by rw [Source.grouped, Source.grouped]
termination_by structural s _ _ => s

theorem groupedJoins_framed : ∀ (js : List Join) {T : TypeRule} {js' : List Join},
    FramedJoins R T js js' → groupedJoins .written js' = groupedJoins .lowered js
  | [], _, _, .nil => by rw [groupedJoins, groupedJoins]
  | ⟨_, source, condition⟩ :: js, _, _, .cons hsource hcondition hjs => by
    rw [groupedJoins, groupedJoins, Source.Framed.grouped source hsource,
      groupedCondition_framed condition hcondition, groupedJoins_framed js hjs]
termination_by structural js _ _ _ => js

theorem groupedCondition_framed : ∀ (c : Option JoinCondition) {T : TypeRule}
    {c' : Option JoinCondition},
    FramedCondition R T c c' → groupedCondition .written c' = groupedCondition .lowered c
  | none, _, _, .none => by rw [groupedCondition, groupedCondition]
  | some (.on e), _, _, .on h => by
    rw [groupedCondition, groupedCondition, Expr.Framed.grouped e h]
  | some (.using _), _, _, .using _ => by rw [groupedCondition, groupedCondition]
  | some .natural, _, _, .natural => by rw [groupedCondition, groupedCondition]
termination_by structural c _ _ _ => c

theorem groupedItems_framed : ∀ (is : List SelectItem) {T : TypeRule} {is' : List SelectItem},
    FramedItems R T is is' → groupedItems .written is' = groupedItems .lowered is
  | [], _, _, .nil => by rw [groupedItems, groupedItems]
  | i :: is, _, _, .cons hi his => by
    rw [groupedItems, groupedItems, SelectItem.Framed.grouped i hi, groupedItems_framed is his]
termination_by structural is _ _ _ => is

theorem SelectItem.Framed.grouped : ∀ (i : SelectItem) {T : TypeRule} {i' : SelectItem},
    SelectItem.Framed R T i i' → i'.grouped .written = i.grouped .lowered
  | .wildcard, _, _, .wildcard => by rw [SelectItem.grouped, SelectItem.grouped]
  | .wildcardOf _, _, _, .wildcardOf _ => by rw [SelectItem.grouped, SelectItem.grouped]
  | .expr e _, _, _, .expr _ h => by
    rw [SelectItem.grouped, SelectItem.grouped, Expr.Framed.grouped e h]
termination_by structural i _ _ _ => i

theorem groupedOrder_framed : ∀ (os : List OrderItem) {T : TypeRule} {os' : List OrderItem},
    FramedOrder R T os os' → groupedOrder .written os' = groupedOrder .lowered os
  | [], _, _, .nil => by rw [groupedOrder, groupedOrder]
  | ⟨e, _, _⟩ :: os, _, _, .cons he hos => by
    rw [groupedOrder, groupedOrder, Expr.Framed.grouped e he, groupedOrder_framed os hos]
termination_by structural os _ _ _ => os

theorem groupedOption_framed : ∀ (o : Option Expr) {T : TypeRule} {o' : Option Expr},
    FramedOption R T o o' → groupedOption .written o' = groupedOption .lowered o
  | none, _, _, .none => by rw [groupedOption, groupedOption]
  | some e, _, _, .some h => by rw [groupedOption, groupedOption, Expr.Framed.grouped e h]
termination_by structural o _ _ _ => o

theorem groupedExprs_framed : ∀ (es : List Expr) {T : TypeRule} {es' : List Expr},
    FramedExprs R T es es' → groupedExprs .written es' = groupedExprs .lowered es
  | [], _, _, .nil => by rw [groupedExprs, groupedExprs]
  | e :: es, _, _, .cons he hes => by
    rw [groupedExprs, groupedExprs, Expr.Framed.grouped e he, groupedExprs_framed es hes]
termination_by structural es _ _ _ => es

theorem groupedWhens_framed : ∀ (ws : List (Expr × Expr)) {T : TypeRule} {ws' : List (Expr × Expr)},
    FramedWhens R T ws ws' → groupedWhens .written ws' = groupedWhens .lowered ws
  | [], _, _, .nil => by rw [groupedWhens, groupedWhens]
  | (condition, result) :: ws, _, _, .cons hcondition hresult hws => by
    rw [groupedWhens, groupedWhens, Expr.Framed.grouped condition hcondition,
      Expr.Framed.grouped result hresult, groupedWhens_framed ws hws]
termination_by structural ws _ _ _ => ws

theorem Expr.Framed.grouped : ∀ (e : Expr) {T : TypeRule} {e' : Expr},
    Expr.Framed R T e e' → e'.grouped .written = e.grouped .lowered
  | .column _ _, _, _, .intro hparts _ => by
    cases hparts
    rw [Expr.grouped, Expr.grouped]
  | .literal _, _, _, .intro hparts _ => by
    cases hparts
    rw [Expr.grouped, Expr.grouped]
  | .binary left _ right, _, _, .intro hparts _ => by
    cases hparts with
    | binary _ hleft hright =>
      rw [Expr.grouped, Expr.grouped, Expr.Framed.grouped left hleft,
        Expr.Framed.grouped right hright, hleft.binding, hright.binding]
  | .unary _ e, _, _, .intro hparts _ => by
    cases hparts with
    | unary _ h =>
      rw [Expr.grouped, Expr.grouped, Expr.Framed.grouped e h, h.binding]
  | .call f args, _, _, .intro hparts _ => by
    cases hparts with
    | call hargs h =>
      rw [h.grouped, Expr.grouped, groupedExprs_framed args hargs, headBinding_framed args hargs]
      simp only [true_and]
    | typeIdentifier hargs htype _ =>
      have hcolumn := groupedExprs_framed args hargs
      simp only [groupedExprs, Expr.grouped, Bool.and_self] at hcolumn
      simp [htype.grouped, Expr.grouped, ← hcolumn]
  | .function _ args _, _, _, .intro hparts _ => by
    cases hparts with
    | function _ _ hargs =>
      rw [Expr.grouped, Expr.grouped, groupedExprs_framed args hargs]
  | .aggregate _ args _ filter, _, _, .intro hparts _ => by
    cases hparts with
    | aggregate _ _ hargs hfilter =>
      rw [Expr.grouped, Expr.grouped, groupedExprs_framed args hargs,
        groupedOption_framed filter hfilter]
  | .case operand whens otherwise, _, _, .intro hparts _ => by
    cases hparts with
    | case hoperand hwhens hotherwise =>
      rw [Expr.grouped, Expr.grouped, groupedOption_framed operand hoperand,
        groupedWhens_framed whens hwhens, groupedOption_framed otherwise hotherwise]
  | .subquery query, _, _, .intro hparts _ => by
    cases hparts with
    | subquery h =>
      rw [Expr.grouped, Expr.grouped, Query.Framed.grouped query h]
  | .exists query, _, _, .intro hparts _ => by
    cases hparts with
    | «exists» h =>
      rw [Expr.grouped, Expr.grouped, Query.Framed.grouped query h]
  | .inList e list _, _, _, .intro hparts _ => by
    cases hparts with
    | inList _ he hlist =>
      rw [Expr.grouped, Expr.grouped, Expr.Framed.grouped e he, he.binding,
        groupedExprs_framed list hlist]
  | .inSubquery e query _, _, _, .intro hparts _ => by
    cases hparts with
    | inSubquery _ he hquery =>
      rw [Expr.grouped, Expr.grouped, Expr.Framed.grouped e he, he.binding,
        Query.Framed.grouped query hquery]
  | .between e low high _, _, _, .intro hparts _ => by
    cases hparts with
    | between _ he hlow hhigh =>
      rw [Expr.grouped, Expr.grouped, Expr.Framed.grouped e he, Expr.Framed.grouped low hlow,
        Expr.Framed.grouped high hhigh, he.binding, hlow.binding, hhigh.binding]
  | .isNull e _, _, _, .intro hparts _ => by
    cases hparts with
    | isNull _ h =>
      rw [Expr.grouped, Expr.grouped, Expr.Framed.grouped e h, h.binding]
  | .cast e _, _, _, .intro hparts _ => by
    cases hparts with
    | cast _ h =>
      rw [Expr.grouped, Expr.grouped, Expr.Framed.grouped e h]
  | .wildcard, _, _, .intro hparts _ => by
    cases hparts
    rw [Expr.grouped, Expr.grouped]
  | .parameter _, _, _, .intro hparts _ => by
    cases hparts
    rw [Expr.grouped, Expr.grouped]
  | .nested e, _, _, .intro hparts _ => by
    cases hparts with
    | nested h =>
      rw [Expr.grouped, Expr.grouped, Expr.Framed.grouped e h]
termination_by structural e _ _ _ => e

end

namespace Query

/-- Every operator of the result has operands that bind tightly enough exactly if every operator of
the query does, with calls of `PRESENTATION` and `ISNULL` read as what they become. -/
theorem grouped_lowered {mappings : MappingSource} {q q' : Query}
    (h : Pass.runAll (Pass.defaults mappings) q = .ok q') :
    q'.grouped .written = q.grouped .lowered := by
  rw [Pass.runAll_defaults] at h
  exact (lower_framed (SourceRule.any_kept mappings) h).grouped

/-- `SELECT PRESENTATION(a + b) * c FROM t`, with the sum in parentheses of its own and without. -/
theorem product_grouped_lowered :
    let column := Expr.column none
    let sum := Expr.binary (column "a") .plus (column "b")
    let product := fun left => Query.select
      { projections := [.expr (.binary left .multiply (column "c")) none]
        sources := [.table none "t" none] }
    let run := Pass.runAll (Pass.defaults MappingSet.empty.source)
    (run (product (.call .presentation [.nested sum])) = .ok (product (.nested sum)) ∧
      (product (.nested sum)).grouped .written = true) ∧
    run (product (.call .presentation [sum])) = .ok (product sum) ∧
      (product sum).grouped .written = false := by
  intro column sum product run
  have hnested : run (product (.call .presentation [.nested sum])) = .ok (product (.nested sum)) :=
    rfl
  have hsum : run (product (.call .presentation [sum])) = .ok (product sum) := rfl
  refine ⟨⟨hnested, (grouped_lowered hnested).trans ?_⟩, hsum, (grouped_lowered hsum).trans ?_⟩
  · decide
  · decide

/-- The sum was one operand of the product, and is printed as if only its right half were. -/
theorem presentation_ungroups_product :
    (do
      let q ← (parse "SELECT PRESENTATION(a + b) * c FROM t").toOption
      let q' ← (Pass.runAll (Pass.defaults MappingSet.empty.source) q).toOption
      return (q.grouped .written, q'.grouped .written, q'.sql)) =
    some (true, false, "SELECT a + b * c FROM t") := by
  decide +kernel

end Query

end LogicalSql
