import LogicalSql.Proofs.Surface.Climbing
import LogicalSql.Proofs.Surface.Queries

/-! Legible queries are read back from their text. Each part of a query is read from its own tokens,
one level further down where it is nested. Main statement: the text of a legible query that has the
parentheses it needs and does not nest too deeply is read as the query. -/
namespace LogicalSql

open Surface Surface.Reader

variable {e : Expr} {n : Nat} {args : List Expr}

/-! Levels. -/

theorem Expr.one_le_depth : ∀ e : Expr, 1 ≤ e.depth
  | .isNull e _ => by
    rw [Expr.depth]
    exact e.one_le_depth
  | .column _ _ | .literal _ | .binary _ _ _ | .unary _ _ | .call _ _ | .function _ _ _
  | .aggregate _ _ _ _ | .case _ _ _ | .subquery _ | .exists _ | .inList _ _ _ | .inSubquery _ _ _
  | .between _ _ _ _ | .cast _ _ | .wildcard | .parameter _ | .nested _ => by
    unfold Expr.depth
    omega

/-- What takes a level has one. -/
theorem Expr.fits_of_climbs (h : ∀ m, e.depth ≤ m + 1 → e.Climbs m true) (hdepth : e.depth ≤ n) :
    e.Fits n true := by
  cases n with
  | zero => exact absurd e.one_le_depth (by omega)
  | succ m => exact h m hdepth

theorem depth_le_exprDepths (he : e ∈ args) : e.depth ≤ exprDepths args := by
  induction args with
  | nil => cases he
  | cons x xs ih =>
    rw [exprDepths]
    rcases List.mem_cons.1 he with rfl | he
    · exact Nat.le_max_left _ _
    · exact Nat.le_trans (ih he) (Nat.le_max_right _ _)

theorem level_tableItem (n : Nat) :
    ∃ inner : Level, (level n).tableItem = tableItem inner ∧ inner.IsAt n := by
  cases n <;> exact ⟨_, rfl, rfl, rfl⟩

theorem readsTable_level {s : Source} {js : List Join}
    (hs : ∀ L : Level, L.IsAt n → ReadsSource L s)
    (hjs : ∀ L : Level, L.IsAt n → ∀ j ∈ js, ReadsJoin L j) : ReadsTable (level n) s js := by
  obtain ⟨inner, hinner, hat⟩ := level_tableItem n
  intro rest hrest
  rw [hinner]
  exact tableItem_reads (fun L hexpr hquery => hs L ⟨hexpr.trans hat.expr, hquery.trans hat.query⟩)
    (fun L hexpr hquery => hjs L ⟨hexpr.trans hat.expr, hquery.trans hat.query⟩) hrest

theorem fitsCall_of_legible (hlegible : legibleArguments args = true) (hdepth : exprDepths args ≤ n)
    (hfit : ∀ x ∈ args, x.legible = true → x.Fits n true) : FitsCall n (fun _ => true) args := by
  refine ⟨fun x hx => ?_, fun hstar => ?_⟩
  · rcases legibleArguments_eq_true.1 hlegible x hx with rfl | hx'
    · exact .inl ⟨rfl, rfl⟩
    · exact .inr ⟨hfit x hx hx', (x.leads hx').opens⟩
  · exact Nat.lt_of_lt_of_le (Expr.one_le_depth _) (Nat.le_trans (depth_le_exprDepths hstar) hdepth)

/-- `DISTINCT` stands in front of an argument. -/
theorem distinct_ne_nil {distinct : Bool} (h : (!distinct || !args.isEmpty) = true) :
    distinct = true → args ≠ [] := by
  rintro rfl rfl
  cases h

/-! Queries, given how their parts are read. -/

section Chain

variable {L : Level} {s : Select} {steps : List (SetStep Select)}

theorem readsQuery_select (hL : L.IsAt (n + 1)) (h : ReadsChain (level n) (fun _ => true) s steps) :
    ReadsQuery L (.select s) := by
  refine ⟨fun rest => .inl ?_, fun rest hrest => ?_⟩
  · rw [Query.tokens, s.tokens_eq]
    rfl
  · have hread := query_reads h hrest (with?_select s)
    rw [all_fits] at hread
    rw [hL.query, Query.tokens]
    exact hread

theorem readsQuery_with {recursive : Bool} {ctes : List Cte} (hL : L.IsAt (n + 1)) (hne : ctes ≠ [])
    (hctes : ∀ c ∈ ctes, ReadsQuery (level n) c.query)
    (hrecursive : recursive = false → ctes.head?.any Cte.isRecursiveWord = false)
    (h : ReadsChain (level n) (fun _ => true) s steps) :
    ReadsQuery L (.withCtes recursive ctes (.select s)) := by
  refine ⟨fun rest => .inr ⟨?_, ?_⟩, fun rest hrest => ?_⟩
  · rw [Query.tokens]
    rfl
  · rw [Query.tokens]
    rfl
  · have hwith : Reads true (with? (level n)) (withTokens recursive ctes) (s.tokens ++ rest)
        fun w => interpretWith w = .ok (some (recursive, ctes)) := by
      rw [s.tokens_eq]
      exact with?_reads hne hctes hrecursive
    have hread := query_reads h hrest hwith
    rw [all_fits, withTokens, List.cons_append, List.append_assoc] at hread
    rw [hL.query, Query.tokens, Query.tokens]
    exact hread

end Chain

/-! Main statement, by recursion over the parts. -/

mutual

theorem Query.reads : ∀ (q : Query) (n : Nat), q.legible = true → q.grouped .written = true →
    q.depth ≤ n → ∀ L : Level, L.IsAt n → ReadsQuery L q
  | .select s, n, hlegible, hgrouped, hdepth, L, hL => by
    rw [Query.legible] at hlegible
    rw [Query.grouped] at hgrouped
    rw [Query.depth] at hdepth
    obtain ⟨m, rfl⟩ := Nat.exists_eq_add_one_of_ne_zero (show n ≠ 0 by omega)
    obtain ⟨steps, hchain⟩ := s.readsChain m hlegible hgrouped (by omega)
    exact readsQuery_select hL hchain
  | .withCtes recursive ctes (.select s), n, hlegible, hgrouped, hdepth, L, hL => by
    simp only [Query.legible, Bool.and_eq_true, Bool.or_eq_true, Bool.not_eq_true'] at hlegible
    simp only [Query.grouped, Bool.and_eq_true] at hgrouped
    simp only [Query.depth] at hdepth
    obtain ⟨m, rfl⟩ := Nat.exists_eq_add_one_of_ne_zero (show n ≠ 0 by omega)
    obtain ⟨steps, hchain⟩ := s.readsChain m hlegible.2 hgrouped.2 (by omega)
    have hctes := ctes_read ctes m hlegible.1.1.2 hgrouped.1 (by omega)
    refine readsQuery_with hL (by simpa using hlegible.1.1.1.1)
      (fun c hc => hctes c hc _ ⟨rfl, rfl⟩) ?_
      hchain
    rintro rfl
    exact hlegible.1.1.1.2.resolve_left Bool.false_ne_true
  | .withCtes _ _ (.withCtes _ _ _), _, hlegible, _, _, _, _ => by
    simp [Query.legible, Query.isSelect] at hlegible
  | .withCtes _ _ (.raw _), _, hlegible, _, _, _, _ => by
    simp [Query.legible, Query.isSelect] at hlegible
  | .raw text, _, hlegible, _, _, _, _ => by
    rw [Query.legible] at hlegible
    cases hlegible

theorem ctes_read : ∀ (cs : List Cte) (n : Nat), legibleCtes cs = true →
    groupedCtes .written cs = true → cteDepths cs ≤ n →
    ∀ c ∈ cs, ∀ L : Level, L.IsAt n → ReadsQuery L c.query
  | [], _, _, _, _ => nofun
  | ⟨name, columns, query⟩ :: cs, n, hlegible, hgrouped, hdepth => by
    simp only [legibleCtes, Bool.and_eq_true] at hlegible
    simp only [groupedCtes, Bool.and_eq_true] at hgrouped
    rw [cteDepths, Nat.max_le] at hdepth
    exact List.forall_mem_cons.2 ⟨query.reads n hlegible.1.2 hgrouped.1 hdepth.1,
      ctes_read cs n hlegible.2 hgrouped.2 hdepth.2⟩

theorem Select.readsChain : ∀ (s : Select) (n : Nat), s.legible = true → s.grouped .written = true →
    s.depth ≤ n → ∃ steps, ReadsChain (level n) (fun _ => true) s steps
  | ⟨distinct, projections, sources, joins, filter, groupBy, having, orderBy, limit, offset,
      setOperation⟩, n, hlegible, hgrouped, hdepth => by
    simp only [Select.legible, Bool.and_eq_true, and_assoc] at hlegible
    obtain ⟨hne, litems, lsources, hjoins, ljoins, lfilter, lgroupBy, lhaving, lorderBy, llimit,
      loffset, lrest⟩ := hlegible
    simp only [Select.grouped, Bool.and_eq_true, and_assoc] at hgrouped
    obtain ⟨gitems, gsources, gjoins, gfilter, ggroupBy, ghaving, gorderBy, glimit, goffset,
      grest⟩ := hgrouped
    simp only [Select.depth, List.foldr_cons, List.foldr_nil, Nat.max_le] at hdepth
    obtain ⟨ditems, dsources, djoins, dfilter, dgroupBy, dhaving, dorderBy, dlimit, doffset, drest,
      -⟩ := hdepth
    obtain ⟨steps, hrest⟩ := rest_reads setOperation n lrest grest drest
    have hany : ∀ {e : Expr}, e.Fits n true → ReadsAny (level n) true e :=
      fun h => h.readsAny ⟨rfl, rfl⟩
    have hfilter := option_fits filter n lfilter gfilter dfilter
    have hgroupBy := exprs_fit groupBy n ggroupBy dgroupBy
    have hhaving := option_fits having n lhaving ghaving dhaving
    have horderBy := order_fits orderBy n lorderBy gorderBy dorderBy
    have hlimit := option_fits limit n llimit glimit dlimit
    have hoffset := option_fits offset n loffset goffset doffset
    have hitems := items_read projections n litems gitems ditems
    have hsources := sources_read sources n lsources gsources dsources
    have hjoinsRead := joins_read joins n ljoins gjoins djoins
    rw [legibleExprs_eq_true] at lgroupBy
    refine ⟨steps, ⟨by simpa using hne, hitems, ?_, ?_, fun e he => hany (hfilter e he), ?_,
      fun e he => hany (hhaving e he)⟩, hrest, fun o ho => hany (horderBy o ho), ?_,
      fun e he => hany (hoffset e he)⟩
    · rintro rfl
      simpa using hjoins
    · intro p hp
      obtain ⟨hsource, hpaired⟩ := mem_paired hp
      exact readsTable_level (hsources _ hsource) fun L hL j hj => hjoinsRead j (hpaired j hj) L hL
    · exact fun e he => ⟨hany (hgroupBy e he (lgroupBy e he)), (e.leads (lgroupBy e he)).opens⟩
    · exact fun e he => ⟨hany (hlimit e he), (e.leads (legibleOption_eq_true.1 llimit e he)).opens⟩

theorem rest_reads : ∀ (o : Option SetOperation) (n : Nat), legibleRest o = true →
    groupedRest .written o = true → restDepth o ≤ n → ∃ steps, ReadsRest (level n) o steps
  | none, _, _, _, _ => ⟨[], readsRest_none⟩
  | some ⟨op, all, .select s⟩, n, hlegible, hgrouped, hdepth => by
    simp only [legibleRest, Query.legible, Bool.and_eq_true] at hlegible
    simp only [groupedRest, Query.grouped] at hgrouped
    simp only [restDepth, Query.depth, Nat.add_sub_cancel] at hdepth
    obtain ⟨steps, hchain⟩ := s.readsChain n hlegible.2 hgrouped hdepth
    exact ⟨_, hchain.readsRest hlegible.1 op all⟩
  | some ⟨_, _, .withCtes _ _ _⟩, _, hlegible, _, _ => by
    simp [legibleRest, Query.isOperand] at hlegible
  | some ⟨_, _, .raw _⟩, _, hlegible, _, _ => by simp [legibleRest, Query.isOperand] at hlegible

theorem items_read : ∀ (is : List SelectItem) (n : Nat), legibleItems is = true →
    groupedItems .written is = true → itemDepths is ≤ n → ∀ i ∈ is, ReadsItem (level n) true i
  | [], _, _, _, _ => nofun
  | i :: is, n, hlegible, hgrouped, hdepth => by
    rw [legibleItems, Bool.and_eq_true] at hlegible
    rw [groupedItems, Bool.and_eq_true] at hgrouped
    rw [itemDepths, Nat.max_le] at hdepth
    exact List.forall_mem_cons.2 ⟨i.reads n hlegible.1 hgrouped.1 hdepth.1,
      items_read is n hlegible.2 hgrouped.2 hdepth.2⟩

theorem SelectItem.reads : ∀ (i : SelectItem) (n : Nat), i.legible = true →
    i.grouped .written = true → i.depth ≤ n → ReadsItem (level n) true i
  | .wildcard, _, _, _, _ => readsItem_wildcard
  | .wildcardOf table, _, hlegible, _, _ => by
    rw [SelectItem.legible] at hlegible
    exact readsItem_wildcardOf hlegible
  | .expr e a, n, hlegible, hgrouped, hdepth => by
    rw [SelectItem.legible, Bool.and_eq_true] at hlegible
    rw [SelectItem.grouped] at hgrouped
    rw [SelectItem.depth] at hdepth
    have hfits := Expr.fits_of_climbs (fun m => e.climbs m hlegible.1 hgrouped) hdepth
    exact readsItem_legible (hfits.readsAny ⟨rfl, rfl⟩) hlegible.1

theorem order_fits : ∀ (os : List OrderItem) (n : Nat), legibleOrder os = true →
    groupedOrder .written os = true → orderDepths os ≤ n → ∀ o ∈ os, o.expr.Fits n true
  | [], _, _, _, _ => nofun
  | ⟨e, ascending, nullsFirst⟩ :: os, n, hlegible, hgrouped, hdepth => by
    rw [legibleOrder, Bool.and_eq_true] at hlegible
    rw [groupedOrder, Bool.and_eq_true] at hgrouped
    rw [orderDepths, Nat.max_le] at hdepth
    have hfits := Expr.fits_of_climbs (fun m => e.climbs m hlegible.1 hgrouped.1) hdepth.1
    exact List.forall_mem_cons.2 ⟨hfits, order_fits os n hlegible.2 hgrouped.2 hdepth.2⟩

theorem sources_read : ∀ (ss : List Source) (n : Nat), legibleSources ss = true →
    groupedSources .written ss = true → sourceDepths ss ≤ n →
    ∀ s ∈ ss, ∀ L : Level, L.IsAt n → ReadsSource L s
  | [], _, _, _, _ => nofun
  | s :: ss, n, hlegible, hgrouped, hdepth => by
    rw [legibleSources, Bool.and_eq_true] at hlegible
    rw [groupedSources, Bool.and_eq_true] at hgrouped
    rw [sourceDepths, Nat.max_le] at hdepth
    exact List.forall_mem_cons.2 ⟨s.reads n hlegible.1 hgrouped.1 hdepth.1,
      sources_read ss n hlegible.2 hgrouped.2 hdepth.2⟩

theorem Source.reads : ∀ (s : Source) (n : Nat), s.legible = true → s.grouped .written = true →
    s.depth ≤ n → ∀ L : Level, L.IsAt n → ReadsSource L s
  | .table schema name a, _, hlegible, _, _, _, _ => by
    rw [Source.legible, Bool.and_eq_true] at hlegible
    exact readsSource_table hlegible.1
  | .subquery query a, n, hlegible, hgrouped, hdepth, L, hL => by
    rw [Source.legible, Bool.and_eq_true] at hlegible
    rw [Source.grouped] at hgrouped
    rw [Source.depth] at hdepth
    exact readsSource_derived (query.reads n hlegible.1 hgrouped hdepth L hL)
  | .function name args a, n, hlegible, hgrouped, hdepth, L, hL => by
    simp only [Source.legible, Bool.and_eq_true] at hlegible
    rw [Source.grouped] at hgrouped
    rw [Source.depth] at hdepth
    have hargs := fitsCall_of_legible hlegible.1.2 hdepth (exprs_fit args n hgrouped hdepth)
    exact readsSource_function hlegible.1.1 (hargs.readsArguments hL)

theorem joins_read : ∀ (js : List Join) (n : Nat), legibleJoins js = true →
    groupedJoins .written js = true → joinDepths js ≤ n →
    ∀ j ∈ js, ∀ L : Level, L.IsAt n → ReadsJoin L j
  | [], _, _, _, _ => nofun
  | ⟨kind, source, condition⟩ :: js, n, hlegible, hgrouped, hdepth => by
    simp only [legibleJoins, Bool.and_eq_true] at hlegible
    simp only [groupedJoins, Bool.and_eq_true] at hgrouped
    rw [joinDepths, Nat.max_le, Nat.max_le] at hdepth
    have hsource := source.reads n hlegible.1.1.1 hgrouped.1.1 hdepth.1
    have hon := condition_fits condition n hlegible.1.2 hgrouped.1.2 hdepth.2.1
    refine List.forall_mem_cons.2
      ⟨fun L hL => ⟨hsource L hL, fun e he => (hon e he).readsAny hL, ?_, ?_⟩,
        joins_read js n hlegible.2 hgrouped.2 hdepth.2.2⟩
    · rintro names rfl
      simpa [legibleCondition] using hlegible.1.2
    · rintro rfl
      simpa using hlegible.1.1.2

theorem condition_fits : ∀ (c : Option JoinCondition) (n : Nat), legibleCondition c = true →
    groupedCondition .written c = true → conditionDepth c ≤ n →
    ∀ e, c = some (.on e) → e.Fits n true
  | some (.on e), n, hlegible, hgrouped, hdepth, _, rfl => by
    rw [legibleCondition] at hlegible
    rw [groupedCondition] at hgrouped
    rw [conditionDepth] at hdepth
    exact Expr.fits_of_climbs (fun m => e.climbs m hlegible hgrouped) hdepth
  | some (.using _), _, _, _, _, _, h => by cases h
  | some .natural, _, _, _, _, _, h => by cases h
  | none, _, _, _, _, _, h => by cases h

theorem option_fits : ∀ (o : Option Expr) (n : Nat), legibleOption o = true →
    groupedOption .written o = true → optionDepth o ≤ n → ∀ e ∈ o, e.Fits n true
  | none, _, _, _, _ => nofun
  | some e, n, hlegible, hgrouped, hdepth => by
    rw [legibleOption] at hlegible
    rw [groupedOption] at hgrouped
    rw [optionDepth] at hdepth
    rintro _ ⟨⟩
    exact Expr.fits_of_climbs (fun m => e.climbs m hlegible hgrouped) hdepth

theorem exprs_fit : ∀ (es : List Expr) (n : Nat), groupedExprs .written es = true →
    exprDepths es ≤ n → ∀ e ∈ es, e.legible = true → e.Fits n true
  | [], _, _, _ => nofun
  | e :: es, n, hgrouped, hdepth => by
    rw [groupedExprs, Bool.and_eq_true] at hgrouped
    rw [exprDepths, Nat.max_le] at hdepth
    refine List.forall_mem_cons.2 ⟨fun hlegible => ?_, exprs_fit es n hgrouped.2 hdepth.2⟩
    exact Expr.fits_of_climbs (fun m => e.climbs m hlegible hgrouped.1) hdepth.1

theorem whens_fit : ∀ (ws : List (Expr × Expr)) (n : Nat), legibleWhens ws = true →
    groupedWhens .written ws = true → whenDepths ws ≤ n →
    ∀ w ∈ ws, w.1.Fits n true ∧ w.2.Fits n true
  | [], _, _, _, _ => nofun
  | (condition, result) :: ws, n, hlegible, hgrouped, hdepth => by
    simp only [legibleWhens, Bool.and_eq_true] at hlegible
    simp only [groupedWhens, Bool.and_eq_true] at hgrouped
    rw [whenDepths, Nat.max_le, Nat.max_le] at hdepth
    have hcondition :=
      Expr.fits_of_climbs (fun m => condition.climbs m hlegible.1.1 hgrouped.1.1) hdepth.1
    have hresult :=
      Expr.fits_of_climbs (fun m => result.climbs m hlegible.1.2 hgrouped.1.2) hdepth.2.1
    exact List.forall_mem_cons.2 ⟨⟨hcondition, hresult⟩,
      whens_fit ws n hlegible.2 hgrouped.2 hdepth.2.2⟩

theorem Expr.climbs : ∀ (e : Expr) (n : Nat), e.legible = true → e.grouped .written = true →
    e.depth ≤ n + 1 → e.Climbs n true
  | .column none name, _, hlegible, _, _ => by
    rw [Expr.legible] at hlegible
    exact column_climbs hlegible
  | .column (some table) name, _, hlegible, _, _ => by
    rw [Expr.legible, isQualifiedName, Bool.and_eq_true] at hlegible
    exact qualified_climbs hlegible.1
  | .literal value, _, hlegible, _, _ => by
    rw [Expr.legible] at hlegible
    exact literal_climbs hlegible
  | .binary left op right, n, hlegible, hgrouped, hdepth => by
    rw [Expr.legible, Bool.and_eq_true] at hlegible
    simp only [Expr.grouped, Bool.and_eq_true, decide_eq_true_eq] at hgrouped
    rw [Expr.depth, Nat.max_le, Nat.add_le_add_iff_right] at hdepth
    have hright := Expr.fits_of_climbs (fun m => right.climbs m hlegible.2 hgrouped.1.1.2) hdepth.2
    exact binary_climbs op (left.climbs n hlegible.1 hgrouped.1.1.1 hdepth.1) hright
      (right.leads hlegible.2).opens hgrouped.1.2 hgrouped.2
  | .unary op e, n, hlegible, hgrouped, hdepth => by
    rw [Expr.legible, Bool.and_eq_true] at hlegible
    simp only [Expr.grouped, Bool.and_eq_true, decide_eq_true_eq] at hgrouped
    rw [Expr.depth, Nat.add_le_add_iff_right] at hdepth
    have hfits := Expr.fits_of_climbs (fun m => e.climbs m hlegible.1 hgrouped.1) hdepth
    cases op with
    | minus => exact sign_climbs nofun hfits hgrouped.2
    | plus => exact sign_climbs nofun hfits hgrouped.2
    | not =>
      cases e with
      | «exists» q =>
        rw [Expr.legible] at hlegible
        rw [Expr.grouped] at hgrouped
        rw [Expr.depth] at hdepth
        exact notExists_climbs (q.reads n hlegible.1 hgrouped.1 (by omega))
      | _ => exact not_climbs hfits hgrouped.2 ((Expr.leads _ hlegible.1).exists_ne
          (by simpa [UnaryOp.takes, Expr.isExists] using hlegible.2))
  | .call f args, n, hlegible, hgrouped, hdepth => by
    rw [Expr.grouped, Bool.and_eq_true] at hgrouped
    rw [Expr.depth, Nat.add_le_add_iff_right] at hdepth
    have hfit := exprs_fit args n hgrouped.1 hdepth
    cases f with
    | substring =>
      simp only [Expr.legible, Bool.and_eq_true, decide_eq_true_eq] at hlegible
      exact substring_climbs (List.length_pos_iff.1 hlegible.1.1) hlegible.1.2
        fun x hx => hfit x hx (legibleExprs_eq_true.1 hlegible.2 x hx)
    | _ =>
      simp only [Expr.legible, Bool.and_eq_true] at hlegible
      have hargs := fitsCall_of_legible hlegible.2 hdepth hfit
      have hclimbs := logicalCall_climbs hlegible.1 nofun hlegible.2 hargs
      rwa [all_fits] at hclimbs
  | .function name args distinct, n, hlegible, hgrouped, hdepth => by
    simp only [Expr.legible, Bool.and_eq_true] at hlegible
    rw [Expr.grouped] at hgrouped
    rw [Expr.depth, Nat.add_le_add_iff_right] at hdepth
    have hargs := fitsCall_of_legible hlegible.2 hdepth (exprs_fit args n hgrouped hdepth)
    obtain ⟨⟨⟨⟨⟨hname, hupper⟩, haggregate⟩, hlogical⟩, hdistinct⟩, -⟩ := hlegible
    have hclimbs := function_climbs hname (by simpa using hupper) (by simpa using haggregate)
      (by simpa using hlogical) hargs (distinct_ne_nil hdistinct)
    rwa [all_fits] at hclimbs
  | .aggregate name args distinct filter, n, hlegible, hgrouped, hdepth => by
    simp only [Expr.legible, Bool.and_eq_true] at hlegible
    rw [Expr.grouped, Bool.and_eq_true] at hgrouped
    rw [Expr.depth, Nat.add_le_add_iff_right, Nat.max_le] at hdepth
    have hargs := fitsCall_of_legible hlegible.1.2 hdepth.1 (exprs_fit args n hgrouped.1 hdepth.1)
    have hfilter := option_fits filter n hlegible.2 hgrouped.2 hdepth.2
    have hclimbs := aggregate_climbs hlegible.1.1.1 hargs (distinct_ne_nil hlegible.1.1.2) hfilter
    rwa [all_fits] at hclimbs
  | .case operand whens otherwise, n, hlegible, hgrouped, hdepth => by
    simp only [Expr.legible, Bool.and_eq_true] at hlegible
    simp only [Expr.grouped, Bool.and_eq_true] at hgrouped
    rw [Expr.depth, Nat.add_le_add_iff_right, Nat.max_le, Nat.max_le] at hdepth
    have hoperand := option_fits operand n hlegible.1.1.2 hgrouped.1.1 hdepth.1
    have hwhens := whens_fit whens n hlegible.1.2 hgrouped.1.2 hdepth.2.1
    have hotherwise := option_fits otherwise n hlegible.2 hgrouped.2 hdepth.2.2
    refine case_climbs (by simpa using hlegible.1.1.1) (fun x hx => ⟨hoperand x hx, ?_⟩)
      (fun w hw => (hwhens w hw).1) (fun w hw => (hwhens w hw).2) hotherwise
    exact (x.leads (legibleOption_eq_true.1 hlegible.1.1.2 x hx)).opens
  | .subquery q, n, hlegible, hgrouped, hdepth => by
    rw [Expr.legible] at hlegible
    rw [Expr.grouped] at hgrouped
    rw [Expr.depth, Nat.add_le_add_iff_right] at hdepth
    exact subquery_climbs (q.reads n hlegible hgrouped hdepth)
  | .exists q, n, hlegible, hgrouped, hdepth => by
    rw [Expr.legible] at hlegible
    rw [Expr.grouped] at hgrouped
    rw [Expr.depth, Nat.add_le_add_iff_right] at hdepth
    exact exists_climbs (q.reads n hlegible hgrouped hdepth)
  | .inList e list negated, n, hlegible, hgrouped, hdepth => by
    simp only [Expr.legible, Bool.and_eq_true] at hlegible
    simp only [Expr.grouped, Bool.and_eq_true, decide_eq_true_eq] at hgrouped
    rw [Expr.depth, Nat.max_le, Nat.add_le_add_iff_right] at hdepth
    have hlist := exprs_fit list n hgrouped.2 hdepth.2
    have hlegibles := legibleExprs_eq_true.1 hlegible.2
    have hclimbs := inList_climbs negated (by simpa using hlegible.1.1)
      (e.climbs n hlegible.1.2 hgrouped.1.1 hdepth.1) (fun x hx => hlist x hx (hlegibles x hx))
      (fun x hx => (x.leads (hlegibles x hx)).opens) hgrouped.1.2
    rwa [all_fits] at hclimbs
  | .inSubquery e q negated, n, hlegible, hgrouped, hdepth => by
    simp only [Expr.legible, Bool.and_eq_true] at hlegible
    simp only [Expr.grouped, Bool.and_eq_true, decide_eq_true_eq] at hgrouped
    rw [Expr.depth, Nat.max_le, Nat.add_le_add_iff_right] at hdepth
    exact inSubquery_climbs negated (e.climbs n hlegible.1 hgrouped.1.1 hdepth.1)
      (q.reads n hlegible.2 hgrouped.2 hdepth.2 _ ⟨rfl, rfl⟩) hgrouped.1.2
  | .between e low high negated, n, hlegible, hgrouped, hdepth => by
    simp only [Expr.legible, Bool.and_eq_true] at hlegible
    simp only [Expr.grouped, Bool.and_eq_true, decide_eq_true_eq] at hgrouped
    rw [Expr.depth, Nat.max_le, Nat.add_le_add_iff_right, Nat.max_le] at hdepth
    have hlow :=
      Expr.fits_of_climbs (fun m => low.climbs m hlegible.1.2 hgrouped.1.1.1.1.2) hdepth.2.1
    have hhigh :=
      Expr.fits_of_climbs (fun m => high.climbs m hlegible.2 hgrouped.1.1.1.2) hdepth.2.2
    exact between_climbs negated (e.climbs n hlegible.1.1 hgrouped.1.1.1.1.1 hdepth.1) hlow hhigh
      hgrouped.1.1.2 hgrouped.1.2 hgrouped.2
  | .isNull e negated, n, hlegible, hgrouped, hdepth => by
    rw [Expr.legible] at hlegible
    rw [Expr.grouped, Bool.and_eq_true, decide_eq_true_eq] at hgrouped
    rw [Expr.depth] at hdepth
    exact isNull_climbs negated (e.climbs n hlegible hgrouped.1 hdepth) hgrouped.2
  | .cast e dataType, n, hlegible, hgrouped, hdepth => by
    rw [Expr.legible, Bool.and_eq_true] at hlegible
    rw [Expr.grouped] at hgrouped
    rw [Expr.depth, Nat.add_le_add_iff_right] at hdepth
    exact cast_climbs
      (Expr.fits_of_climbs (fun m => e.climbs m hlegible.1 hgrouped) hdepth) hlegible.2
  | .wildcard, _, hlegible, _, _ => by
    rw [Expr.legible] at hlegible
    cases hlegible
  | .parameter index, _, hlegible, _, _ => by
    rw [Expr.legible, decide_eq_true_eq] at hlegible
    exact parameter_climbs hlegible
  | .nested e, n, hlegible, hgrouped, hdepth => by
    rw [Expr.legible] at hlegible
    rw [Expr.grouped] at hgrouped
    rw [Expr.depth, Nat.add_le_add_iff_right] at hdepth
    exact nested_climbs (Expr.fits_of_climbs (fun m => e.climbs m hlegible hgrouped) hdepth)
      (e.leads hlegible).opens

end

namespace Query

/-- The text of a legible query that has the parentheses it needs is read as the query, with all its
names in their places. A statement takes one level of nesting for itself. -/
theorem parse_sql {q : Query} (hlegible : q.legible = true) (hgrouped : q.grouped .written = true)
    (hdepth : q.depth < maxNesting) : Query.parse q.sql = .ok q := by
  have hreads :=
    q.reads (maxNesting - 1) hlegible hgrouped (by omega) (level (maxNesting - 1)) ⟨rfl, rfl⟩
  exact parse_of_reads hlegible (hreads.reads [] followedBy_nil)

/-- A report on common tables, joins, sub-queries and a set operation. Some of its names keep their
quotes. -/
def report : Query :=
  let column (table name : String) : Expr := .column (some table) name
  let totals : Query := .select {
    distinct := true
    projections := [.expr (column "x" "id") (some "a"), .expr (.aggregate "COUNT" [.wildcard] false
      (some (.binary (.column none "n") .gt (.literal (.float 1.5))))) none,
      .expr (.cast (.column none "position") "NUMERIC(10,2)") none]
    sources := [.table (some "s") "t" (some "x")]
    joins := [⟨.left, .table none "c.\"d e\".u" none, some (.using ["id", "\"g h\""])⟩]
    groupBy := [column "x" "id"] }
  let last : Query := .select {
    projections :=
      [.expr (.function "\"LAST OF\"" [.cast (column "v" "n") "ARRAY<VARCHAR(10)>"] false) none]
    sources := [.function "\"f g\"" [.literal (.integer 1)] (some "v")] }
  let others : Query := .select {
    projections := [.wildcardOf "\"a w\""]
    sources := [.subquery
      (.select { projections := [.wildcard], sources := [.table none "k" none] }) "w"] }
  .withCtes true [⟨"r", ["a", "b"], totals⟩] (.select {
    projections := [.expr (column "r" "a") none, .expr (.subquery last) (some "m")]
    sources := [.table none "r" none]
    joins := [⟨.inner, .table none "w" none,
      some (.on (.binary (column "r" "b") .eq (column "w" "b")))⟩]
    filter := some (.unary .not (.exists others))
    orderBy := [⟨.column none "a", some false, some true⟩]
    limit := some (.literal (.integer 10))
    setOperation := some ⟨.union, true, others⟩ })

theorem parse_sql_report :
    report.legible = true ∧ report.grouped .written = true ∧ report.depth < maxNesting ∧
      report.sql = "WITH RECURSIVE r(a, b) AS (SELECT DISTINCT x.id AS a, " ++
        "COUNT(*) FILTER (WHERE n > 1.5), CAST(position AS NUMERIC(10,2)) FROM s.t AS x " ++
        "LEFT JOIN c.\"d e\".u USING (id, \"g h\") GROUP BY x.id) SELECT r.a, " ++
        "(SELECT \"LAST OF\"(CAST(v.n AS ARRAY<VARCHAR(10)>)) FROM \"f g\"(1) AS v) AS m " ++
        "FROM r JOIN w ON r.b = w.b WHERE NOT EXISTS (SELECT \"a w\".* " ++
        "FROM (SELECT * FROM k) AS w) UNION ALL SELECT \"a w\".* FROM (SELECT * FROM k) AS w " ++
        "ORDER BY a DESC NULLS FIRST LIMIT 10" ∧
      Query.parse report.sql = .ok report := by
  have hlegible : report.legible = true := by decide +kernel
  have hdepth : report.depth < maxNesting := by decide +kernel
  exact ⟨hlegible, by decide +kernel, hdepth, by decide +kernel,
    parse_sql hlegible (by decide +kernel) hdepth⟩

/-- The names of one column and one table, each with what stands before and behind it, or those of
one common table. -/
def placedNames : Query → List (Option String)
  | .select { projections := [.expr (.column q c) a], sources := [.table s t b], .. } =>
    [q, some c, a, s, some t, b]
  | .withCtes _ [⟨name, columns, _⟩] _ => some name :: columns.map some
  | _ => []

/-- What is printed for a text, with its names and the names that are read back. -/
def printedNames? (text : String) :
    Option (String × List (Option String) × Option (List (Option String))) := do
  let q ← (parse text).toOption
  return (q.sql, placedNames q, (parse q.sql).toOption.map placedNames)

/-- Columns, qualifiers, aliases, tables, schemas and common tables are printed without the quotes
of their names, so that other names are read back, or none at all. -/
theorem quoted_names_lost :
    printedNames? "SELECT \"a b\" FROM t" = some ("SELECT a b FROM t",
      [none, some "a b", none, none, some "t", none],
      some [none, some "a", some "b", none, some "t", none]) ∧
    printedNames? "SELECT \"a.b\".c FROM t" = some ("SELECT a.b.c FROM t",
      [some "a.b", some "c", none, none, some "t", none],
      some [none, some "a.b.c", none, none, some "t", none]) ∧
    printedNames? "SELECT c AS \"a b\" FROM t" = some ("SELECT c AS a b FROM t",
      [none, some "c", some "a b", none, some "t", none], none) ∧
    printedNames? "SELECT c FROM \"a b\"" = some ("SELECT c FROM a b",
      [none, some "c", none, none, some "a b", none],
      some [none, some "c", none, none, some "a", some "b"]) ∧
    printedNames? "SELECT c FROM s.\"a b\"" = some ("SELECT c FROM s.a b",
      [none, some "c", none, some "s", some "a b", none],
      some [none, some "c", none, some "s", some "a", some "b"]) ∧
    printedNames? "SELECT c FROM \"a b\".t" = some ("SELECT c FROM a b.t",
      [none, some "c", none, some "a b", some "t", none], none) ∧
    printedNames? "SELECT c FROM t AS \"a b\"" = some ("SELECT c FROM t AS a b",
      [none, some "c", none, none, some "t", some "a b"], none) ∧
    printedNames? "WITH \"a(b)\" AS (SELECT c FROM t) SELECT d FROM r" =
      some ("WITH a(b) AS (SELECT c FROM t) SELECT d FROM r", [some "a(b)"],
        some [some "a", some "b"]) ∧
    printedNames? "WITH a(\"b, c\") AS (SELECT c FROM t) SELECT d FROM r" =
      some ("WITH a(b, c) AS (SELECT c FROM t) SELECT d FROM r", [some "a", some "b, c"],
        some [some "a", some "b", some "c"]) := by
  refine ⟨?_, ?_, ?_, ?_, ?_, ?_, ?_, ?_, ?_⟩ <;> decide +kernel

end Query

end LogicalSql
