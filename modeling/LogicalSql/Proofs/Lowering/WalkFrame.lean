import LogicalSql.Proofs.Lowering.Frame
import LogicalSql.Proofs.Query.Unchanged
import Mathlib.Logic.Relation

/-! Lowering keeps the frame of a query. -/
namespace LogicalSql

open Lowering

variable {mappings : MappingSource} {R : SourceRule}

namespace Lowering

/-- Any number of type columns are looked up. -/
def Grows (mappings : MappingSource) : Scope → Scope → Prop :=
  Relation.ReflTransGen (TypeStep mappings)

variable {w s t : Scope}

theorem RuleKept.sources (hk : RuleKept mappings R) (hs : w.Rel (Source.Framed R) s)
    (h : Grows mappings s t) : w.Rel (Source.Framed R) t := by
  induction h with
  | refl => exact hs
  | tail _ hstep ih =>
    obtain ⟨depth, qualifier, column, e, hstep⟩ := hstep
    exact (typeColumn_frames hk depth).sources ih hstep

theorem RuleKept.rule (hk : RuleKept mappings R) (hs : w.Rel (Source.Framed R) s)
    {qualifier : Option String} {column : String} {e : Expr} (hrule : R w s qualifier column e)
    (h : Grows mappings s t) : R w t qualifier column e := by
  induction h with
  | refl => exact hrule
  | tail hgrows hstep ih => exact hk.stays ih hstep (hk.sources hs (hgrows.tail hstep))

end Lowering

/-- From a scope whose sources are in their frames, only type columns are looked up, and `p` holds
under the rule of any later scope. -/
def Frames (mappings : MappingSource) (R : SourceRule) (s : Scope) (p : TypeRule → Prop)
    (t : Scope) : Prop :=
  ∀ w, w.Rel (Source.Framed R) s → Grows mappings s t ∧ ∀ u, Grows mappings t u → p (R w u)

namespace Frames

variable {s t u v : Scope} {p q r g : TypeRule → Prop}

theorem same (h : ∀ T, p T) : Frames mappings R s p s :=
  fun w _ => ⟨.refl, fun u _ => h (R w u)⟩

theorem map (h : Frames mappings R s p t) (hr : ∀ T, p T → r T) : Frames mappings R s r t :=
  fun w hw => ⟨(h w hw).1, fun u hu => hr _ ((h w hw).2 u hu)⟩

theorem map₂ (hk : RuleKept mappings R) (h : Frames mappings R s p t) (h' : Frames mappings R t q u)
    (hr : ∀ T, p T → q T → r T) : Frames mappings R s r u := by
  intro w hw
  obtain ⟨hst, hp⟩ := h w hw
  obtain ⟨htu, hq⟩ := h' w (hk.sources hw hst)
  exact ⟨hst.trans htu, fun v hv => hr _ (hp v (htu.trans hv)) (hq v hv)⟩

theorem map₃ (hk : RuleKept mappings R) (h : Frames mappings R s p t) (h' : Frames mappings R t q u)
    (h'' : Frames mappings R u r v) (hg : ∀ T, p T → q T → r T → g T) :
    Frames mappings R s g v :=
  (h.map₂ hk h' fun _ => And.intro).map₂ hk h'' fun T hpq => hg T hpq.1 hpq.2

/-- The arguments of a call have their frame when the call is replaced. -/
theorem call (hk : RuleKept mappings R) {f : LogicalFunction} {args args' : List Expr} {e : Expr}
    (hargs : Frames mappings R s (fun T => FramedExprs R T args args') t)
    (h : lowerCall mappings f args' t = .ok (e, u)) :
    Frames mappings R s (fun T => FramedParts R T (.call f args) e) u := by
  intro w hs
  obtain ⟨hst, hframed⟩ := hargs w hs
  obtain ⟨hlowered, rfl⟩ | ⟨table, name, rfl, rfl, htype⟩ := lowerCall_cases h
  · exact ⟨hst, fun v hv => .call (hframed v hv) hlowered⟩
  · have ht := hk.sources hs hst
    have hstep : TypeStep mappings t u := ⟨maxDepth, table, name, e, htype⟩
    have hu := hk.sources ht (.single hstep)
    refine ⟨hst.tail hstep, fun v hv => ?_⟩
    have hrule := hk.rule hu (hk.found ht htype hu) hv
    exact .typeIdentifier (hframed v (.head hstep hv)) (typeColumn_isType htype) hrule

end Frames

/-- Sources and conditions in their frames go back into their joins. -/
theorem FramedJoins.rejoin {T : TypeRule} {joins : List Join} {sources : List Source}
    {conditions : List (Option JoinCondition)}
    (hsources : List.Forall₂ (Source.Framed R) (joins.map Join.source) sources)
    (hconditions : List.Forall₂ (fun j c => FramedCondition R T j.condition c) joins conditions) :
    FramedJoins R T joins (LogicalSql.rejoin (joins.map Join.kind) sources conditions) := by
  induction joins generalizing sources conditions with
  | nil =>
    cases hsources
    cases hconditions
    exact .nil
  | cons j joins ih =>
    obtain ⟨kind, source, condition⟩ := j
    cases hsources with
    | cons hsource hsources =>
      cases hconditions with
      | cons hcondition hconditions => exact .cons hsource hcondition (ih hsources hconditions)

/-- Each part has its frame, and is the same if there are no calls in it. -/
def WalkSpec.framing (mappings : MappingSource) (R : SourceRule) : WalkSpec Unit where
  query q τ q' := (unchanged Unit).query q τ q' ∧ Query.Framed R [] q q'
  ctes cs τ cs' := (unchanged Unit).ctes cs τ cs' ∧ List.Forall₂ (Cte.Framed R) cs cs'
  select s τ s' := (unchanged Unit).select s τ s' ∧ Select.Framed R [] s s'
  rest o τ o' := (unchanged Unit).rest o τ o' ∧ FramedRest R [] o o'
  sources ss τ ss' := (unchanged Unit).sources ss τ ss' ∧ List.Forall₂ (Source.Framed R) ss ss'
  source s τ s' := (unchanged Unit).source s τ s' ∧ Source.Framed R s s'
  joined js τ ss :=
    (unchanged Unit).joined js τ ss ∧ List.Forall₂ (Source.Framed R) (js.map Join.source) ss
  conditions js s τ cs t := (unchanged Unit).conditions js s τ cs t ∧ Frames mappings R s
    (fun T => List.Forall₂ (fun j c => FramedCondition R T j.condition c) js cs) t
  condition c s τ c' t := (unchanged Unit).condition c s τ c' t ∧
    Frames mappings R s (fun T => FramedCondition R T (some c) (some c')) t
  items is s τ is' t := (unchanged Unit).items is s τ is' t ∧
    Frames mappings R s (fun T => FramedItems R T is is') t
  item i s τ i' t := (unchanged Unit).item i s τ i' t ∧
    Frames mappings R s (fun T => SelectItem.Framed R T i i') t
  order os s τ os' t := (unchanged Unit).order os s τ os' t ∧
    Frames mappings R s (fun T => FramedOrder R T os os') t
  option o s τ o' t := (unchanged Unit).option o s τ o' t ∧
    Frames mappings R s (fun T => FramedOption R T o o') t
  exprs es s τ es' t := (unchanged Unit).exprs es s τ es' t ∧
    Frames mappings R s (fun T => FramedExprs R T es es') t
  whens ws s τ ws' t := (unchanged Unit).whens ws s τ ws' t ∧
    Frames mappings R s (fun T => FramedWhens R T ws ws') t
  expr e s τ e' t := (unchanged Unit).expr e s τ e' t ∧
    Frames mappings R s (fun T => Expr.Framed R T e e') t

/-- Parts in their frame make an expression in its frame. -/
theorem WalkSpec.framing_expr {e e' : Expr} {s t : Scope} {τ : List Unit}
    (hsame : (unchanged Unit).expr e s τ e' t)
    (h : Frames mappings R s (fun T => FramedParts R T e e') t) :
    (framing mappings R).expr e s τ e' t :=
  ⟨hsame, h.map fun _ hparts => .intro hparts fun hfree => congrArg Prod.fst (hsame hfree)⟩

/-- The parts of a `SELECT` put together. The rule is that of the scope which the last clause
leaves. -/
theorem Select.framed_of_clauses (hk : RuleKept mappings R) {distinct : Bool}
    {projections projections' : List SelectItem} {sources sources' joined : List Source}
    {joins : List Join} {conditions : List (Option JoinCondition)}
    {filter filter' having having' limit limit' offset offset' : Option Expr}
    {groupBy groupBy' : List Expr} {orderBy orderBy' : List OrderItem}
    {setOperation setOperation' : Option SetOperation} {s₁ s₂ s₃ s₄ s₅ s₆ s₇ s₈ : Scope}
    (hsources : List.Forall₂ (Source.Framed R) sources sources')
    (hjoined : List.Forall₂ (Source.Framed R) (joins.map Join.source) joined)
    (hprojections : Frames mappings R ⟨sources', joined⟩
      (fun T => FramedItems R T projections projections') s₁)
    (hconditions : Frames mappings R s₁
      (fun T => List.Forall₂ (fun j c => FramedCondition R T j.condition c) joins conditions) s₂)
    (hcount : conditions.length = joins.length)
    (hfilter : Frames mappings R s₂ (fun T => FramedOption R T filter filter') s₃)
    (hgroupBy : Frames mappings R s₃ (fun T => FramedExprs R T groupBy groupBy') s₄)
    (hhaving : Frames mappings R s₄ (fun T => FramedOption R T having having') s₅)
    (horderBy : Frames mappings R s₅ (fun T => FramedOrder R T orderBy orderBy') s₆)
    (hlimit : Frames mappings R s₆ (fun T => FramedOption R T limit limit') s₇)
    (hoffset : Frames mappings R s₇ (fun T => FramedOption R T offset offset') s₈)
    (hrest : FramedRest R [] setOperation setOperation') :
    Select.Framed R [] ⟨distinct, projections, sources, joins, filter, groupBy, having, orderBy,
        limit, offset, setOperation⟩
      ⟨distinct, projections', s₈.sources, rejoin (joins.map Join.kind) s₈.joined conditions,
        filter', groupBy', having', orderBy', limit', offset', setOperation'⟩ := by
  have hstart : Scope.Rel (Source.Framed R) ⟨sources, joins.map Join.source⟩ ⟨sources', joined⟩ :=
    ⟨hsources, hjoined⟩
  obtain ⟨g₁, fprojections⟩ := hprojections _ hstart
  have hs₁ := hk.sources hstart g₁
  obtain ⟨g₂, fconditions⟩ := hconditions _ hs₁
  have hs₂ := hk.sources hs₁ g₂
  obtain ⟨g₃, ffilter⟩ := hfilter _ hs₂
  have hs₃ := hk.sources hs₂ g₃
  obtain ⟨g₄, fgroupBy⟩ := hgroupBy _ hs₃
  have hs₄ := hk.sources hs₃ g₄
  obtain ⟨g₅, fhaving⟩ := hhaving _ hs₄
  have hs₅ := hk.sources hs₄ g₅
  obtain ⟨g₆, forderBy⟩ := horderBy _ hs₅
  have hs₆ := hk.sources hs₅ g₆
  obtain ⟨g₇, flimit⟩ := hlimit _ hs₆
  have hs₇ := hk.sources hs₆ g₇
  obtain ⟨g₈, foffset⟩ := hoffset _ hs₇
  have hrel := hk.sources hs₇ g₈
  -- what is left to do behind each clause
  have k₇ := g₈
  have k₆ := g₇.trans k₇
  have k₅ := g₆.trans k₆
  have k₄ := g₅.trans k₅
  have k₃ := g₄.trans k₄
  have k₂ := g₃.trans k₃
  have k₁ := g₂.trans k₂
  have hs := hrel.joined.length_eq.symm.trans (List.length_map _)
  obtain ⟨hrejoined, -⟩ := map_rejoin hs hcount
  refine .intro ?_ (fprojections _ k₁) .none hrel.sources (.rejoin hrel.joined (fconditions _ k₂))
    (ffilter _ k₃) (fgroupBy _ k₄) (fhaving _ k₅) (forderBy _ k₆) (flimit _ k₇) (foffset _ .refl)
    hrest
  intro table name e hT
  rw [hrejoined]
  exact hT

theorem WalkSpec.framing_closed (hk : RuleKept mappings R) : (framing mappings R).Closed :=
  have hsame := unchanged_closed Unit
  { selected := fun h => ⟨hsame.selected h.1, .select h.2⟩
    withCtes := fun hctes hbody => ⟨hsame.withCtes hctes.1 hbody.1, .withCtes hctes.2 hbody.2⟩
    raw := fun text => ⟨hsame.raw text, .raw text⟩
    ctes_nil := ⟨hsame.ctes_nil, .nil⟩
    ctes_cons := fun hquery hcs =>
      ⟨hsame.ctes_cons hquery.1 hcs.1, .cons (.intro hquery.2) hcs.2⟩
    clauses := fun hsources hjoined hlength hprojections hconditions hcount hfilter hgroupBy hhaving
        horderBy hlimit hoffset hrest =>
      ⟨hsame.clauses hsources.1 hjoined.1 hlength hprojections.1 hconditions.1 hcount hfilter.1
          hgroupBy.1 hhaving.1 horderBy.1 hlimit.1 hoffset.1 hrest.1,
        Select.framed_of_clauses hk hsources.2 hjoined.2 hprojections.2 hconditions.2 hcount
          hfilter.2 hgroupBy.2 hhaving.2 horderBy.2 hlimit.2 hoffset.2 hrest.2⟩
    rest_none := ⟨hsame.rest_none, .none⟩
    rest_some := fun h => ⟨hsame.rest_some h.1, .some h.2⟩
    sources_nil := ⟨hsame.sources_nil, .nil⟩
    sources_cons := fun hs hss => ⟨hsame.sources_cons hs.1 hss.1, .cons hs.2 hss.2⟩
    table := fun schema name a => ⟨hsame.table schema name a, .table schema name a⟩
    derived := fun h => ⟨hsame.derived h.1, .subquery _ h.2⟩
    tableFunction := fun name args a => ⟨hsame.tableFunction name args a, .function name args a⟩
    joined_nil := ⟨hsame.joined_nil, .nil⟩
    joined_cons := fun hs hjs => ⟨hsame.joined_cons hs.1 hjs.1, .cons hs.2 hjs.2⟩
    conditions_nil := ⟨hsame.conditions_nil, .same fun _ => .nil⟩
    conditions_none := fun h => ⟨hsame.conditions_none h.1, h.2.map fun _ => .cons .none⟩
    conditions_some := fun hc hcs =>
      ⟨hsame.conditions_some hc.1 hcs.1, hc.2.map₂ hk hcs.2 fun _ hc hcs => .cons hc hcs⟩
    on := fun h => ⟨hsame.on h.1, h.2.map fun _ => .on⟩
    usingColumns := ⟨hsame.usingColumns, .same fun _ => .using _⟩
    natural := ⟨hsame.natural, .same fun _ => .natural⟩
    items_nil := ⟨hsame.items_nil, .same fun _ => .nil⟩
    items_cons := fun hi his => ⟨hsame.items_cons hi.1 his.1, hi.2.map₂ hk his.2 fun _ => .cons⟩
    wildcard := ⟨hsame.wildcard, .same fun _ => .wildcard⟩
    wildcardOf := ⟨hsame.wildcardOf, .same fun _ => .wildcardOf _⟩
    field := fun h => ⟨hsame.field h.1, h.2.map fun _ => .expr _⟩
    order_nil := ⟨hsame.order_nil, .same fun _ => .nil⟩
    order_cons := fun he hos => ⟨hsame.order_cons he.1 hos.1, he.2.map₂ hk hos.2 fun _ => .cons⟩
    option_none := ⟨hsame.option_none, .same fun _ => .none⟩
    option_some := fun h => ⟨hsame.option_some h.1, h.2.map fun _ => .some⟩
    exprs_nil := ⟨hsame.exprs_nil, .same fun _ => .nil⟩
    exprs_cons := fun he hes => ⟨hsame.exprs_cons he.1 hes.1, he.2.map₂ hk hes.2 fun _ => .cons⟩
    whens_nil := ⟨hsame.whens_nil, .same fun _ => .nil⟩
    whens_cons := fun hc hr hws =>
      ⟨hsame.whens_cons hc.1 hr.1 hws.1, hc.2.map₃ hk hr.2 hws.2 fun _ => .cons⟩
    column := framing_expr hsame.column (.same fun _ => .column _ _)
    literal := framing_expr hsame.literal (.same fun _ => .literal _)
    binary := fun hl hr =>
      framing_expr (hsame.binary hl.1 hr.1) (hl.2.map₂ hk hr.2 fun _ => .binary _)
    unary := fun h => framing_expr (hsame.unary h.1) (h.2.map fun _ => .unary _)
    function := fun h => framing_expr (hsame.function h.1) (h.2.map fun _ => .function _ _)
    aggregate := fun hargs hfilter => framing_expr (hsame.aggregate hargs.1 hfilter.1)
      (hargs.2.map₂ hk hfilter.2 fun _ => .aggregate _ _)
    case := fun hoperand hwhens hotherwise =>
      framing_expr (hsame.case hoperand.1 hwhens.1 hotherwise.1)
        (hoperand.2.map₃ hk hwhens.2 hotherwise.2 fun _ => .case)
    subquery := fun h => framing_expr (hsame.subquery h.1) (.same fun _ => .subquery h.2)
    existsSubquery := fun h =>
      framing_expr (hsame.existsSubquery h.1) (.same fun _ => .exists h.2)
    inList := fun he hlist =>
      framing_expr (hsame.inList he.1 hlist.1) (he.2.map₂ hk hlist.2 fun _ => .inList _)
    inSubquery := fun he hquery => framing_expr (hsame.inSubquery he.1 hquery.1)
      (he.2.map fun _ he => .inSubquery _ he hquery.2)
    between := fun he hlow hhigh => framing_expr (hsame.between he.1 hlow.1 hhigh.1)
      (he.2.map₃ hk hlow.2 hhigh.2 fun _ => .between _)
    isNull := fun h => framing_expr (hsame.isNull h.1) (h.2.map fun _ => .isNull _)
    cast := fun h => framing_expr (hsame.cast h.1) (h.2.map fun _ => .cast _)
    star := framing_expr hsame.star (.same fun _ => .wildcard)
    parameter := framing_expr hsame.parameter (.same fun _ => .parameter _)
    nested := fun h => framing_expr (hsame.nested h.1) (h.2.map fun _ => .nested) }

theorem Query.walk_framed (hk : RuleKept mappings R) (q : Query) :
    Yields (q.walk (lowerCall mappings)) (Query.Framed R [] q) := by
  have hrule : (WalkSpec.framing mappings R).Rule (returning Unit LoweringError) (fun _ => True)
      Harvest.names {} (fun _ => True) (lowerCall mappings) (lowerCall mappings) :=
    { closed := WalkSpec.framing_closed hk
      start := fun _ _ _ _ => trivial
      call := by
        intro f args args' s t τ _ _ hargs
        refine ⟨trivial, fun r hr => ⟨trivial, WalkSpec.framing_expr ?_ (.call hk hargs.2 hr)⟩⟩
        intro hfree
        simp [Expr.harvest, Harvest.calls] at hfree }
  intro q' h
  exact ((Query.walk_holds hrule q fun _ _ => trivial).2 q' h).2

theorem Query.lower_framed (hk : RuleKept mappings R) {q q' : Query}
    (h : q.lower mappings = .ok q') : q.Framed R [] q' :=
  Query.walk_framed hk q q' h

/-- Any type will do. -/
def SourceRule.any : SourceRule := fun _ _ _ _ _ => True

theorem SourceRule.any_kept (mappings : MappingSource) :
    RuleKept mappings .any where
  found _ _ _ := trivial
  stays _ _ _ := trivial

namespace Query

/-- The whole run keeps the frame. The query itself, its common table expressions and the queries
inside expressions gain no fields. -/
theorem runAll_framed {q q' : Query}
    (h : Pass.runAll (Pass.defaults mappings) q = .ok q') : q.Framed .any [] q' := by
  rw [Pass.runAll_defaults] at h
  exact lower_framed (SourceRule.any_kept mappings) h

/-- The type is asked for in a condition of a join. The derived table gains a field in both of its
branches, and the query around it gains none. -/
theorem joined_union_framed :
    let branch := fun (types : List SelectItem) (rest : Option SetOperation) => Query.select
      { projections := .expr (.column none "_fld10rref") (some "item") :: types
        sources := [.table none "_Document9" none]
        setOperation := rest }
    let union := fun types => branch types (some ⟨.union, true, branch types none⟩)
    let joined := fun types condition => Query.select
      { projections := [.wildcardOf "t", .expr (.column (some "u") "item") none]
        sources := [.table none "t" none]
        joins := [⟨.left, .subquery (union types) "u", some (.on condition)⟩,
          ⟨.cross, .table none "s" none, none⟩] }
    let typed := fun type => Expr.binary (.column (some "t") "type") .eq type
    let q := joined [] (typed (.call .typeIdentifier [.column (some "u") "item"]))
    let q' := joined [.expr (.literal (.binary [0, 0, 0, 5])) (some "item_Type")]
      (typed (.column (some "u") "item_Type"))
    Pass.runAll (Pass.defaults orderMappings) q = .ok q' ∧ q.Framed .any [] q' := by
  intro branch union joined typed q q'
  have h : Pass.runAll (Pass.defaults orderMappings) q = .ok q' := rfl
  exact ⟨h, runAll_framed h⟩

end Query

end LogicalSql
