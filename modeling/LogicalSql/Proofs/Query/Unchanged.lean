import LogicalSql.Proofs.Query.Walk

/-! A walk that meets no call changes nothing, neither the query nor the sources in scope. -/
namespace LogicalSql

variable {α β γ δ : Type}

/-- What stands without calls is the same. -/
def SameWithout (calls : List LogicalFunction) (a b : α) : Prop := calls = [] → b = a

namespace SameWithout

variable {xs ys zs : List LogicalFunction} {a a' : α} {b b' : β} {c c' : γ} {s t u w : Scope}

theorem refl (a : α) : SameWithout xs a a := fun _ => rfl

theorem map (k : α → β) (h : SameWithout xs a a') : SameWithout xs (k a) (k a') :=
  fun hxs => congrArg k (h hxs)

theorem map₂ (k : α → β → γ) (h : SameWithout xs a a') (h' : SameWithout ys b b') :
    SameWithout (xs ++ ys) (k a b) (k a' b') := by
  intro hfree
  obtain ⟨hxs, hys⟩ := List.append_eq_nil_iff.1 hfree
  rw [h hxs, h' hys]

/-- With a scope that is passed on. -/
theorem next (k : α → β) (h : SameWithout xs (a, s) (a', t)) : SameWithout xs (k a, s) (k a', t) :=
  h.map (Prod.map k id)

theorem next₂ (k : α → β → γ) (h : SameWithout xs (a, s) (a', t))
    (h' : SameWithout ys (b, t) (b', u)) : SameWithout (xs ++ ys) (k a b, s) (k a' b', u) := by
  intro hfree
  obtain ⟨hxs, hys⟩ := List.append_eq_nil_iff.1 hfree
  obtain ⟨rfl, rfl⟩ := Prod.mk.inj (h hxs)
  obtain ⟨rfl, rfl⟩ := Prod.mk.inj (h' hys)
  rfl

theorem next₃ (k : α → β → γ → δ) (h : SameWithout xs (a, s) (a', t))
    (h' : SameWithout ys (b, t) (b', u)) (h'' : SameWithout zs (c, u) (c', w)) :
    SameWithout (xs ++ ys ++ zs) (k a b c, s) (k a' b' c', w) :=
  (h.next₂ Prod.mk h').next₂ (fun p => k p.1 p.2) h''

theorem lift (h : SameWithout xs a a') (s : Scope) : SameWithout xs (a, s) (a', s) :=
  h.map (·, s)

end SameWithout

/-- The parts of a query in which a walk meets no call are the same. -/
def WalkSpec.unchanged (ν : Type) : WalkSpec ν where
  query q _ q' := SameWithout (q.harvest .calls {}) q q'
  ctes cs _ cs' := SameWithout (cteHarvest .calls {} cs) cs cs'
  select s _ s' := SameWithout (s.harvest .calls {}) s s'
  rest o _ o' := SameWithout (setOperationHarvest .calls {} o) o o'
  sources ss _ ss' := SameWithout (sourceHarvest .calls {} ss) ss ss'
  source s _ s' := SameWithout (s.harvest .calls {}) s s'
  joined js _ ss := SameWithout (joinSourceHarvest .calls {} js) (js.map Join.source) ss
  conditions js s _ cs t :=
    SameWithout (joinConditionHarvest .calls {} js) (js.map Join.condition, s) (cs, t)
  condition c s _ c' t := SameWithout (conditionHarvest .calls {} (some c)) (c, s) (c', t)
  items is s _ is' t := SameWithout (itemHarvest .calls {} is) (is, s) (is', t)
  item i s _ i' t := SameWithout (i.harvest .calls {}) (i, s) (i', t)
  order os s _ os' t := SameWithout (orderHarvest .calls {} os) (os, s) (os', t)
  option o s _ o' t := SameWithout (optionHarvest .calls {} o) (o, s) (o', t)
  exprs es s _ es' t := SameWithout (exprHarvest .calls {} es) (es, s) (es', t)
  whens ws s _ ws' t := SameWithout (whenHarvest .calls {} ws) (ws, s) (ws', t)
  expr e s _ e' t := SameWithout (e.harvest .calls {}) (e, s) (e', t)

theorem WalkSpec.unchanged_closed (ν : Type) : (unchanged ν).Closed where
  selected h := by simpa only [unchanged, Query.harvest] using h.map Query.select
  withCtes {recursive _ _ _ _ _ _} hctes hbody := by
    simpa only [unchanged, Query.harvest] using hctes.map₂ (Query.withCtes recursive) hbody
  raw text := .refl _
  ctes_nil := .refl _
  ctes_cons {name columns _ _ _ _ _ _} hquery hcs := by
    simpa only [unchanged, cteHarvest] using hquery.map₂ (fun q cs => ⟨name, columns, q⟩ :: cs) hcs
  clauses hsources hjoined _ hprojections hconditions _ hfilter hgroupBy hhaving horderBy hlimit
      hoffset hrest := by
    intro hfree
    simp only [Select.harvest, List.append_eq_nil_iff, and_assoc] at hfree
    obtain ⟨nsources, njoined, nprojections, nconditions, nfilter, ngroupBy, nhaving, norderBy,
      nlimit, noffset, nrest⟩ := hfree
    obtain rfl := hsources nsources
    obtain rfl := hjoined njoined
    obtain ⟨rfl, rfl⟩ := Prod.mk.inj (hprojections nprojections)
    obtain ⟨rfl, rfl⟩ := Prod.mk.inj (hconditions nconditions)
    obtain ⟨rfl, rfl⟩ := Prod.mk.inj (hfilter nfilter)
    obtain ⟨rfl, rfl⟩ := Prod.mk.inj (hgroupBy ngroupBy)
    obtain ⟨rfl, rfl⟩ := Prod.mk.inj (hhaving nhaving)
    obtain ⟨rfl, rfl⟩ := Prod.mk.inj (horderBy norderBy)
    obtain ⟨rfl, rfl⟩ := Prod.mk.inj (hlimit nlimit)
    obtain ⟨rfl, rfl⟩ := Prod.mk.inj (hoffset noffset)
    obtain rfl := hrest nrest
    rw [rejoin_self]
  rest_none := .refl _
  rest_some {op all _ _ _} h := by
    simpa only [unchanged, setOperationHarvest] using h.map (some <| SetOperation.mk op all ·)
  sources_nil := .refl _
  sources_cons hs hss := by simpa only [unchanged, sourceHarvest] using hs.map₂ List.cons hss
  table schema name a := .refl _
  derived {_ _ a _} h := by simpa only [unchanged, Source.harvest] using h.map (Source.subquery · a)
  tableFunction name args a := .refl _
  joined_nil := .refl _
  joined_cons hsource hjs := by
    simpa only [unchanged, joinSourceHarvest, List.map_cons] using hsource.map₂ List.cons hjs
  conditions_nil := .refl _
  conditions_none h := by
    simpa only [unchanged, joinConditionHarvest, conditionHarvest, List.nil_append,
      List.map_cons] using h.next (none :: ·)
  conditions_some hc hcs := by
    simpa only [unchanged, joinConditionHarvest, List.map_cons] using
      hc.next₂ (fun c cs => some c :: cs) hcs
  on h := by simpa only [unchanged, conditionHarvest] using h.next JoinCondition.on
  usingColumns := .refl _
  natural := .refl _
  items_nil := .refl _
  items_cons hi his := by simpa only [unchanged, itemHarvest] using hi.next₂ List.cons his
  wildcard := .refl _
  wildcardOf := .refl _
  field {_ _ a _ _ _} h := by
    simpa only [unchanged, SelectItem.harvest] using h.next (SelectItem.expr · a)
  order_nil := .refl _
  order_cons {_ _ ascending nullsFirst _ _ _ _ _ _ _} he hos := by
    simpa only [unchanged, orderHarvest] using
      he.next₂ (fun e os => ⟨e, ascending, nullsFirst⟩ :: os) hos
  option_none := .refl _
  option_some h := by simpa only [unchanged, optionHarvest] using h.next some
  exprs_nil := .refl _
  exprs_cons he hes := by simpa only [unchanged, exprHarvest] using he.next₂ List.cons hes
  whens_nil := .refl _
  whens_cons hc hr hws := by
    simpa only [unchanged, whenHarvest] using hc.next₃ (fun c r ws => (c, r) :: ws) hr hws
  column := .refl _
  literal := .refl _
  binary {_ _ _ _ op _ _ _ _ _} hl hr := by
    simpa only [unchanged, Expr.harvest] using hl.next₂ (Expr.binary · op ·) hr
  unary {op _ _ _ _ _} h := by simpa only [unchanged, Expr.harvest] using h.next (Expr.unary op)
  function {name _ _ distinct _ _ _} h := by
    simpa only [unchanged, Expr.harvest] using h.next (Expr.function name · distinct)
  aggregate {name _ _ distinct _ _ _ _ _ _ _} hargs hfilter := by
    simpa only [unchanged, Expr.harvest] using
      hargs.next₂ (Expr.aggregate name · distinct ·) hfilter
  case hoperand hwhens hotherwise := by
    simpa only [unchanged, Expr.harvest] using hoperand.next₃ Expr.case hwhens hotherwise
  subquery h := by simpa only [unchanged, Expr.harvest] using (h.map Expr.subquery).lift _
  existsSubquery h := by simpa only [unchanged, Expr.harvest] using (h.map Expr.exists).lift _
  inList {_ _ _ _ negated _ _ _ _ _} he hlist := by
    simpa only [unchanged, Expr.harvest] using he.next₂ (Expr.inList · · negated) hlist
  inSubquery {_ _ _ _ negated _ _ _ _} he hquery := by
    simpa only [unchanged, Expr.harvest] using
      he.next₂ (Expr.inSubquery · · negated) (hquery.lift _)
  between {_ _ _ _ _ _ negated _ _ _ _ _ _ _} he hlow hhigh := by
    simpa only [unchanged, Expr.harvest] using he.next₃ (Expr.between · · · negated) hlow hhigh
  isNull {_ _ negated _ _ _} h := by
    simpa only [unchanged, Expr.harvest] using h.next (Expr.isNull · negated)
  cast {_ _ dataType _ _ _} h := by
    simpa only [unchanged, Expr.harvest] using h.next (Expr.cast · dataType)
  star := .refl _
  parameter := .refl _
  nested h := by simpa only [unchanged, Expr.harvest] using h.next Expr.nested

/-- Says of the first computation alone that it does nothing but return a value. -/
def doingNothing (ν : Type) (m : Type → Type) [Monad m] [LawfulMonad m] : StepLogic ν m m where
  Holds P x _ := ∃ a, P [] a ∧ x = pure a
  pure h := ⟨_, h, rfl⟩
  bind := by
    intro α β P Q x y f g hx hf
    obtain ⟨a, ha, rfl⟩ := hx
    obtain ⟨b, hb, hfa⟩ := hf [] a ha
    exact ⟨b, hb, by rw [pure_bind, hfa]⟩

theorem Query.walk_unchanged {m : Type → Type} [Monad m] [LawfulMonad m] {hook : Hook m} {q : Query}
    (h : q.harvest .calls {} = []) : q.walk hook = pure q := by
  have hrule : (WalkSpec.unchanged Unit).Rule (doingNothing Unit m) (fun _ => True) .calls {}
      (fun _ => False) hook hook :=
    { closed := WalkSpec.unchanged_closed Unit
      start := fun _ _ _ _ => trivial
      call := fun {f _ _ _ _ _} hf => (hf f (List.mem_singleton_self f)).elim }
  have hfree : Within (fun _ => False) (q.harvest .calls {}) := by
    rw [h]
    exact List.forall_mem_nil _
  obtain ⟨q', hq', hwalk⟩ := Query.walk_holds hrule q hfree
  rw [hwalk, hq' h]

end LogicalSql
