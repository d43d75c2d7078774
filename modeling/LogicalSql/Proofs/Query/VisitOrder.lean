import LogicalSql.Proofs.Query.Tours
import LogicalSql.Proofs.Query.Walk

/-! A walk that only keeps a record leaves a query as it is, and meets each of its calls once. -/
namespace LogicalSql

variable {α β : Type}

/-- The step leaves `a` and adds these visits to the record. -/
def Records (m : Visiting α) (a : α) (visits : List Visit) : Prop :=
  ∀ log, m.run.run log = (.ok a, log ++ visits)

namespace Records

variable {m : Visiting α} {k : α → Visiting β} {a : α} {b : β} {vs ws : List Visit}

theorem pure (a : α) : Records (Pure.pure a) a [] := by
  intro log
  rw [List.append_nil]
  rfl

theorem bind (hm : Records m a vs) (hk : Records (k a) b ws) : Records (m >>= k) b (vs ++ ws) := by
  intro log
  rw [run_bind, hm log, ← List.append_assoc]
  exact hk _

end Records

/-- Says of the first computation alone what it returns and what it adds to the record. -/
def noting : StepLogic Visit Visiting Visiting where
  Holds P x _ := ∃ a visits, Records x a visits ∧ P visits a
  pure h := ⟨_, [], .pure _, h⟩
  bind := by
    intro α β P Q x y f g hx hf
    obtain ⟨a, vs, hrecords, ha⟩ := hx
    obtain ⟨b, ws, hrecords', hb⟩ := hf vs a ha
    exact ⟨b, vs ++ ws, hrecords.bind hrecords', hb⟩

/-- The calls at and below these nodes, one node after the other. -/
def Tours (ns : List Node) (visits : List Visit) : Prop :=
  ∃ tours, List.Forall₂ Toured ns tours ∧ tours.flatten = visits

namespace Tours

variable {ns ns' : List Node} {vs ws : List Visit} {s : Scope}

theorem nil : Tours [] [] := ⟨[], .nil, rfl⟩

theorem append (h : Tours ns vs) (h' : Tours ns' ws) : Tours (ns ++ ns') (vs ++ ws) := by
  obtain ⟨tours, htours, rfl⟩ := h
  obtain ⟨tours', htours', rfl⟩ := h'
  exact ⟨tours ++ tours', List.rel_append htours htours', List.flatten_append⟩

/-- All calls below a node that is no call itself. -/
theorem node {n : Node} (hvisit : n.visit? = none) (h : Tours (n.children.map Prod.snd) vs) :
    Tours [n] vs := by
  obtain ⟨tours, htours, rfl⟩ := h
  have htoured := toured_of_children (List.forall₂_map_left_iff.1 htours)
  rw [hvisit] at htoured
  exact ⟨[tours.flatten ++ []], .cons htoured .nil, by simp⟩

theorem expr {e : Expr} (hcall : e.arguments = []) (hvisit : (Node.expr s e).visit? = none)
    (h : Tours (e.parts s) vs) : Tours [.expr s e] vs := by
  refine node hvisit ?_
  simpa [Node.children, hcall, map_snd_indexed] using h

/-- A call comes behind those in its arguments. -/
theorem call {f : LogicalFunction} {args : List Expr} (h : Tours (args.map (.expr s)) vs) :
    Tours [.expr s (.call f args)] (vs ++ [.of f args s]) := by
  obtain ⟨tours, htours, rfl⟩ := h
  have hchildren : (Node.expr s (.call f args)).children.map Prod.snd = args.map (.expr s) := by
    simp [Node.children, Expr.arguments, Expr.parts, map_snd_indexed]
  rw [← hchildren, List.forall₂_map_left_iff] at htours
  exact ⟨_, .cons (toured_of_children htours) .nil, List.flatten_singleton⟩

end Tours

/-- Records every call and leaves it as it is. -/
abbrev recording : Hook Visiting := VisitRule.hook {}

theorem records_recording (f : LogicalFunction) (args : List Expr) (s : Scope) :
    Records (recording f args s) (.call f args, s) [.of f args s] := by
  intro log
  cases args <;> rfl

/-- The nodes below a `SELECT`, in the order of its walk. -/
theorem Select.map_children (s : Select) :
    s.children.map Prod.snd = s.sources.filterMap Source.node? ++
      (s.joins.filterMap (·.source.node?) ++ ((s.projections.filterMap (·.node? s.scope) ++
      (s.joins.filterMap (·.condition.bind (·.node? s.scope)) ++
      (s.filter.toList.map (.expr s.scope) ++ (s.groupBy.map (.expr s.scope) ++
      (s.having.toList.map (.expr s.scope) ++ (s.orderBy.map (.expr s.scope ·.expr) ++
      (s.limit.toList.map (.expr s.scope) ++ s.offset.toList.map (.expr s.scope)))))))) ++
      s.setOperation.toList.map (.query ·.right))) := by
  have hoption : ∀ {α : Type} (o : Option α) (f : α → Node) (step : Step),
      ((o.map f).map (step, ·)).toList.map Prod.snd = o.toList.map f := by
    intro α o f step
    cases o <;> rfl
  simp only [children, List.map_append, map_snd_indexed, hoption, List.filterMap_eq_map',
    List.nil_append, List.append_assoc]

/-- Each part is left as it is, and the calls in it are met. -/
def WalkSpec.touring : WalkSpec Visit where
  query q τ q' := q' = q ∧ Tours [.query q] τ
  ctes cs τ cs' := cs' = cs ∧ Tours (cs.map (.query ·.query)) τ
  select s τ s' := s' = s ∧ Tours (s.children.map Prod.snd) τ
  rest o τ o' := o' = o ∧ Tours (o.toList.map (.query ·.right)) τ
  sources ss τ ss' := ss' = ss ∧ Tours (ss.filterMap Source.node?) τ
  source s τ s' := s' = s ∧ Tours ([s].filterMap Source.node?) τ
  joined js τ ss := ss = js.map Join.source ∧ Tours (js.filterMap (·.source.node?)) τ
  conditions js s τ cs t := cs = js.map Join.condition ∧ t = s ∧
    Tours (js.filterMap (·.condition.bind (·.node? s))) τ
  condition c s τ c' t := c' = c ∧ t = s ∧ Tours ([c].filterMap (·.node? s)) τ
  items is s τ is' t := is' = is ∧ t = s ∧ Tours (is.filterMap (·.node? s)) τ
  item i s τ i' t := i' = i ∧ t = s ∧ Tours ([i].filterMap (·.node? s)) τ
  order os s τ os' t := os' = os ∧ t = s ∧ Tours (os.map (.expr s ·.expr)) τ
  option o s τ o' t := o' = o ∧ t = s ∧ Tours (o.toList.map (.expr s)) τ
  exprs es s τ es' t := es' = es ∧ t = s ∧ Tours (es.map (.expr s)) τ
  whens ws s τ ws' t := ws' = ws ∧ t = s ∧
    Tours ((ws.flatMap fun w => [w.1, w.2]).map (.expr s)) τ
  expr e s τ e' t := e' = e ∧ t = s ∧ Tours [.expr s e] τ

theorem WalkSpec.touring_closed : touring.Closed where
  selected h := by
    obtain ⟨rfl, h⟩ := h
    exact ⟨rfl, .node rfl h⟩
  withCtes hctes hbody := by
    obtain ⟨rfl, hctes⟩ := hctes
    obtain ⟨rfl, hbody⟩ := hbody
    refine ⟨rfl, .node rfl ?_⟩
    simpa [Node.children, map_snd_indexed] using hctes.append hbody
  raw text := ⟨rfl, .node rfl .nil⟩
  ctes_nil := ⟨rfl, .nil⟩
  ctes_cons hquery hcs := by
    obtain ⟨rfl, hquery⟩ := hquery
    obtain ⟨rfl, hcs⟩ := hcs
    exact ⟨rfl, hquery.append hcs⟩
  clauses hsources hjoined _ hprojections hconditions _ hfilter hgroupBy hhaving horderBy hlimit
      hoffset hrest := by
    obtain ⟨rfl, hsources⟩ := hsources
    obtain ⟨rfl, hjoined⟩ := hjoined
    obtain ⟨rfl, rfl, hprojections⟩ := hprojections
    obtain ⟨rfl, rfl, hconditions⟩ := hconditions
    obtain ⟨rfl, rfl, hfilter⟩ := hfilter
    obtain ⟨rfl, rfl, hgroupBy⟩ := hgroupBy
    obtain ⟨rfl, rfl, hhaving⟩ := hhaving
    obtain ⟨rfl, rfl, horderBy⟩ := horderBy
    obtain ⟨rfl, rfl, hlimit⟩ := hlimit
    obtain ⟨rfl, rfl, hoffset⟩ := hoffset
    obtain ⟨rfl, hrest⟩ := hrest
    -- a `SELECT` with its joins taken apart and put together again
    simp only [touring, rejoin_self, Select.map_children, true_and]
    exact hsources.append <| hjoined.append <| .append (hprojections.append <|
      hconditions.append <| hfilter.append <| hgroupBy.append <| hhaving.append <|
      horderBy.append <| hlimit.append hoffset) hrest
  rest_none := ⟨rfl, .nil⟩
  rest_some h := by
    obtain ⟨rfl, h⟩ := h
    exact ⟨rfl, h⟩
  sources_nil := ⟨rfl, .nil⟩
  sources_cons hs hss := by
    obtain ⟨rfl, hs⟩ := hs
    obtain ⟨rfl, hss⟩ := hss
    refine ⟨rfl, ?_⟩
    rw [← List.singleton_append, List.filterMap_append]
    exact hs.append hss
  table schema name a := ⟨rfl, .nil⟩
  derived h := by
    obtain ⟨rfl, h⟩ := h
    exact ⟨rfl, h⟩
  tableFunction name args a := ⟨rfl, .nil⟩
  joined_nil := ⟨rfl, .nil⟩
  joined_cons hsource hjs := by
    obtain ⟨rfl, hsource⟩ := hsource
    obtain ⟨rfl, hjs⟩ := hjs
    refine ⟨rfl, ?_⟩
    rw [← List.singleton_append, List.filterMap_append]
    exact hsource.append hjs
  conditions_nil := ⟨rfl, rfl, .nil⟩
  conditions_none h := by
    obtain ⟨rfl, rfl, h⟩ := h
    exact ⟨rfl, rfl, h⟩
  conditions_some hc hcs := by
    obtain ⟨rfl, rfl, hc⟩ := hc
    obtain ⟨rfl, rfl, hcs⟩ := hcs
    refine ⟨rfl, rfl, ?_⟩
    rw [← List.singleton_append, List.filterMap_append]
    exact hc.append hcs
  on h := by
    obtain ⟨rfl, rfl, h⟩ := h
    exact ⟨rfl, rfl, h⟩
  usingColumns := ⟨rfl, rfl, .nil⟩
  natural := ⟨rfl, rfl, .nil⟩
  items_nil := ⟨rfl, rfl, .nil⟩
  items_cons hi his := by
    obtain ⟨rfl, rfl, hi⟩ := hi
    obtain ⟨rfl, rfl, his⟩ := his
    refine ⟨rfl, rfl, ?_⟩
    rw [← List.singleton_append, List.filterMap_append]
    exact hi.append his
  wildcard := ⟨rfl, rfl, .nil⟩
  wildcardOf := ⟨rfl, rfl, .nil⟩
  field h := by
    obtain ⟨rfl, rfl, h⟩ := h
    exact ⟨rfl, rfl, h⟩
  order_nil := ⟨rfl, rfl, .nil⟩
  order_cons he hos := by
    obtain ⟨rfl, rfl, he⟩ := he
    obtain ⟨rfl, rfl, hos⟩ := hos
    exact ⟨rfl, rfl, he.append hos⟩
  option_none := ⟨rfl, rfl, .nil⟩
  option_some h := by
    obtain ⟨rfl, rfl, h⟩ := h
    exact ⟨rfl, rfl, h⟩
  exprs_nil := ⟨rfl, rfl, .nil⟩
  exprs_cons he hes := by
    obtain ⟨rfl, rfl, he⟩ := he
    obtain ⟨rfl, rfl, hes⟩ := hes
    exact ⟨rfl, rfl, he.append hes⟩
  whens_nil := ⟨rfl, rfl, .nil⟩
  whens_cons hc hr hws := by
    obtain ⟨rfl, rfl, hc⟩ := hc
    obtain ⟨rfl, rfl, hr⟩ := hr
    obtain ⟨rfl, rfl, hws⟩ := hws
    exact ⟨rfl, rfl, hc.append (hr.append hws)⟩
  column := ⟨rfl, rfl, .expr rfl rfl .nil⟩
  literal := ⟨rfl, rfl, .expr rfl rfl .nil⟩
  binary hl hr := by
    obtain ⟨rfl, rfl, hl⟩ := hl
    obtain ⟨rfl, rfl, hr⟩ := hr
    exact ⟨rfl, rfl, .expr rfl rfl (hl.append hr)⟩
  unary h := by
    obtain ⟨rfl, rfl, h⟩ := h
    exact ⟨rfl, rfl, .expr rfl rfl h⟩
  function h := by
    obtain ⟨rfl, rfl, h⟩ := h
    exact ⟨rfl, rfl, .expr rfl rfl h⟩
  aggregate hargs hfilter := by
    obtain ⟨rfl, rfl, hargs⟩ := hargs
    obtain ⟨rfl, rfl, hfilter⟩ := hfilter
    refine ⟨rfl, rfl, .expr rfl rfl ?_⟩
    rw [Expr.parts, List.map_append]
    exact hargs.append hfilter
  case hoperand hwhens hotherwise := by
    obtain ⟨rfl, rfl, hoperand⟩ := hoperand
    obtain ⟨rfl, rfl, hwhens⟩ := hwhens
    obtain ⟨rfl, rfl, hotherwise⟩ := hotherwise
    refine ⟨rfl, rfl, .expr rfl rfl ?_⟩
    rw [Expr.parts, List.append_assoc, List.map_append, List.map_append]
    exact hoperand.append (hwhens.append hotherwise)
  subquery h := by
    obtain ⟨rfl, h⟩ := h
    exact ⟨rfl, rfl, .expr rfl rfl h⟩
  existsSubquery h := by
    obtain ⟨rfl, h⟩ := h
    exact ⟨rfl, rfl, .expr rfl rfl h⟩
  inList he hlist := by
    obtain ⟨rfl, rfl, he⟩ := he
    obtain ⟨rfl, rfl, hlist⟩ := hlist
    exact ⟨rfl, rfl, .expr rfl rfl (he.append hlist)⟩
  inSubquery he hquery := by
    obtain ⟨rfl, rfl, he⟩ := he
    obtain ⟨rfl, hquery⟩ := hquery
    exact ⟨rfl, rfl, .expr rfl rfl (he.append hquery)⟩
  between he hlow hhigh := by
    obtain ⟨rfl, rfl, he⟩ := he
    obtain ⟨rfl, rfl, hlow⟩ := hlow
    obtain ⟨rfl, rfl, hhigh⟩ := hhigh
    exact ⟨rfl, rfl, .expr rfl rfl (he.append (hlow.append hhigh))⟩
  isNull h := by
    obtain ⟨rfl, rfl, h⟩ := h
    exact ⟨rfl, rfl, .expr rfl rfl h⟩
  cast h := by
    obtain ⟨rfl, rfl, h⟩ := h
    exact ⟨rfl, rfl, .expr rfl rfl h⟩
  star := ⟨rfl, rfl, .expr rfl rfl .nil⟩
  parameter := ⟨rfl, rfl, .expr rfl rfl .nil⟩
  nested h := by
    obtain ⟨rfl, rfl, h⟩ := h
    exact ⟨rfl, rfl, .expr rfl rfl h⟩

theorem Query.walk_meets (q : Query) :
    ∃ visits, Records (q.walk recording) q visits ∧ Tours [.query q] visits := by
  have hrule : WalkSpec.touring.Rule noting (fun _ => True) Harvest.names {} (fun _ => True)
      recording recording :=
    { closed := WalkSpec.touring_closed
      start := fun _ _ _ _ => trivial
      call := by
        intro f args args' s t τ _ _ hargs
        obtain ⟨rfl, rfl, hargs⟩ := hargs
        exact ⟨_, _, records_recording f _ _, trivial, rfl, rfl, hargs.call⟩ }
  obtain ⟨_, visits, hrecords, rfl, htours⟩ := Query.walk_holds hrule q fun _ _ => trivial
  exact ⟨visits, hrecords, htours⟩

namespace Query

/-- A walk that replaces nothing returns the query as it is. Its record tells the calls at all
places of the query that hold one, each once, in the order of a tour. -/
theorem trace_tour (q : Query) :
    ∃ places, Tour q.visitAt? places ∧
      q.trace {} = (.ok q, places.filterMap q.visitAt?) := by
  obtain ⟨_, hrecords, tours, htours, rfl⟩ := walk_meets q
  cases htours with
  | cons htoured htours =>
    cases htours
    obtain ⟨places, htour, rfl⟩ := htoured
    refine ⟨places, htour, ?_⟩
    have h := hrecords []
    rw [List.flatten_singleton, List.nil_append] at h
    exact h

end Query

end LogicalSql
