import LogicalSql.Proofs.Query.Walk

/-! What a walk keeps of a query: a hook that keeps what it is given makes a walk that keeps what
stands in the query, less the calls it replaces. So two walks agree if their hooks agree on every
scope that the walk can come by, that is, on scopes whose realized tables are named in the query. -/
namespace LogicalSql

variable {ε δ α β γ : Type} {v w : Harvest α} {x : α}

/-- `x` stands in both scopes or in none, and as many sources are joined. -/
structure Scope.Kept (v w : Harvest α) (x : α) (s t : Scope) : Prop where
  mem : x ∈ t.harvest v w ↔ x ∈ s.harvest v w
  length : t.joined.length = s.joined.length

theorem Scope.Kept.refl (s : Scope) : s.Kept v w x s := ⟨Iff.rfl, rfl⟩

theorem Scope.Kept.trans {s t u : Scope} (h : s.Kept v w x t) (h' : t.Kept v w x u) :
    s.Kept v w x u :=
  ⟨h'.mem.trans h.mem, h'.length.trans h.length⟩

/-- What a hook returns holds `x` just when its arguments do, and `x` is neither taken out of the
scope nor put there. -/
structure Hook.Keeps (hook : Hook (Except ε)) (v w : Harvest α) (x : α) : Prop where
  expr : ∀ {f args s e t}, hook f args s = .ok (e, t) →
    (x ∈ e.harvest v w ↔ x ∈ exprHarvest v w args)
  scope : ∀ {f args s e t}, hook f args s = .ok (e, t) → s.Kept v w x t

/-- Of each value that the step may return, `p` holds just when `P` does. -/
def Returns (m : Except ε β) (P : Prop) (p : β → Prop) : Prop :=
  ∀ b, m = .ok b → (p b ↔ P)

/-- Of what `X` admits, the same stands in both lists. -/
def SameOf (X : α → Prop) (xs ys : List α) : Prop := ∀ x, X x → (x ∈ ys ↔ x ∈ xs)

/-- The same of two lists and two scopes. -/
def KeptOf (v w : Harvest α) (X : α → Prop) (xs : List α) (s : Scope) (ys : List α) (t : Scope) :
    Prop :=
  ∀ x, X x → (x ∈ ys ↔ x ∈ xs) ∧ s.Kept v w x t

section Kept

variable {X : α → Prop} {xs xs' ys ys' : List α} {s t u : Scope}

theorem SameOf.refl (xs : List α) : SameOf X xs xs := fun _ _ => Iff.rfl

theorem SameOf.append (h : SameOf X xs xs') (h' : SameOf X ys ys') :
    SameOf X (xs ++ ys) (xs' ++ ys') := by
  intro x hx
  rw [List.mem_append, List.mem_append, h x hx, h' x hx]

theorem KeptOf.refl (xs : List α) (s : Scope) : KeptOf v w X xs s xs s :=
  fun _ _ => ⟨Iff.rfl, .refl s⟩

theorem KeptOf.append (h : KeptOf v w X xs s xs' t) (h' : KeptOf v w X ys t ys' u) :
    KeptOf v w X (xs ++ ys) s (xs' ++ ys') u := by
  intro x hx
  rw [List.mem_append, List.mem_append, (h x hx).1, (h' x hx).1]
  exact ⟨Iff.rfl, (h x hx).2.trans (h' x hx).2⟩

theorem SameOf.keptOf (h : SameOf X xs ys) (s : Scope) : KeptOf v w X xs s ys s :=
  fun x hx => ⟨h x hx, .refl s⟩

end Kept

/-- What a walk keeps of each part, of all that `X` admits. -/
def WalkSpec.keeping (ν : Type) (v w : Harvest α) (X : α → Prop) : WalkSpec ν where
  query q _ q' := SameOf X (q.harvest v.tables w) (q'.harvest v w)
  ctes cs _ cs' := SameOf X (cteHarvest v.tables w cs) (cteHarvest v w cs')
  select s _ s' := SameOf X (s.harvest v.tables w) (s'.harvest v w)
  rest o _ o' := SameOf X (setOperationHarvest v.tables w o) (setOperationHarvest v w o')
  sources ss _ ss' := SameOf X (sourceHarvest v.tables w ss) (sourceHarvest v w ss')
  source s _ s' := SameOf X (s.harvest v.tables w) (s'.harvest v w)
  joined js _ ss := SameOf X (joinSourceHarvest v.tables w js) (sourceHarvest v w ss)
  conditions js s _ cs t :=
    KeptOf v w X (joinConditionHarvest v.tables w js) s (conditionsHarvest v w cs) t
  condition c s _ c' t :=
    KeptOf v w X (conditionHarvest v.tables w (some c)) s (conditionHarvest v w (some c')) t
  items is s _ is' t := KeptOf v w X (itemHarvest v.tables w is) s (itemHarvest v w is') t
  item i s _ i' t := KeptOf v w X (i.harvest v.tables w) s (i'.harvest v w) t
  order os s _ os' t := KeptOf v w X (orderHarvest v.tables w os) s (orderHarvest v w os') t
  option o s _ o' t := KeptOf v w X (optionHarvest v.tables w o) s (optionHarvest v w o') t
  exprs es s _ es' t := KeptOf v w X (exprHarvest v.tables w es) s (exprHarvest v w es') t
  whens ws s _ ws' t := KeptOf v w X (whenHarvest v.tables w ws) s (whenHarvest v w ws') t
  expr e s _ e' t := KeptOf v w X (e.harvest v.tables w) s (e'.harvest v w) t

theorem WalkSpec.keeping_closed (ν : Type) (v w : Harvest α) (X : α → Prop) :
    (keeping ν v w X).Closed where
  selected h := by simpa only [keeping, Query.harvest] using h
  withCtes hctes hbody := by simpa only [keeping, Query.harvest] using SameOf.append hctes hbody
  raw text := by simpa only [keeping, Query.harvest] using SameOf.refl []
  ctes_nil := by simpa only [keeping, cteHarvest] using SameOf.refl []
  ctes_cons hquery hcs := by simpa only [keeping, cteHarvest] using SameOf.append hquery hcs
  clauses hsources hjoined hlength hprojections hconditions hcount hfilter hgroupBy hhaving horderBy
      hlimit hoffset hrest := by
    intro x hx
    -- the sources are those that the last clause left, so what each clause keeps adds up
    have kept := (hprojections x hx).2.trans <| (hconditions x hx).2.trans <|
      (hfilter x hx).2.trans <| (hgroupBy x hx).2.trans <| (hhaving x hx).2.trans <|
      (horderBy x hx).2.trans <| (hlimit x hx).2.trans (hoffset x hx).2
    have mscope := kept.mem
    simp only [Scope.harvest, List.mem_append, hsources x hx, hjoined x hx] at mscope
    obtain ⟨hrejoined, hrejoined'⟩ := map_rejoin (kept.length.trans hlength) hcount
    have mconditions := (hconditions x hx).1
    simp only [joinConditionHarvest_eq] at mconditions
    simp only [joinSourceHarvest_eq] at mscope
    simp only [Select.harvest, List.mem_append, joinSourceHarvest_eq, joinConditionHarvest_eq,
      hrejoined, hrejoined', mscope, mconditions, (hprojections x hx).1, (hfilter x hx).1,
      (hgroupBy x hx).1, (hhaving x hx).1, (horderBy x hx).1, (hlimit x hx).1, (hoffset x hx).1,
      hrest x hx]
  rest_none := by simpa only [keeping, setOperationHarvest] using SameOf.refl []
  rest_some h := by simpa only [keeping, setOperationHarvest] using h
  sources_nil := by simpa only [keeping, sourceHarvest] using SameOf.refl []
  sources_cons hs hss := by simpa only [keeping, sourceHarvest] using SameOf.append hs hss
  table schema name a := by
    simpa only [keeping, Source.harvest, Harvest.tables_table] using SameOf.refl (v.table name)
  derived h := by simpa only [keeping, Source.harvest] using h
  tableFunction name args a := by
    simpa only [keeping, Source.harvest] using SameOf.refl (exprHarvest w w args)
  joined_nil := by simpa only [keeping, joinSourceHarvest, sourceHarvest] using SameOf.refl []
  joined_cons hsource hjs := by
    simpa only [keeping, joinSourceHarvest, sourceHarvest] using SameOf.append hsource hjs
  conditions_nil := by
    simp only [keeping, joinConditionHarvest, conditionsHarvest]
    exact .refl [] _
  conditions_none h := by
    simpa only [keeping, joinConditionHarvest, conditionsHarvest, conditionHarvest,
      List.nil_append] using h
  conditions_some hc hcs := by
    simpa only [keeping, joinConditionHarvest, conditionsHarvest] using KeptOf.append hc hcs
  on h := by simpa only [keeping, conditionHarvest] using h
  usingColumns := by
    simp only [keeping, conditionHarvest]
    exact .refl [] _
  natural := by
    simp only [keeping, conditionHarvest]
    exact .refl [] _
  items_nil := by
    simp only [keeping, itemHarvest]
    exact .refl [] _
  items_cons hi his := by simpa only [keeping, itemHarvest] using KeptOf.append hi his
  wildcard := by
    simp only [keeping, SelectItem.harvest]
    exact .refl [] _
  wildcardOf := by
    simp only [keeping, SelectItem.harvest]
    exact .refl [] _
  field h := by simpa only [keeping, SelectItem.harvest] using h
  order_nil := by
    simp only [keeping, orderHarvest]
    exact .refl [] _
  order_cons he hos := by simpa only [keeping, orderHarvest] using KeptOf.append he hos
  option_none := by
    simp only [keeping, optionHarvest]
    exact .refl [] _
  option_some h := by simpa only [keeping, optionHarvest] using h
  exprs_nil := by
    simp only [keeping, exprHarvest]
    exact .refl [] _
  exprs_cons he hes := by simpa only [keeping, exprHarvest] using KeptOf.append he hes
  whens_nil := by
    simp only [keeping, whenHarvest]
    exact .refl [] _
  whens_cons hc hr hws := by
    simpa only [keeping, whenHarvest] using (KeptOf.append hc hr).append hws
  column := by
    simp only [keeping, Expr.harvest]
    exact .refl [] _
  literal := by
    simp only [keeping, Expr.harvest]
    exact .refl [] _
  binary hl hr := by simpa only [keeping, Expr.harvest] using KeptOf.append hl hr
  unary h := by simpa only [keeping, Expr.harvest] using h
  function h := by simpa only [keeping, Expr.harvest] using h
  aggregate hargs hfilter := by simpa only [keeping, Expr.harvest] using KeptOf.append hargs hfilter
  case hoperand hwhens hotherwise := by
    simpa only [keeping, Expr.harvest] using (KeptOf.append hoperand hwhens).append hotherwise
  subquery h := by simpa only [keeping, Expr.harvest] using SameOf.keptOf h _
  existsSubquery h := by simpa only [keeping, Expr.harvest] using SameOf.keptOf h _
  inList he hlist := by simpa only [keeping, Expr.harvest] using KeptOf.append he hlist
  inSubquery he hquery := by
    simpa only [keeping, Expr.harvest] using KeptOf.append he (SameOf.keptOf hquery _)
  between he hlow hhigh := by
    simpa only [keeping, Expr.harvest] using (KeptOf.append he hlow).append hhigh
  isNull h := by simpa only [keeping, Expr.harvest] using h
  cast h := by simpa only [keeping, Expr.harvest] using h
  star := by
    simp only [keeping, Expr.harvest]
    exact .refl [] _
  parameter := by
    simp only [keeping, Expr.harvest]
    exact .refl [] _
  nested h := by simpa only [keeping, Expr.harvest] using h

/-- A call keeps what its arguments keep. -/
theorem KeptOf.call {hook : Hook (Except ε)} {X : α → Prop} (hk : ∀ x, X x → hook.Keeps v w x)
    {f : LogicalFunction} {args args' : List Expr} {s t u : Scope} {e : Expr}
    (hargs : KeptOf v w X (exprHarvest v.tables w args) s (exprHarvest v w args') t)
    (h : hook f args' t = .ok (e, u)) :
    KeptOf v w X ((Expr.call f args).harvest v.tables w) s (e.harvest v w) u := by
  intro x hx
  obtain ⟨hmem, hscope⟩ := hargs x hx
  rw [Expr.harvest, Harvest.tables_call, List.nil_append]
  exact ⟨((hk x hx).expr h).trans hmem, hscope.trans ((hk x hx).scope h)⟩

theorem Query.walk_keeps {hook : Hook (Except ε)} (hk : hook.Keeps v w x) (q : Query) :
    Returns (q.walk hook) (x ∈ q.harvest v.tables w) (x ∈ ·.harvest v w) := by
  have hrule : (WalkSpec.keeping Unit v w (· = x)).Rule (returning Unit ε) (fun _ => True) v w
      (fun _ => True) hook hook :=
    { closed := WalkSpec.keeping_closed Unit v w (· = x)
      start := fun _ _ _ _ => trivial
      call := fun _ _ hargs => ⟨trivial, fun _ hr => ⟨trivial, hargs.call (fun _ h => h ▸ hk) hr⟩⟩ }
  intro q' h
  exact (Query.walk_holds hrule q fun _ _ => trivial).2 q' h x rfl

section Agreement

variable {E : ε → Prop} {R : ε → δ → Prop} {N : String → Prop} {h₁ : Hook (Except ε)}
  {h₂ : Hook (Except δ)}

def Scope.Within (N : String → Prop) (s : Scope) : Prop := LogicalSql.Within N (s.harvest .names {})

/-- The hooks agree on scopes within `N`, and the first keeps the tables of its scope. -/
structure HooksAgree (E : ε → Prop) (R : ε → δ → Prop) (N : String → Prop) (h₁ : Hook (Except ε))
    (h₂ : Hook (Except δ)) : Prop where
  agree : ∀ f args s, s.Within N → Agree E R (h₁ f args s) (h₂ f args s)
  keeps : ∀ n, h₁.Keeps .names {} n

/-- Steps that agree, with a condition on what the first returns. -/
def agreeing (ν : Type) (E : ε → Prop) (R : ε → δ → Prop) : StepLogic ν (Except ε) (Except δ) :=
  .outcomes (Agree E R) .ok .bind

/-- Of lists that hold the same, one is within `N` if the other is. -/
theorem SameOf.within {xs ys : List String} (h : SameOf (fun _ => True) xs ys) (hxs : Within N xs) :
    Within N ys :=
  fun n hn => hxs n ((h n trivial).1 hn)

theorem Query.walk_agree (hh : HooksAgree E R N h₁ h₂) (q : Query)
    (hN : Within N (q.harvest .names {})) : Agree E R (q.walk h₁) (q.walk h₂) := by
  have hrule : (WalkSpec.keeping Unit .names {} fun _ => True).Rule (agreeing Unit E R)
      (Scope.Within N) .names {} N h₁ h₂ :=
    { closed := WalkSpec.keeping_closed Unit .names {} _
      -- the clauses begin with the walked sources as their scope
      start := fun nsources njoined hsources hjoined =>
        within_append.2 ⟨hsources.within nsources, hjoined.within njoined⟩
      call := by
        intro f args args' s t τ _ ht hargs
        refine ⟨hh.agree f args' t ht, fun r hr => ⟨?_, hargs.call (fun n _ => hh.keeps n) hr⟩⟩
        exact fun n hn => ht n (((hh.keeps n).scope hr).mem.1 hn) }
  exact (Query.walk_holds hrule q hN).1

end Agreement

end LogicalSql
