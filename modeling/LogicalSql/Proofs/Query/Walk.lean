import LogicalSql.Proofs.Outcome
import LogicalSql.Proofs.Query.Harvest

/-! One rule for all that is said of walks. What a walk makes of a query is said part by part, as a
relation between each part and what it becomes. The relations hold of a walk if they go through each
form of a query and through the steps of the hook. -/
namespace LogicalSql

/-- A call is replaced by what the hook makes of its walked arguments. -/
theorem run_walk_call {m : Type → Type} [Monad m] [LawfulMonad m] {hook : Hook m}
    (f : LogicalFunction) (args : List Expr) (s : Scope) :
    ((Expr.call f args).walk hook).run s =
      (walkExprs hook args).run s >>= fun r => hook f r.1 r.2 := by
  rw [Expr.walk]
  simp

/-- Nothing is lost when sources and conditions go back into their joins. -/
theorem map_rejoin {joins : List Join} {sources : List Source}
    {conditions : List (Option JoinCondition)} (hs : sources.length = joins.length)
    (hc : conditions.length = joins.length) :
    (rejoin (joins.map Join.kind) sources conditions).map Join.source = sources ∧
      (rejoin (joins.map Join.kind) sources conditions).map Join.condition = conditions := by
  induction joins generalizing sources conditions with
  | nil =>
    obtain rfl := List.length_eq_zero_iff.1 hs
    obtain rfl := List.length_eq_zero_iff.1 hc
    exact ⟨rfl, rfl⟩
  | cons j joins ih =>
    cases sources with
    | nil => cases hs
    | cons source sources =>
      cases conditions with
      | nil => cases hc
      | cons condition conditions =>
        obtain ⟨hsources, hconditions⟩ := ih (Nat.succ.inj hs) (Nat.succ.inj hc)
        simp only [List.map_cons, rejoin, hsources, hconditions, and_self]

/-- Joins taken apart and put together again. -/
theorem rejoin_self (joins : List Join) :
    rejoin (joins.map Join.kind) (joins.map Join.source) (joins.map Join.condition) = joins := by
  induction joins with
  | nil => rfl
  | cons j joins ih =>
    obtain ⟨kind, source, condition⟩ := j
    simp only [List.map_cons, rejoin, ih]

/-! What is said of computations. -/

/-- Says of two computations that the values they return, with what has been recorded on the way,
meet a condition. It goes through returned values and sequences of steps. -/
structure StepLogic (ν : Type) (m n : Type → Type) [Monad m] [Monad n] where
  Holds {α : Type} : (List ν → α → Prop) → m α → n α → Prop
  pure {α : Type} {P : List ν → α → Prop} {a : α} : P [] a → Holds P (Pure.pure a) (Pure.pure a)
  bind {α β : Type} {P : List ν → α → Prop} {Q : List ν → β → Prop} {x : m α} {y : n α}
    {f : α → m β} {g : α → n β} : Holds P x y →
    (∀ τ a, P τ a → Holds (fun τ' b => Q (τ ++ τ') b) (f a) (g a)) → Holds Q (x >>= f) (y >>= g)

namespace StepLogic

variable {ν α β γ δ : Type} {m n : Type → Type} [Monad m] [Monad n] (L : StepLogic ν m n)

theorem map {P : List ν → α → Prop} {Q : List ν → β → Prop} {x : m α} {y : n α} {k : α → β}
    (h : L.Holds P x y) (hk : ∀ τ a, P τ a → Q τ (k a)) :
    L.Holds Q (x >>= fun a => Pure.pure (k a)) (y >>= fun a => Pure.pure (k a)) := by
  refine L.bind h fun τ a ha => L.pure ?_
  rw [List.append_nil]
  exact hk τ a ha

theorem map₂ {P : List ν → α → Prop} {Q : List ν → β → Prop} {R : List ν → γ → Prop} {x : m α}
    {y : n α} {x' : m β} {y' : n β} {k : α → β → γ} (h : L.Holds P x y) (h' : L.Holds Q x' y')
    (hk : ∀ τ a τ' b, P τ a → Q τ' b → R (τ ++ τ') (k a b)) :
    L.Holds R (x >>= fun a => x' >>= fun b => Pure.pure (k a b))
      (y >>= fun a => y' >>= fun b => Pure.pure (k a b)) :=
  L.bind h fun τ a ha => L.map h' fun τ' b hb => hk τ a τ' b ha hb

theorem after_pure {P : List ν → β → Prop} {a : α} {f : α → m β} {g : α → n β}
    (h : L.Holds P (f a) (g a)) : L.Holds P (Pure.pure a >>= f) (Pure.pure a >>= g) := by
  refine L.bind (P := fun τ b => τ = [] ∧ b = a) (L.pure ⟨rfl, rfl⟩) ?_
  rintro _ _ ⟨rfl, rfl⟩
  exact h

/-- The same of steps that may change the sources in scope. They start from a scope that meets `I`,
and leave such a scope. -/
def Scoped (I : Scope → Prop) (P : Scope → List ν → α → Scope → Prop) (x : StateT Scope m α)
    (y : StateT Scope n α) : Prop :=
  ∀ s, I s → L.Holds (fun τ r => I r.2 ∧ P s τ r.1 r.2) (x.run s) (y.run s)

section Scoped

variable {I : Scope → Prop} {P : Scope → List ν → α → Scope → Prop}
  {Q : Scope → List ν → β → Scope → Prop} {R : Scope → List ν → γ → Scope → Prop}
  {T : Scope → List ν → δ → Scope → Prop} {x : StateT Scope m α} {y : StateT Scope n α}
  {x' : StateT Scope m β} {y' : StateT Scope n β} {x'' : StateT Scope m γ} {y'' : StateT Scope n γ}

theorem scoped_pure {a : α} (h : ∀ s, P s [] a s) : L.Scoped I P (Pure.pure a) (Pure.pure a) :=
  fun s hs => L.pure ⟨hs, h s⟩

theorem scoped_lift {x : m α} {y : n α} {P : List ν → α → Prop} (h : L.Holds P x y) :
    L.Scoped I (fun s τ a t => P τ a ∧ t = s) (monadLift x) (monadLift y) :=
  fun _ hs => L.map h fun _ _ ha => ⟨hs, ha, rfl⟩

variable {L}

theorem Scoped.map {k : α → β} (h : L.Scoped I P x y)
    (hk : ∀ s τ a t, P s τ a t → Q s τ (k a) t) :
    L.Scoped I Q (x >>= fun a => Pure.pure (k a)) (y >>= fun a => Pure.pure (k a)) :=
  fun s hs => L.map (h s hs) fun τ r hr => ⟨hr.1, hk s τ r.1 r.2 hr.2⟩

theorem Scoped.map₂ {k : α → β → γ} (h : L.Scoped I P x y) (h' : L.Scoped I Q x' y')
    (hk : ∀ s τ a t τ' b u, P s τ a t → Q t τ' b u → R s (τ ++ τ') (k a b) u) :
    L.Scoped I R (x >>= fun a => x' >>= fun b => Pure.pure (k a b))
      (y >>= fun a => y' >>= fun b => Pure.pure (k a b)) := by
  intro s hs
  refine L.bind (h s hs) fun τ r hr => ?_
  exact L.map (h' r.2 hr.1) fun τ' r' hr' => ⟨hr'.1, hk s τ r.1 r.2 τ' r'.1 r'.2 hr.2 hr'.2⟩

theorem Scoped.map₃ {k : α → β → γ → δ} (h : L.Scoped I P x y) (h' : L.Scoped I Q x' y')
    (h'' : L.Scoped I R x'' y'') (hk : ∀ s τ a t τ' b u τ'' c w, P s τ a t → Q t τ' b u →
      R u τ'' c w → T s (τ ++ (τ' ++ τ'')) (k a b c) w) :
    L.Scoped I T (x >>= fun a => x' >>= fun b => x'' >>= fun c => Pure.pure (k a b c))
      (y >>= fun a => y' >>= fun b => y'' >>= fun c => Pure.pure (k a b c)) := by
  intro s hs
  refine L.bind (h s hs) fun τ r hr => L.bind (h' r.2 hr.1) fun τ' r' hr' => ?_
  refine L.map (h'' r'.2 hr'.1) fun τ'' r'' hr'' => ⟨hr''.1, ?_⟩
  exact hk s τ r.1 r.2 τ' r'.1 r'.2 τ'' r''.1 r''.2 hr.2 hr'.2 hr''.2

end Scoped

/-- Steps that may fail. `G` says how the two end, and what the first returns meets the
condition. -/
def outcomes {ε : Type} (G : ∀ {α : Type}, Except ε α → n α → Prop)
    (hpure : ∀ {α : Type} (a : α), G (.ok a) (Pure.pure a))
    (hbind : ∀ {α β : Type} {x : Except ε α} {y : n α} {f : α → Except ε β} {g : α → n β}, G x y →
      (∀ a, x = .ok a → G (f a) (g a)) → G (x >>= f) (y >>= g)) : StepLogic ν (Except ε) n where
  Holds P x y := G x y ∧ Yields x (P [])
  pure h := ⟨hpure _, .pure h⟩
  bind hx hf :=
    ⟨hbind hx.1 fun a ha => (hf [] a (hx.2 a ha)).1, hx.2.bind fun a ha => (hf [] a ha).2⟩

end StepLogic

/-- Says of the first computation alone what it returns. -/
def returning (ν ε : Type) : StepLogic ν (Except ε) (Except ε) :=
  .outcomes (fun _ _ => True) (fun _ => trivial) fun _ _ => trivial

/-! What is said of each part of a query. -/

/-- Relations between the parts of a query and what becomes of them, with what is recorded on the
way. Parts that share the sources of a `SELECT` are given the scope that they start from and the one
that they leave. -/
structure WalkSpec (ν : Type) where
  query : Query → List ν → Query → Prop
  ctes : List Cte → List ν → List Cte → Prop
  select : Select → List ν → Select → Prop
  rest : Option SetOperation → List ν → Option SetOperation → Prop
  sources : List Source → List ν → List Source → Prop
  source : Source → List ν → Source → Prop
  joined : List Join → List ν → List Source → Prop
  conditions : List Join → Scope → List ν → List (Option JoinCondition) → Scope → Prop
  condition : JoinCondition → Scope → List ν → JoinCondition → Scope → Prop
  items : List SelectItem → Scope → List ν → List SelectItem → Scope → Prop
  item : SelectItem → Scope → List ν → SelectItem → Scope → Prop
  order : List OrderItem → Scope → List ν → List OrderItem → Scope → Prop
  option : Option Expr → Scope → List ν → Option Expr → Scope → Prop
  exprs : List Expr → Scope → List ν → List Expr → Scope → Prop
  whens : List (Expr × Expr) → Scope → List ν → List (Expr × Expr) → Scope → Prop
  expr : Expr → Scope → List ν → Expr → Scope → Prop

/-- The relations go through all forms but calls. -/
structure WalkSpec.Closed {ν : Type} (S : WalkSpec ν) : Prop where
  selected {s s' : Select} {τ : List ν} : S.select s τ s' → S.query (.select s) τ (.select s')
  withCtes {recursive : Bool} {ctes ctes' : List Cte} {body body' : Query} {τ τ' : List ν} :
    S.ctes ctes τ ctes' → S.query body τ' body' →
      S.query (.withCtes recursive ctes body) (τ ++ τ') (.withCtes recursive ctes' body')
  raw (text : String) : S.query (.raw text) [] (.raw text)
  ctes_nil : S.ctes [] [] []
  ctes_cons {name : String} {columns : List String} {query query' : Query} {cs cs' : List Cte}
    {τ τ' : List ν} : S.query query τ query' → S.ctes cs τ' cs' →
      S.ctes (⟨name, columns, query⟩ :: cs) (τ ++ τ') (⟨name, columns, query'⟩ :: cs')
  /-- The clauses start from the walked sources. Each may change them for those behind it. -/
  clauses {distinct : Bool} {projections projections' : List SelectItem}
    {sources sources' joined : List Source} {joins : List Join}
    {conditions : List (Option JoinCondition)}
    {filter filter' having having' limit limit' offset offset' : Option Expr}
    {groupBy groupBy' : List Expr} {orderBy orderBy' : List OrderItem}
    {setOperation setOperation' : Option SetOperation} {s₁ s₂ s₃ s₄ s₅ s₆ s₇ s₈ : Scope}
    {τ τ' τ₁ τ₂ τ₃ τ₄ τ₅ τ₆ τ₇ τ₈ τ'' : List ν} :
    S.sources sources τ sources' → S.joined joins τ' joined → joined.length = joins.length →
    S.items projections ⟨sources', joined⟩ τ₁ projections' s₁ →
    S.conditions joins s₁ τ₂ conditions s₂ → conditions.length = joins.length →
    S.option filter s₂ τ₃ filter' s₃ → S.exprs groupBy s₃ τ₄ groupBy' s₄ →
    S.option having s₄ τ₅ having' s₅ → S.order orderBy s₅ τ₆ orderBy' s₆ →
    S.option limit s₆ τ₇ limit' s₇ → S.option offset s₇ τ₈ offset' s₈ →
    S.rest setOperation τ'' setOperation' →
      S.select ⟨distinct, projections, sources, joins, filter, groupBy, having, orderBy, limit,
          offset, setOperation⟩
        (τ ++ (τ' ++ ((τ₁ ++ (τ₂ ++ (τ₃ ++ (τ₄ ++ (τ₅ ++ (τ₆ ++ (τ₇ ++ τ₈))))))) ++ τ'')))
        ⟨distinct, projections', s₈.sources, rejoin (joins.map Join.kind) s₈.joined conditions,
          filter', groupBy', having', orderBy', limit', offset', setOperation'⟩
  rest_none : S.rest none [] none
  rest_some {op : SetOperator} {all : Bool} {right right' : Query} {τ : List ν} :
    S.query right τ right' → S.rest (some ⟨op, all, right⟩) τ (some ⟨op, all, right'⟩)
  sources_nil : S.sources [] [] []
  sources_cons {s s' : Source} {ss ss' : List Source} {τ τ' : List ν} :
    S.source s τ s' → S.sources ss τ' ss' → S.sources (s :: ss) (τ ++ τ') (s' :: ss')
  table (schema : Option String) (name : String) (a : Option String) :
    S.source (.table schema name a) [] (.table schema name a)
  derived {query query' : Query} {a : String} {τ : List ν} :
    S.query query τ query' → S.source (.subquery query a) τ (.subquery query' a)
  tableFunction (name : String) (args : List Expr) (a : Option String) :
    S.source (.function name args a) [] (.function name args a)
  joined_nil : S.joined [] [] []
  joined_cons {kind : JoinKind} {source source' : Source} {condition : Option JoinCondition}
    {js : List Join} {ss : List Source} {τ τ' : List ν} : S.source source τ source' →
    S.joined js τ' ss → S.joined (⟨kind, source, condition⟩ :: js) (τ ++ τ') (source' :: ss)
  conditions_nil {s : Scope} : S.conditions [] s [] [] s
  conditions_none {kind : JoinKind} {source : Source} {js : List Join}
    {cs : List (Option JoinCondition)} {s t : Scope} {τ : List ν} : S.conditions js s τ cs t →
    S.conditions (⟨kind, source, none⟩ :: js) s τ (none :: cs) t
  conditions_some {kind : JoinKind} {source : Source} {c c' : JoinCondition} {js : List Join}
    {cs : List (Option JoinCondition)} {s t u : Scope} {τ τ' : List ν} : S.condition c s τ c' t →
    S.conditions js t τ' cs u →
      S.conditions (⟨kind, source, some c⟩ :: js) s (τ ++ τ') (some c' :: cs) u
  on {e e' : Expr} {s t : Scope} {τ : List ν} :
    S.expr e s τ e' t → S.condition (.on e) s τ (.on e') t
  usingColumns {columns : List String} {s : Scope} :
    S.condition (.using columns) s [] (.using columns) s
  natural {s : Scope} : S.condition .natural s [] .natural s
  items_nil {s : Scope} : S.items [] s [] [] s
  items_cons {i i' : SelectItem} {is is' : List SelectItem} {s t u : Scope} {τ τ' : List ν} :
    S.item i s τ i' t → S.items is t τ' is' u → S.items (i :: is) s (τ ++ τ') (i' :: is') u
  wildcard {s : Scope} : S.item .wildcard s [] .wildcard s
  wildcardOf {table : String} {s : Scope} : S.item (.wildcardOf table) s [] (.wildcardOf table) s
  field {e e' : Expr} {a : Option String} {s t : Scope} {τ : List ν} :
    S.expr e s τ e' t → S.item (.expr e a) s τ (.expr e' a) t
  order_nil {s : Scope} : S.order [] s [] [] s
  order_cons {e e' : Expr} {ascending nullsFirst : Option Bool} {os os' : List OrderItem}
    {s t u : Scope} {τ τ' : List ν} : S.expr e s τ e' t → S.order os t τ' os' u →
      S.order (⟨e, ascending, nullsFirst⟩ :: os) s (τ ++ τ') (⟨e', ascending, nullsFirst⟩ :: os') u
  option_none {s : Scope} : S.option none s [] none s
  option_some {e e' : Expr} {s t : Scope} {τ : List ν} :
    S.expr e s τ e' t → S.option (some e) s τ (some e') t
  exprs_nil {s : Scope} : S.exprs [] s [] [] s
  exprs_cons {e e' : Expr} {es es' : List Expr} {s t u : Scope} {τ τ' : List ν} :
    S.expr e s τ e' t → S.exprs es t τ' es' u → S.exprs (e :: es) s (τ ++ τ') (e' :: es') u
  whens_nil {s : Scope} : S.whens [] s [] [] s
  whens_cons {c c' r r' : Expr} {ws ws' : List (Expr × Expr)} {s t u w : Scope}
    {τ τ' τ'' : List ν} : S.expr c s τ c' t → S.expr r t τ' r' u → S.whens ws u τ'' ws' w →
      S.whens ((c, r) :: ws) s (τ ++ (τ' ++ τ'')) ((c', r') :: ws') w
  column {table : Option String} {name : String} {s : Scope} :
    S.expr (.column table name) s [] (.column table name) s
  literal {value : Literal} {s : Scope} : S.expr (.literal value) s [] (.literal value) s
  binary {l l' r r' : Expr} {op : BinaryOp} {s t u : Scope} {τ τ' : List ν} :
    S.expr l s τ l' t → S.expr r t τ' r' u →
      S.expr (.binary l op r) s (τ ++ τ') (.binary l' op r') u
  unary {op : UnaryOp} {e e' : Expr} {s t : Scope} {τ : List ν} :
    S.expr e s τ e' t → S.expr (.unary op e) s τ (.unary op e') t
  function {name : String} {args args' : List Expr} {distinct : Bool} {s t : Scope} {τ : List ν} :
    S.exprs args s τ args' t →
      S.expr (.function name args distinct) s τ (.function name args' distinct) t
  aggregate {name : String} {args args' : List Expr} {distinct : Bool}
    {filter filter' : Option Expr} {s t u : Scope} {τ τ' : List ν} :
    S.exprs args s τ args' t → S.option filter t τ' filter' u →
      S.expr (.aggregate name args distinct filter) s (τ ++ τ')
        (.aggregate name args' distinct filter') u
  case {operand operand' otherwise otherwise' : Option Expr} {whens whens' : List (Expr × Expr)}
    {s t u w : Scope} {τ τ' τ'' : List ν} : S.option operand s τ operand' t →
    S.whens whens t τ' whens' u → S.option otherwise u τ'' otherwise' w →
      S.expr (.case operand whens otherwise) s (τ ++ (τ' ++ τ''))
        (.case operand' whens' otherwise') w
  subquery {query query' : Query} {s : Scope} {τ : List ν} :
    S.query query τ query' → S.expr (.subquery query) s τ (.subquery query') s
  existsSubquery {query query' : Query} {s : Scope} {τ : List ν} :
    S.query query τ query' → S.expr (.exists query) s τ (.exists query') s
  inList {e e' : Expr} {list list' : List Expr} {negated : Bool} {s t u : Scope} {τ τ' : List ν} :
    S.expr e s τ e' t → S.exprs list t τ' list' u →
      S.expr (.inList e list negated) s (τ ++ τ') (.inList e' list' negated) u
  inSubquery {e e' : Expr} {query query' : Query} {negated : Bool} {s t : Scope} {τ τ' : List ν} :
    S.expr e s τ e' t → S.query query τ' query' →
      S.expr (.inSubquery e query negated) s (τ ++ τ') (.inSubquery e' query' negated) t
  between {e e' low low' high high' : Expr} {negated : Bool} {s t u w : Scope} {τ τ' τ'' : List ν} :
    S.expr e s τ e' t → S.expr low t τ' low' u → S.expr high u τ'' high' w →
      S.expr (.between e low high negated) s (τ ++ (τ' ++ τ'')) (.between e' low' high' negated) w
  isNull {e e' : Expr} {negated : Bool} {s t : Scope} {τ : List ν} :
    S.expr e s τ e' t → S.expr (.isNull e negated) s τ (.isNull e' negated) t
  cast {e e' : Expr} {dataType : String} {s t : Scope} {τ : List ν} :
    S.expr e s τ e' t → S.expr (.cast e dataType) s τ (.cast e' dataType) t
  star {s : Scope} : S.expr .wildcard s [] .wildcard s
  parameter {index : Nat} {s : Scope} : S.expr (.parameter index) s [] (.parameter index) s
  nested {e e' : Expr} {s t : Scope} {τ : List ν} :
    S.expr e s τ e' t → S.expr (.nested e) s τ (.nested e') t

/-- All that stands in these lists is admitted by `N`. -/
def Within {α : Type} (N : α → Prop) (xs : List α) : Prop := ∀ x ∈ xs, N x

theorem within_append {α : Type} {N : α → Prop} {xs ys : List α} :
    Within N (xs ++ ys) ↔ Within N xs ∧ Within N ys :=
  List.forall_mem_append

section Rule

variable {ν α : Type} {m n : Type → Type} [Monad m] [Monad n]

/-- The relations hold of what two hooks make of calls, if the scopes of the calls meet `I` and what
stands in the query is admitted by `N`. -/
structure WalkSpec.Rule (S : WalkSpec ν) (L : StepLogic ν m n) (I : Scope → Prop) (v w : Harvest α)
    (N : α → Prop) (h₁ : Hook m) (h₂ : Hook n) : Prop where
  closed : S.Closed
  start {sources sources' joined : List Source} {joins : List Join} {τ τ' : List ν} :
    Within N (sourceHarvest v w sources) → Within N (joinSourceHarvest v w joins) →
    S.sources sources τ sources' → S.joined joins τ' joined → I ⟨sources', joined⟩
  call {f : LogicalFunction} {args args' : List Expr} {s t : Scope} {τ : List ν} :
    Within N (v.call f) → I t → S.exprs args s τ args' t →
      L.Holds (fun τ' r => I r.2 ∧ S.expr (.call f args) s (τ ++ τ') r.1 r.2) (h₁ f args' t)
        (h₂ f args' t)

variable {S : WalkSpec ν} {L : StepLogic ν m n} {I : Scope → Prop} {v w : Harvest α} {N : α → Prop}
  {h₁ : Hook m} {h₂ : Hook n}

/-- A call takes the arguments as they were walked, and the scope that they have left. -/
theorem WalkSpec.Rule.walk_call (H : S.Rule L I v w N h₁ h₂) {f : LogicalFunction}
    {args : List Expr} (hf : Within N (v.call f))
    (hargs : L.Scoped I (S.exprs args) (walkExprs h₁ args) (walkExprs h₂ args)) :
    L.Scoped I (S.expr (.call f args)) ((Expr.call f args).walk h₁)
      ((Expr.call f args).walk h₂) := by
  intro s hs
  rw [Expr.walk, Expr.walk]
  refine L.bind (hargs s hs) fun τ r hr => L.after_pure ?_
  let P : List ν → (Expr × Scope) × Scope → Prop := fun τ' c =>
    I c.1.2 ∧ S.expr (.call f args) s (τ ++ τ') c.1.1 c.1.2
  refine L.bind (P := P) (L.map (H.call hf hr.1 hr.2) fun _ _ => id) fun τ' c hc => ?_
  refine L.after_pure (L.pure ?_)
  simpa using hc

mutual

theorem Query.walk_holds (H : S.Rule L I v w N h₁ h₂) : ∀ q : Query, Within N (q.harvest v w) →
    L.Holds (S.query q) (q.walk h₁) (q.walk h₂)
  | .select s, hN => by
    rw [Query.harvest] at hN
    rw [Query.walk, Query.walk]
    exact L.map (Select.walk_holds H s hN) fun _ _ => H.closed.selected
  | .withCtes recursive ctes body, hN => by
    rw [Query.harvest, within_append] at hN
    rw [Query.walk, Query.walk]
    exact L.map₂ (walkCtes_holds H ctes hN.1) (Query.walk_holds H body hN.2) fun _ _ _ _ =>
      H.closed.withCtes
  | .raw text, _ => by
    rw [Query.walk, Query.walk]
    exact L.pure (H.closed.raw text)

theorem walkCtes_holds (H : S.Rule L I v w N h₁ h₂) : ∀ ctes : List Cte,
    Within N (cteHarvest v w ctes) → L.Holds (S.ctes ctes) (walkCtes h₁ ctes) (walkCtes h₂ ctes)
  | [], _ => by
    rw [walkCtes, walkCtes]
    exact L.pure H.closed.ctes_nil
  | ⟨name, columns, query⟩ :: cs, hN => by
    rw [cteHarvest, within_append] at hN
    rw [walkCtes, walkCtes]
    exact L.map₂ (Query.walk_holds H query hN.1) (walkCtes_holds H cs hN.2) fun _ _ _ _ =>
      H.closed.ctes_cons

theorem Select.walk_holds (H : S.Rule L I v w N h₁ h₂) : ∀ s : Select, Within N (s.harvest v w) →
    L.Holds (S.select s) (s.walk h₁) (s.walk h₂)
  | ⟨distinct, projections, sources, joins, filter, groupBy, having, orderBy, limit, offset,
      setOperation⟩, hN => by
    simp only [Select.harvest, within_append] at hN
    obtain ⟨⟨⟨⟨⟨⟨⟨⟨⟨⟨nsources, njoined⟩, nprojections⟩, nconditions⟩, nfilter⟩, ngroupBy⟩, nhaving⟩,
      norderBy⟩, nlimit⟩, noffset⟩, nrest⟩ := hN
    rw [Select.walk, Select.walk]
    refine L.bind (walkSources_holds H sources nsources) fun τ sources' hsources => ?_
    refine L.bind (walkJoinSources_holds H joins njoined) fun τ' joined hjoined => ?_
    have hstart : I ⟨sources', joined⟩ := H.start nsources njoined hsources hjoined.1
    -- what is left to say when the clauses are walked
    refine L.bind (P := fun σ r => ∀ τ'' o, S.rest setOperation τ'' o →
      S.select ⟨distinct, projections, sources, joins, filter, groupBy, having, orderBy, limit,
          offset, setOperation⟩ (τ ++ (τ' ++ (σ ++ τ'')))
        ⟨distinct, r.1.1, r.2.sources, rejoin (joins.map Join.kind) r.2.joined r.1.2.1, r.1.2.2.1,
          r.1.2.2.2.1, r.1.2.2.2.2.1, r.1.2.2.2.2.2.1, r.1.2.2.2.2.2.2.1, r.1.2.2.2.2.2.2.2, o⟩)
      ?_ fun σ r hr => L.map (walkSetOperation_holds H setOperation nrest) fun τ'' o => hr τ'' o
    refine L.bind (walkItems_holds H projections nprojections _ hstart) fun τ₁ r₁ h₁ =>
      L.bind (walkConditions_holds H joins nconditions r₁.2 h₁.1) fun τ₂ r₂ h₂ =>
      L.bind (walkOption_holds H filter nfilter r₂.2 h₂.1) fun τ₃ r₃ h₃ =>
      L.bind (walkExprs_holds H groupBy ngroupBy r₃.2 h₃.1) fun τ₄ r₄ h₄ =>
      L.bind (walkOption_holds H having nhaving r₄.2 h₄.1) fun τ₅ r₅ h₅ =>
      L.bind (walkOrder_holds H orderBy norderBy r₅.2 h₅.1) fun τ₆ r₆ h₆ =>
      L.bind (walkOption_holds H limit nlimit r₆.2 h₆.1) fun τ₇ r₇ h₇ =>
      L.map (walkOption_holds H offset noffset r₇.2 h₇.1) fun τ₈ r₈ h₈ τ'' o ho => ?_
    exact H.closed.clauses hsources hjoined.1 hjoined.2 h₁.2 h₂.2.1 h₂.2.2 h₃.2 h₄.2 h₅.2 h₆.2
      h₇.2 h₈.2 ho

theorem walkSetOperation_holds (H : S.Rule L I v w N h₁ h₂) : ∀ o : Option SetOperation,
    Within N (setOperationHarvest v w o) →
    L.Holds (S.rest o) (walkSetOperation h₁ o) (walkSetOperation h₂ o)
  | none, _ => by
    rw [walkSetOperation, walkSetOperation]
    exact L.pure H.closed.rest_none
  | some ⟨op, all, right⟩, hN => by
    rw [setOperationHarvest] at hN
    rw [walkSetOperation, walkSetOperation]
    exact L.map (Query.walk_holds H right hN) fun _ _ => H.closed.rest_some

theorem walkSources_holds (H : S.Rule L I v w N h₁ h₂) : ∀ sources : List Source,
    Within N (sourceHarvest v w sources) →
    L.Holds (S.sources sources) (walkSources h₁ sources) (walkSources h₂ sources)
  | [], _ => by
    rw [walkSources, walkSources]
    exact L.pure H.closed.sources_nil
  | s :: ss, hN => by
    rw [sourceHarvest, within_append] at hN
    rw [walkSources, walkSources]
    exact L.map₂ (Source.walk_holds H s hN.1) (walkSources_holds H ss hN.2) fun _ _ _ _ =>
      H.closed.sources_cons

theorem Source.walk_holds (H : S.Rule L I v w N h₁ h₂) : ∀ s : Source, Within N (s.harvest v w) →
    L.Holds (S.source s) (s.walk h₁) (s.walk h₂)
  | .table schema name a, _ => by
    rw [Source.walk, Source.walk]
    exact L.pure (H.closed.table schema name a)
  | .subquery query a, hN => by
    rw [Source.harvest] at hN
    rw [Source.walk, Source.walk]
    exact L.map (Query.walk_holds H query hN) fun _ _ => H.closed.derived
  | .function name args a, _ => by
    rw [Source.walk, Source.walk]
    exact L.pure (H.closed.tableFunction name args a)

theorem walkJoinSources_holds (H : S.Rule L I v w N h₁ h₂) : ∀ joins : List Join,
    Within N (joinSourceHarvest v w joins) →
    L.Holds (fun τ ss => S.joined joins τ ss ∧ ss.length = joins.length) (walkJoinSources h₁ joins)
      (walkJoinSources h₂ joins)
  | [], _ => by
    rw [walkJoinSources, walkJoinSources]
    exact L.pure ⟨H.closed.joined_nil, rfl⟩
  | ⟨kind, source, condition⟩ :: js, hN => by
    rw [joinSourceHarvest, within_append] at hN
    rw [walkJoinSources, walkJoinSources]
    refine L.map₂ (Source.walk_holds H source hN.1) (walkJoinSources_holds H js hN.2) ?_
    intro τ source' τ' ss hsource hss
    exact ⟨H.closed.joined_cons hsource hss.1, congrArg Nat.succ hss.2⟩

theorem walkConditions_holds (H : S.Rule L I v w N h₁ h₂) : ∀ joins : List Join,
    Within N (joinConditionHarvest v w joins) →
    L.Scoped I (fun s τ cs t => S.conditions joins s τ cs t ∧ cs.length = joins.length)
      (walkConditions h₁ joins) (walkConditions h₂ joins)
  | [], _ => by
    rw [walkConditions, walkConditions]
    exact L.scoped_pure fun _ => ⟨H.closed.conditions_nil, rfl⟩
  | ⟨kind, source, none⟩ :: js, hN => by
    rw [joinConditionHarvest, within_append] at hN
    rw [walkConditions, walkConditions]
    refine (walkConditions_holds H js hN.2).map ?_
    intro s τ cs t hcs
    exact ⟨H.closed.conditions_none hcs.1, congrArg Nat.succ hcs.2⟩
  | ⟨kind, source, some condition⟩ :: js, hN => by
    rw [joinConditionHarvest, within_append] at hN
    rw [walkConditions, walkConditions]
    refine (JoinCondition.walk_holds H condition hN.1).map₂ (walkConditions_holds H js hN.2) ?_
    intro s τ c t τ' cs u hc hcs
    exact ⟨H.closed.conditions_some hc hcs.1, congrArg Nat.succ hcs.2⟩

theorem JoinCondition.walk_holds (H : S.Rule L I v w N h₁ h₂) : ∀ c : JoinCondition,
    Within N (conditionHarvest v w (some c)) → L.Scoped I (S.condition c) (c.walk h₁) (c.walk h₂)
  | .on e, hN => by
    rw [conditionHarvest] at hN
    rw [JoinCondition.walk, JoinCondition.walk]
    exact (Expr.walk_holds H e hN).map fun _ _ _ _ => H.closed.on
  | .using columns, _ => by
    rw [JoinCondition.walk, JoinCondition.walk]
    exact L.scoped_pure fun _ => H.closed.usingColumns
  | .natural, _ => by
    rw [JoinCondition.walk, JoinCondition.walk]
    exact L.scoped_pure fun _ => H.closed.natural

theorem walkItems_holds (H : S.Rule L I v w N h₁ h₂) : ∀ items : List SelectItem,
    Within N (itemHarvest v w items) →
    L.Scoped I (S.items items) (walkItems h₁ items) (walkItems h₂ items)
  | [], _ => by
    rw [walkItems, walkItems]
    exact L.scoped_pure fun _ => H.closed.items_nil
  | i :: is, hN => by
    rw [itemHarvest, within_append] at hN
    rw [walkItems, walkItems]
    exact (SelectItem.walk_holds H i hN.1).map₂ (walkItems_holds H is hN.2) fun _ _ _ _ _ _ _ =>
      H.closed.items_cons

theorem SelectItem.walk_holds (H : S.Rule L I v w N h₁ h₂) : ∀ i : SelectItem,
    Within N (i.harvest v w) → L.Scoped I (S.item i) (i.walk h₁) (i.walk h₂)
  | .wildcard, _ => by
    rw [SelectItem.walk, SelectItem.walk]
    exact L.scoped_pure fun _ => H.closed.wildcard
  | .wildcardOf table, _ => by
    rw [SelectItem.walk, SelectItem.walk]
    exact L.scoped_pure fun _ => H.closed.wildcardOf
  | .expr e a, hN => by
    rw [SelectItem.harvest] at hN
    rw [SelectItem.walk, SelectItem.walk]
    exact (Expr.walk_holds H e hN).map fun _ _ _ _ => H.closed.field

theorem walkOrder_holds (H : S.Rule L I v w N h₁ h₂) : ∀ items : List OrderItem,
    Within N (orderHarvest v w items) →
    L.Scoped I (S.order items) (walkOrder h₁ items) (walkOrder h₂ items)
  | [], _ => by
    rw [walkOrder, walkOrder]
    exact L.scoped_pure fun _ => H.closed.order_nil
  | ⟨e, ascending, nullsFirst⟩ :: os, hN => by
    rw [orderHarvest, within_append] at hN
    rw [walkOrder, walkOrder]
    exact (Expr.walk_holds H e hN.1).map₂ (walkOrder_holds H os hN.2) fun _ _ _ _ _ _ _ =>
      H.closed.order_cons

theorem walkOption_holds (H : S.Rule L I v w N h₁ h₂) : ∀ o : Option Expr,
    Within N (optionHarvest v w o) →
    L.Scoped I (S.option o) (walkOption h₁ o) (walkOption h₂ o)
  | none, _ => by
    rw [walkOption, walkOption]
    exact L.scoped_pure fun _ => H.closed.option_none
  | some e, hN => by
    rw [optionHarvest] at hN
    rw [walkOption, walkOption]
    exact (Expr.walk_holds H e hN).map fun _ _ _ _ => H.closed.option_some

theorem walkExprs_holds (H : S.Rule L I v w N h₁ h₂) : ∀ es : List Expr,
    Within N (exprHarvest v w es) → L.Scoped I (S.exprs es) (walkExprs h₁ es) (walkExprs h₂ es)
  | [], _ => by
    rw [walkExprs, walkExprs]
    exact L.scoped_pure fun _ => H.closed.exprs_nil
  | e :: es, hN => by
    rw [exprHarvest, within_append] at hN
    rw [walkExprs, walkExprs]
    exact (Expr.walk_holds H e hN.1).map₂ (walkExprs_holds H es hN.2) fun _ _ _ _ _ _ _ =>
      H.closed.exprs_cons

theorem walkWhens_holds (H : S.Rule L I v w N h₁ h₂) : ∀ ws : List (Expr × Expr),
    Within N (whenHarvest v w ws) → L.Scoped I (S.whens ws) (walkWhens h₁ ws) (walkWhens h₂ ws)
  | [], _ => by
    rw [walkWhens, walkWhens]
    exact L.scoped_pure fun _ => H.closed.whens_nil
  | (condition, result) :: ws, hN => by
    rw [whenHarvest, within_append, within_append] at hN
    rw [walkWhens, walkWhens]
    exact (Expr.walk_holds H condition hN.1.1).map₃ (Expr.walk_holds H result hN.1.2)
      (walkWhens_holds H ws hN.2) fun _ _ _ _ _ _ _ _ _ _ => H.closed.whens_cons

theorem Expr.walk_holds (H : S.Rule L I v w N h₁ h₂) : ∀ e : Expr, Within N (e.harvest v w) →
    L.Scoped I (S.expr e) (e.walk h₁) (e.walk h₂)
  | .column table name, _ => by
    rw [Expr.walk, Expr.walk]
    exact L.scoped_pure fun _ => H.closed.column
  | .literal value, _ => by
    rw [Expr.walk, Expr.walk]
    exact L.scoped_pure fun _ => H.closed.literal
  | .binary left op right, hN => by
    rw [Expr.harvest, within_append] at hN
    rw [Expr.walk, Expr.walk]
    exact (Expr.walk_holds H left hN.1).map₂ (Expr.walk_holds H right hN.2) fun _ _ _ _ _ _ _ =>
      H.closed.binary
  | .unary op e, hN => by
    rw [Expr.harvest] at hN
    rw [Expr.walk, Expr.walk]
    exact (Expr.walk_holds H e hN).map fun _ _ _ _ => H.closed.unary
  | .call f args, hN => by
    rw [Expr.harvest, within_append] at hN
    exact H.walk_call hN.1 (walkExprs_holds H args hN.2)
  | .function name args distinct, hN => by
    rw [Expr.harvest] at hN
    rw [Expr.walk, Expr.walk]
    exact (walkExprs_holds H args hN).map fun _ _ _ _ => H.closed.function
  | .aggregate name args distinct filter, hN => by
    rw [Expr.harvest, within_append] at hN
    rw [Expr.walk, Expr.walk]
    exact (walkExprs_holds H args hN.1).map₂ (walkOption_holds H filter hN.2) fun _ _ _ _ _ _ _ =>
      H.closed.aggregate
  | .case operand whens otherwise, hN => by
    rw [Expr.harvest, within_append, within_append] at hN
    rw [Expr.walk, Expr.walk]
    exact (walkOption_holds H operand hN.1.1).map₃ (walkWhens_holds H whens hN.1.2)
      (walkOption_holds H otherwise hN.2) fun _ _ _ _ _ _ _ _ _ _ => H.closed.case
  | .subquery query, hN => by
    rw [Expr.harvest] at hN
    rw [Expr.walk, Expr.walk]
    refine (L.scoped_lift (Query.walk_holds H query hN)).map ?_
    rintro s τ query' _ ⟨hquery, rfl⟩
    exact H.closed.subquery hquery
  | .exists query, hN => by
    rw [Expr.harvest] at hN
    rw [Expr.walk, Expr.walk]
    refine (L.scoped_lift (Query.walk_holds H query hN)).map ?_
    rintro s τ query' _ ⟨hquery, rfl⟩
    exact H.closed.existsSubquery hquery
  | .inList e list negated, hN => by
    rw [Expr.harvest, within_append] at hN
    rw [Expr.walk, Expr.walk]
    exact (Expr.walk_holds H e hN.1).map₂ (walkExprs_holds H list hN.2) fun _ _ _ _ _ _ _ =>
      H.closed.inList
  | .inSubquery e query negated, hN => by
    rw [Expr.harvest, within_append] at hN
    rw [Expr.walk, Expr.walk]
    refine (Expr.walk_holds H e hN.1).map₂ (L.scoped_lift (Query.walk_holds H query hN.2)) ?_
    rintro s τ e' t τ' query' _ he ⟨hquery, rfl⟩
    exact H.closed.inSubquery he hquery
  | .between e low high negated, hN => by
    rw [Expr.harvest, within_append, within_append] at hN
    rw [Expr.walk, Expr.walk]
    exact (Expr.walk_holds H e hN.1.1).map₃ (Expr.walk_holds H low hN.1.2)
      (Expr.walk_holds H high hN.2) fun _ _ _ _ _ _ _ _ _ _ => H.closed.between
  | .isNull e negated, hN => by
    rw [Expr.harvest] at hN
    rw [Expr.walk, Expr.walk]
    exact (Expr.walk_holds H e hN).map fun _ _ _ _ => H.closed.isNull
  | .cast e dataType, hN => by
    rw [Expr.harvest] at hN
    rw [Expr.walk, Expr.walk]
    exact (Expr.walk_holds H e hN).map fun _ _ _ _ => H.closed.cast
  | .wildcard, _ => by
    rw [Expr.walk, Expr.walk]
    exact L.scoped_pure fun _ => H.closed.star
  | .parameter index, _ => by
    rw [Expr.walk, Expr.walk]
    exact L.scoped_pure fun _ => H.closed.parameter
  | .nested e, hN => by
    rw [Expr.harvest] at hN
    rw [Expr.walk, Expr.walk]
    exact (Expr.walk_holds H e hN).map fun _ _ _ _ => H.closed.nested

end

/-- Says nothing of what becomes of the parts. -/
def WalkSpec.anything (ν : Type) : WalkSpec ν :=
  ⟨fun _ _ _ => True, fun _ _ _ => True, fun _ _ _ => True, fun _ _ _ => True, fun _ _ _ => True,
    fun _ _ _ => True, fun _ _ _ => True, fun _ _ _ _ _ => True, fun _ _ _ _ _ => True,
    fun _ _ _ _ _ => True, fun _ _ _ _ _ => True, fun _ _ _ _ _ => True, fun _ _ _ _ _ => True,
    fun _ _ _ _ _ => True, fun _ _ _ _ _ => True, fun _ _ _ _ _ => True⟩

theorem WalkSpec.anything_closed : (anything ν).Closed := by
  constructor <;> intros <;> trivial

/-- What holds of the steps of two hooks, whatever they return, holds of their walks. -/
theorem Query.walk_related (L : StepLogic ν m n)
    (h : ∀ f args s, L.Holds (fun _ _ => True) (h₁ f args s) (h₂ f args s)) (q : Query) :
    L.Holds (fun _ _ => True) (q.walk h₁) (q.walk h₂) := by
  have hrule : (WalkSpec.anything ν).Rule L (fun _ => True) Harvest.names {} (fun _ => True) h₁
      h₂ :=
    { closed := WalkSpec.anything_closed
      start := fun _ _ _ _ => trivial
      call := fun _ _ _ => by simpa only [WalkSpec.anything, and_self] using h _ _ _ }
  exact Query.walk_holds hrule q fun _ _ => trivial

end Rule

end LogicalSql
