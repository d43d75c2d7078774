import LogicalSql.Proofs.Surface.FlatChains
import LogicalSql.Query.Parse

/-! Set operations from their text to a query and back to text. They are read as a tree, kept as one
flat chain and printed in the order of the chain, which is read as the same tree again. -/
namespace LogicalSql.Surface

namespace Reader

variable {α β : Type} {p : Reader α} {P : α → Prop} {Q : β → Prop}

/-- Whatever is read meets `P`. -/
def Gives (p : Reader α) (P : α → Prop) : Prop := ∀ ls a rest, p.run ls = .ok (a, rest) → P a

theorem Gives.pure {a : α} (h : P a) : Gives (Pure.pure a) P := by
  intro ls b rest hb
  obtain ⟨rfl, -⟩ := run_pure_eq_ok.1 hb
  exact h

theorem Gives.bind {k : α → Reader β} (hp : Gives p P) (hk : ∀ a, P a → Gives (k a) Q) :
    Gives (p >>= k) Q := by
  intro ls b rest hb
  obtain ⟨a, ls', ha, hb⟩ := run_bind_eq_ok.1 hb
  exact hk a (hp ls a ls' ha) ls' b rest hb

/-- A step of which nothing is said. -/
theorem Gives.skip {k : α → Reader β} (hk : ∀ a, Gives (k a) Q) : Gives (p >>= k) Q :=
  Gives.bind (P := fun _ => True) (fun _ _ _ _ => trivial) fun a _ => hk a

theorem Gives.cond {b : Bool} {q q' : Reader α} (hq : Gives q P) (hq' : Gives q' P) :
    Gives (if b then q else q') P := by
  cases b with
  | false => exact hq'
  | true => exact hq

end Reader

/-- How a body is grouped as it is read. What stands in parentheses is grouped by itself. -/
inductive Body.Grouped : SetLevel → Body → Prop where
  | select (s : Select) : Grouped .term (.select s)
  | other (shown : Shown) : Grouped .term (.other shown)
  | query {q : Query} (h : Grouped .chain q.body) : Grouped .term (.query q)
  | term {b : Body} (h : Grouped .term b) : Grouped .intersections b
  | intersect {left right : Body} (hleft : Grouped .intersections left) (quantifier : SetQuantifier)
      (hright : Grouped .term right) :
      Grouped .intersections (.setOperation left .intersect quantifier right)
  | intersections {b : Body} (h : Grouped .intersections b) : Grouped .chain b
  | node {left right : Body} {op : SetOperator} (hleft : Grouped .chain left)
      (hop : op ≠ .intersect) (quantifier : SetQuantifier) (hright : Grouped .intersections right) :
      Grouped .chain (.setOperation left op quantifier right)

namespace Reader

theorem Gives.fail : Gives (Reader.fail : Reader α) P := nofun

variable {L : Level} (hL : Gives L.query fun q => q.body.Grouped .chain)
include hL

end Reader

/-- The operations between the selections of a body, whatever stands in parentheses. There is no
such tree where rows of values, a table by its name or `WITH` stand in the place of a selection. -/
def Body.tree? : Body → Option (SetTree Select)
  | .select s => some (.leaf s)
  | .query ⟨none, body, _, _, _, _, _, _, _⟩ => body.tree?
  | .query ⟨some _, _, _, _, _, _, _, _, _⟩ => none
  | .setOperation left op quantifier right => do
    return .node (← left.tree?) op quantifier.isAll (← right.tree?)
  | .other _ => none

/-- A selection with nothing before and behind it. -/
def Query.isPlain : Query → Bool
  | ⟨none, .select _, [], none, none, _, none, _, _⟩ => true
  | _ => false

/-- Nothing stands in parentheses but plain selections. -/
def Body.isPlain : Body → Bool
  | .select _ => true
  | .query q => q.isPlain
  | .setOperation left _ _ right => left.isPlain && right.isPlain
  | .other _ => true

theorem Body.tree?_setOperation {left right : Body} {op : SetOperator} {quantifier : SetQuantifier}
    {t : SetTree Select} (h : (Body.setOperation left op quantifier right).tree? = some t) :
    ∃ l r, left.tree? = some l ∧ right.tree? = some r ∧ t = .node l op quantifier.isAll r := by
  rw [Body.tree?] at h
  obtain ⟨l, hl, h⟩ := Option.bind_eq_some_iff.1 h
  obtain ⟨r, hr, h⟩ := Option.bind_eq_some_iff.1 h
  exact ⟨l, r, hl, hr, (Option.some.inj h).symm⟩

theorem Body.interpret_setOperation {left right : Body} {op : SetOperator}
    {quantifier : SetQuantifier} {isOperand : Bool} {q : LogicalSql.Query}
    (h : (Body.setOperation left op quantifier right).interpret isOperand = .ok q) :
    ∃ left' right', left.interpret true = .ok left' ∧ right.interpret true = .ok right' ∧
      left'.combine op quantifier.isAll right' = .ok q := by
  rw [Body.interpret] at h
  obtain ⟨left', hleft, h⟩ := bind_eq_ok.1 h
  obtain ⟨right', hright, h⟩ := bind_eq_ok.1 h
  exact ⟨left', right', hleft, hright, h⟩

/-- An operand in parentheses that is taken is a plain selection. -/
theorem Body.tree?_query {q : Query} {q' : LogicalSql.Query} (h : q.interpretOperand = .ok q') :
    ∃ s s', (Body.query q).tree? = some (.leaf s) ∧ s.interpret = .ok s' ∧ q' = .select s' := by
  obtain ⟨s, s', _, _, _, rfl, hs, rfl⟩ := Query.interpretOperand_eq_ok h
  refine ⟨s, s', ?_, hs, rfl⟩
  rw [Body.tree?, Body.tree?]

/-- The tree of operands that are taken is grouped as they are. -/
theorem Body.Grouped.tree {level : SetLevel} {b : Body} (hb : b.Grouped level) {t : SetTree Select}
    {q : LogicalSql.Query} (ht : b.tree? = some t) (h : b.interpret true = .ok q) :
    t.Grouped level := by
  induction hb generalizing t q with
  | select s =>
    rw [Body.tree?] at ht
    cases ht
    exact .leaf s
  | other shown =>
    rw [Body.tree?] at ht
    cases ht
  | query =>
    rw [Body.interpret] at h
    obtain ⟨s, -, hs, -⟩ := Body.tree?_query h
    rw [hs] at ht
    cases ht
    exact .leaf s
  | term hb ih => exact .term (ih ht h)
  | intersect hleft quantifier hright ihleft ihright =>
    obtain ⟨l, r, hl, hr, rfl⟩ := Body.tree?_setOperation ht
    obtain ⟨left', right', hleft', hright', -⟩ := Body.interpret_setOperation h
    exact .intersect (ihleft hl hleft') _ (ihright hr hright')
  | intersections hb ih => exact .intersections (ih ht h)
  | node hleft hop quantifier hright ihleft ihright =>
    obtain ⟨l, r, hl, hr, rfl⟩ := Body.tree?_setOperation ht
    obtain ⟨left', right', hleft', hright', -⟩ := Body.interpret_setOperation h
    exact .node (ihleft hl hleft') hop _ (ihright hr hright')

theorem Select.interpret_alone {s : Select} {s' : LogicalSql.Select} (h : s.interpret = .ok s') :
    s'.Alone :=
  (Select.interpret_flat s s' h).2

theorem combine_link {left : SetTree Select} {left' right' : SetTree LogicalSql.Select}
    (hleft : left.mapM Select.interpret = .ok left') (op : SetOperator) (all : Bool) :
    (LogicalSql.Query.select (left'.first.link left'.steps)).combine op all
        (.select (right'.first.link right'.steps)) =
      .ok (.select ((SetTree.node left' op all right').first.link
        (SetTree.node left' op all right').steps)) := by
  obtain ⟨hfirst, hsteps⟩ := SetTree.leaves_mapM (fun _ _ => Select.interpret_alone) hleft
  rw [LogicalSql.Query.combine, LogicalSql.Select.append_link hfirst hsteps]
  rfl

/-- Operands that are taken become one flat chain in their order. -/
theorem Body.interpret_operand : ∀ {b : Body} {t : SetTree Select} {q : LogicalSql.Query},
    b.tree? = some t → b.interpret true = .ok q →
    ∃ t', t.mapM Select.interpret = .ok t' ∧ q = .select (t'.first.link t'.steps)
  | .select s, t, q, ht, h => by
    rw [Body.tree?] at ht
    cases ht
    rw [Body.interpret] at h
    obtain ⟨s', hs', h⟩ := bind_eq_ok.1 h
    refine ⟨.leaf s', ?_, pure_eq_ok.1 h⟩
    rw [SetTree.mapM, hs']
    rfl
  | .query inner, t, q, ht, h => by
    rw [Body.interpret] at h
    obtain ⟨s, s', hs, hs', rfl⟩ := Body.tree?_query h
    rw [hs] at ht
    cases ht
    refine ⟨.leaf s', ?_, rfl⟩
    rw [SetTree.mapM, hs']
    rfl
  | .setOperation left op quantifier right, t, q, ht, h => by
    obtain ⟨l, r, hl, hr, rfl⟩ := Body.tree?_setOperation ht
    obtain ⟨left', right', hleft', hright', h⟩ := Body.interpret_setOperation h
    obtain ⟨l', hl', rfl⟩ := Body.interpret_operand hl hleft'
    obtain ⟨r', hr', rfl⟩ := Body.interpret_operand hr hright'
    rw [combine_link hl'] at h
    refine ⟨.node l' op quantifier.isAll r', ?_, (Except.ok.inj h).symm⟩
    rw [SetTree.mapM, hl', hr']
    rfl
  | .other shown, t, q, ht, h => by
    rw [Body.tree?] at ht
    cases ht

theorem Body.interpret_eq {b : Body} (h : ∀ inner, b ≠ .query inner) :
    b.interpret false = b.interpret true := by
  cases b with
  | select => rw [Body.interpret, Body.interpret]
  | query inner => exact absurd rfl (h inner)
  | setOperation => rw [Body.interpret, Body.interpret]
  | other => rw [Body.interpret, Body.interpret]

/-- A query is the flat chain of the selections of a tree, with these clauses behind it, and the
order of the chain is read as the tree. -/
def IsChain (t : SetTree Select) (orderBy : List LogicalSql.OrderItem)
    (limit offset : Option LogicalSql.Expr) (q : LogicalSql.Query) : Prop :=
  ∃ t', t.mapM Select.interpret = .ok t' ∧ SetTree.regroup t'.first t'.steps = t' ∧
    q = .select ((t'.first.link t'.steps).overrideWith orderBy limit offset)

/-- The clauses behind a chain stay behind it, if no others take their place. -/
theorem Query.interpret_isChain {q : Query} (hwith : q.withClause = none) {t : SetTree Select}
    (hbody : ∀ b, q.body.interpret false = .ok b → ∃ orderBy limit offset,
      IsChain t orderBy limit offset b ∧
        ((∀ inner, q.body ≠ .query inner) → orderBy = [] ∧ limit = none ∧ offset = none))
    {q' : LogicalSql.Query} (h : q.interpret = .ok q') :
    ∃ orderBy limit offset, IsChain t orderBy limit offset q' ∧
      ((∀ inner, q.body ≠ .query inner) → interpretOrder q.orderBy = .ok orderBy ∧
        interpretOption q.limit = .ok limit ∧ interpretOption q.offset = .ok offset) := by
  obtain ⟨withClause, body, orderBy, limit, offset, offsetRows, fetch, locks, purpose⟩ := q
  cases hwith
  obtain ⟨ctes, b, b', hctes, hb, hmodified, rfl⟩ := Query.interpret_eq_ok h
  rw [interpretWith] at hctes
  cases hctes
  obtain ⟨innerOrder, innerLimit, innerOffset, ⟨t', ht', hregroup, rfl⟩, hnone⟩ := hbody b hb
  cases hmodified with
  | other hne => exact absurd rfl (hne _)
  | @select s orderBy' limit' offset' horder hlimit hoffset =>
    refine ⟨if orderBy'.isEmpty then innerOrder else orderBy', limit' <|> innerLimit,
      offset' <|> innerOffset, ⟨t', ht', hregroup, ?_⟩, fun hne => ?_⟩
    · rw [enclose, LogicalSql.Select.overrideWith_overrideWith]
    · obtain ⟨rfl, rfl, rfl⟩ := hnone hne
      refine ⟨?_, ?_, ?_⟩
      · rw [horder]
        cases orderBy' <;> rfl
      · rw [hlimit]
        cases limit' <;> rfl
      · rw [hoffset]
        cases offset' <;> rfl

theorem Body.Grouped.interpret {level : SetLevel} {b : Body} (hb : b.Grouped level)
    {t : SetTree Select} {q : LogicalSql.Query} (ht : b.tree? = some t)
    (h : b.interpret false = .ok q) :
    ∃ orderBy limit offset, IsChain t orderBy limit offset q ∧
      ((∀ inner, b ≠ .query inner) → orderBy = [] ∧ limit = none ∧ offset = none) := by
  -- outside parentheses a body is taken as an operand is
  have hoperand : ∀ {level b t q}, Body.Grouped level b → (∀ inner, b ≠ .query inner) →
      b.tree? = some t → b.interpret false = .ok q →
      ∃ orderBy limit offset, IsChain t orderBy limit offset q ∧
        ((∀ inner, b ≠ .query inner) → orderBy = [] ∧ limit = none ∧ offset = none) := by
    intro level b t q hb hne ht h
    rw [Body.interpret_eq hne] at h
    obtain ⟨t', ht', rfl⟩ := Body.interpret_operand ht h
    have hregroup := SetTree.regroup_first_steps ((hb.tree ht h).mapM ht')
    refine ⟨[], none, none, ⟨t', ht', hregroup, ?_⟩, fun _ => ⟨rfl, rfl, rfl⟩⟩
    rw [LogicalSql.Select.overrideWith_nil]
  induction hb generalizing t q with
  | select s => exact hoperand (.select s) (fun _ => nofun) ht h
  | other shown =>
    rw [Body.tree?] at ht
    cases ht
  | @query inner hb ih =>
    obtain ⟨withClause, body, orderBy, limit, offset, offsetRows, fetch, locks, purpose⟩ := inner
    cases withClause with
    | some =>
      rw [Body.tree?] at ht
      cases ht
    | none =>
      rw [Body.tree?] at ht
      rw [Body.interpret] at h
      obtain ⟨orderBy', limit', offset', hchain, -⟩ :=
        Query.interpret_isChain rfl (fun b hb => ih ht hb) h
      exact ⟨orderBy', limit', offset', hchain, fun hne => absurd rfl (hne _)⟩
  | term hb ih => exact ih ht h
  | intersect hleft quantifier hright =>
    exact hoperand (.intersect hleft quantifier hright) (fun _ => nofun) ht h
  | intersections hb ih => exact ih ht h
  | node hleft hop quantifier hright =>
    exact hoperand (.node hleft hop quantifier hright) (fun _ => nofun) ht h

/-- A chain is printed as its selections with the operators between them, and then the clauses
behind it. -/
theorem IsChain.sql {t : SetTree Select} {orderBy : List LogicalSql.OrderItem}
    {limit offset : Option LogicalSql.Expr} {q : LogicalSql.Query}
    (h : IsChain t orderBy limit offset q) :
    ∃ t', t.mapM Select.interpret = .ok t' ∧
      q.sql = " ".intercalate (t'.first.sql :: t'.steps.map SetStep.sql ++
        modifierTexts orderBy limit offset) := by
  obtain ⟨t', ht', -, rfl⟩ := h
  obtain ⟨hfirst, hsteps⟩ := SetTree.leaves_mapM (fun _ _ => Select.interpret_alone) ht'
  refine ⟨t', ht', ?_⟩
  rw [LogicalSql.Query.sql, LogicalSql.Select.sql_overrideWith_link hfirst hsteps]

end LogicalSql.Surface
