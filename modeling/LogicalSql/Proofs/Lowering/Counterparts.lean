import LogicalSql.Proofs.Lowering.Frame
import LogicalSql.Proofs.Query.Places

/-! Where the parts of a query are found again when it is lowered. -/
namespace LogicalSql

open Lowering

/-- The places of the `i`th argument in what a call becomes. The first argument of `ISNULL` is there
twice. The arguments of `DATETIME` and `TYPEIDENTIFIER` are used up. -/
def LogicalFunction.moved : LogicalFunction → Nat → List Place
  | .dateTime, _ => []
  | .typeIdentifier, _ => []
  | .presentation, _ => [[]]
  | .year, _ => [[.argument 1]]
  | .quarter, _ => [[.argument 1]]
  | .isNull, 0 => [[.part 0, .part 0], [.part 2]]
  | .isNull, _ => [[.part 1]]
  | .substring, 0 => [[.argument 0, .part 0]]
  | .substring, i => [[.argument i]]
  | .dateTrunc, i => [[.argument (1 - i)]]
  | .datePart, i => [[.argument i]]

namespace Node

/-- Only the arguments of calls come to stand at other places. -/
def moved : Node → Step → List Place
  | .expr _ (.call f _), .argument i => f.moved i
  | _, step => [[step]]

theorem moved_part (n : Node) (i : Nat) : n.moved (.part i) = [[.part i]] := by
  unfold moved
  split
  case h_1 h => cases h
  case h_2 => rfl

/-- The places in the lowered query of what stands at a place in the query. -/
def counterparts : Node → Place → List Place
  | _, [] => [[]]
  | n, step :: p => (n.child step).elim [] fun m =>
    (n.moved step).flatMap fun before => (m.counterparts p).map (before ++ ·)

/-- The second node is what the first is lowered to. If it is a query, its branches have new fields
for these columns. -/
inductive Framed (R : SourceRule) : List String → Node → Node → Prop
  | query {columns : List String} {q q' : Query} (h : q.Framed R columns q') :
    Framed R columns (.query q) (.query q')
  | expr {T : TypeRule} {s s' : Scope} {e e' : Expr}
      (hrule : ∀ table name type, T table name type → R s s' table name type)
      (h : Expr.Framed R T e e') : Framed R [] (.expr s e) (.expr s' e')

end Node

/-- Whether a step leads into an expression that is no call. A query there is a query in an
expression. -/
def Step.isPart : Step → Bool
  | .part _ => true
  | _ => false

theorem exists_getElem?_of_forall₂ {α β : Type} {P : α → β → Prop} {xs : List α} {ys : List β}
    {i : Nat} {x : α} (h : List.Forall₂ P xs ys) (hx : xs[i]? = some x) :
    ∃ y, ys[i]? = some y ∧ P x y := by
  obtain ⟨hlength, hget⟩ := List.forall₂_iff_get.1 h
  obtain ⟨hi, rfl⟩ := List.getElem?_eq_some_iff.1 hx
  exact ⟨_, List.getElem?_eq_getElem (hlength ▸ hi), hget i hi (hlength ▸ hi)⟩

variable {R : SourceRule} {T : TypeRule} {s s' : Scope}

theorem FramedExprs.forall₂ {es es' : List Expr} (h : FramedExprs R T es es') :
    List.Forall₂ (Expr.Framed R T) es es' := by
  induction es generalizing es' with
  | nil =>
    cases h
    exact .nil
  | cons e es ih =>
    cases h with
    | cons he h => exact .cons he (ih h)

theorem FramedItems.forall₂ {items items' : List SelectItem} (h : FramedItems R T items items') :
    List.Forall₂ (SelectItem.Framed R T) items items' := by
  induction items generalizing items' with
  | nil =>
    cases h
    exact .nil
  | cons i items ih =>
    cases h with
    | cons hi h => exact .cons hi (ih h)

theorem FramedOrder.forall₂ {items items' : List OrderItem} (h : FramedOrder R T items items') :
    List.Forall₂ (fun o o' => Expr.Framed R T o.expr o'.expr) items items' := by
  induction items generalizing items' with
  | nil =>
    cases h
    exact .nil
  | cons i items ih =>
    cases h with
    | cons he h => exact .cons he (ih h)

theorem FramedJoins.conditions {joins joins' : List Join} (h : FramedJoins R T joins joins') :
    List.Forall₂ (fun j j' => FramedCondition R T j.condition j'.condition) joins joins' := by
  induction joins generalizing joins' with
  | nil =>
    cases h
    exact .nil
  | cons j joins ih =>
    cases h with
    | cons _ hcondition h => exact .cons hcondition (ih h)

theorem FramedOption.forall₂ {o o' : Option Expr} (h : FramedOption R T o o') :
    List.Forall₂ (Expr.Framed R T) o.toList o'.toList := by
  cases h with
  | none => exact .nil
  | some h => exact .cons h .nil

theorem FramedWhens.forall₂ {ws ws' : List (Expr × Expr)} (h : FramedWhens R T ws ws') :
    List.Forall₂ (Expr.Framed R T) (ws.flatMap fun w => [w.1, w.2])
      (ws'.flatMap fun w => [w.1, w.2]) := by
  induction ws generalizing ws' with
  | nil =>
    cases h
    exact .nil
  | cons w ws ih =>
    cases h with
    | cons hcondition hresult h => exact .cons hcondition (.cons hresult (ih h))

theorem FieldsGained.exists_eq_append {items fields : List SelectItem} {columns : List String}
    (h : FieldsGained T items columns fields) : ∃ types, fields = items ++ types := by
  induction h with
  | none => exact ⟨[], (List.append_nil _).symm⟩
  | written _ _ ih => exact ih
  | added _ _ _ _ _ ih =>
    obtain ⟨types, rfl⟩ := ih
    exact ⟨_, List.append_assoc _ _ _⟩

section Children

variable (hrule : ∀ table name type, T table name type → R s s' table name type)

include hrule

theorem framed_exprs {es es' : List Expr} (h : List.Forall₂ (Expr.Framed R T) es es') :
    List.Forall₂ (Node.Framed R []) (es.map (.expr s)) (es'.map (.expr s')) := by
  rw [List.forall₂_map_left_iff, List.forall₂_map_right_iff]
  exact h.imp fun _ _ he => .expr hrule he

/-- An expression that is no call keeps its parts. -/
theorem FramedParts.part {e e' : Expr} (h : FramedParts R T e e') {i : Nat} {m : Node}
    (hm : (e.parts s)[i]? = some m) :
    ∃ m', (e'.parts s')[i]? = some m' ∧ Node.Framed R [] m m' := by
  cases h with
  | column | literal | wildcard | parameter | call | typeIdentifier => cases hm
  | binary op hleft hright =>
    exact exists_getElem?_of_forall₂ (framed_exprs hrule (.cons hleft (.cons hright .nil))) hm
  | unary op h => exact exists_getElem?_of_forall₂ (framed_exprs hrule (.cons h .nil)) hm
  | function name distinct hargs =>
    exact exists_getElem?_of_forall₂ (framed_exprs hrule hargs.forall₂) hm
  | aggregate name distinct hargs hfilter =>
    have h := List.rel_append hargs.forall₂ hfilter.forall₂
    exact exists_getElem?_of_forall₂ (framed_exprs hrule h) hm
  | case hoperand hwhens hotherwise =>
    have h := List.rel_append (List.rel_append hoperand.forall₂ hwhens.forall₂) hotherwise.forall₂
    exact exists_getElem?_of_forall₂ (framed_exprs hrule h) hm
  | subquery h => exact exists_getElem?_of_forall₂ (.cons (.query h) .nil) hm
  | «exists» h => exact exists_getElem?_of_forall₂ (.cons (.query h) .nil) hm
  | inList negated he hlist =>
    exact exists_getElem?_of_forall₂ (framed_exprs hrule (.cons he hlist.forall₂)) hm
  | inSubquery negated he hquery =>
    exact exists_getElem?_of_forall₂ (.cons (.expr hrule he) (.cons (.query hquery) .nil)) hm
  | between negated he hlow hhigh =>
    have h := List.Forall₂.cons he (.cons hlow (.cons hhigh .nil))
    exact exists_getElem?_of_forall₂ (framed_exprs hrule h) hm
  | isNull negated h => exact exists_getElem?_of_forall₂ (framed_exprs hrule (.cons h .nil)) hm
  | cast dataType h => exact exists_getElem?_of_forall₂ (framed_exprs hrule (.cons h .nil)) hm
  | nested h => exact exists_getElem?_of_forall₂ (framed_exprs hrule (.cons h .nil)) hm

end Children

/-- A node that is there at all, and what it is lowered to. -/
def FramedChild (R : SourceRule) (x x' : Option Node) : Prop :=
  ∀ m, x = some m → ∃ m', x' = some m' ∧ ∃ columns, Node.Framed R columns m m'

namespace FramedChild

variable {α : Type} {P : α → α → Prop} {xs ys : List α} {x x' : Option Node} {i : Nat}

theorem none : FramedChild R none x' := by
  intro m hm
  cases hm

theorem some {columns : List String} {m m' : Node} (h : Node.Framed R columns m m') :
    FramedChild R (some m) (some m') := by
  rintro _ ⟨⟩
  exact ⟨m', rfl, columns, h⟩

theorem bind {f g : α → Option Node} (h : List.Forall₂ P xs ys)
    (hnode : ∀ {a b}, P a b → FramedChild R (f a) (g b)) :
    FramedChild R (xs[i]?.bind f) (ys[i]?.bind g) := by
  intro m hm
  obtain ⟨a, ha, hm⟩ := Option.bind_eq_some_iff.1 hm
  obtain ⟨b, hb, hab⟩ := exists_getElem?_of_forall₂ h ha
  rw [hb]
  exact hnode hab m hm

theorem map {f g : α → Node} (h : List.Forall₂ P xs ys)
    (hnode : ∀ {a b}, P a b → Node.Framed R [] (f a) (g b)) :
    FramedChild R (xs[i]?.map f) (ys[i]?.map g) := by
  rw [Option.map_eq_bind, Option.map_eq_bind]
  exact bind h fun hab => some (hnode hab)

/-- More items behind these. -/
theorem append {g : α → Option Node} (h : FramedChild R x (xs[i]?.bind g)) :
    FramedChild R x ((xs ++ ys)[i]?.bind g) := by
  intro m hm
  obtain ⟨m', hm', hframed⟩ := h m hm
  obtain ⟨a, ha, hm'⟩ := Option.bind_eq_some_iff.1 hm'
  obtain ⟨hi, -⟩ := List.getElem?_eq_some_iff.1 ha
  rw [List.getElem?_append_left hi, ha]
  exact ⟨m', hm', hframed⟩

end FramedChild

/-- The clauses of a `SELECT` stay where they are. -/
theorem Select.Framed.child {columns : List String} {x x' : Select}
    (h : Select.Framed R columns x x') (step : Step) :
    FramedChild R (x.child step) (x'.child step) := by
  cases h with
  | @intro _ _ _ _ _ sources sources' joins joins' _ _ _ _ _ _ _ _ _ _ _ _ _ _ T hrule hitems
      hgained hsources hjoins hfilter hgroupBy hhaving horderBy hlimit hoffset hrest =>
    have hoption : ∀ {o o' : Option Expr}, FramedOption R T o o' → FramedChild R
        (o.map (.expr ⟨sources, joins.map Join.source⟩))
        (o'.map (.expr ⟨sources', joins'.map Join.source⟩)) := by
      intro o o' h
      cases h with
      | none => exact .none
      | some h => exact .some (.expr hrule h)
    have hsource : ∀ {x x' : Source}, Source.Framed R x x' → FramedChild R x.node? x'.node? := by
      intro x x' h
      cases h with
      | subquery a h => exact .some (.query h)
      | table | function => exact .none
    cases step with
    | source i => exact .bind hsources hsource
    | joined i =>
      have h := hjoins.sources
      rw [List.forall₂_map_left_iff, List.forall₂_map_right_iff] at h
      exact .bind h hsource
    | item i =>
      obtain ⟨types, rfl⟩ := hgained.exists_eq_append
      refine .append (.bind hitems.forall₂ fun h => ?_)
      cases h with
      | expr a h => exact .some (.expr hrule h)
      | wildcard | wildcardOf => exact .none
    | condition i =>
      refine .bind hjoins.conditions fun h => ?_
      generalize Join.condition _ = c at h
      generalize Join.condition _ = c' at h
      cases h with
      | on h => exact .some (.expr hrule h)
      | none | «using» | natural => exact .none
    | filter => exact hoption hfilter
    | groupBy i => exact .map hgroupBy.forall₂ (.expr hrule)
    | having => exact hoption hhaving
    | orderBy i => exact .map horderBy.forall₂ (.expr hrule)
    | limit => exact hoption hlimit
    | offset => exact hoption hoffset
    | right =>
      cases hrest with
      | none => exact .none
      | some h => exact .some (.query h)
    | cte | body | argument | part => exact .none

/-- The arguments of a call are found in what it becomes. -/
theorem Lowering.Lowered.at?_moved {f : LogicalFunction} {args : List Expr} {e a : Expr} {i : Nat}
    (h : Lowered f args e) (ha : args[i]? = some a) {p : Place} (hp : p ∈ f.moved i) :
    (Node.expr s e).at? p = some (.expr s a) := by
  obtain ⟨hi, rfl⟩ := List.getElem?_eq_some_iff.1 ha
  cases h with
  | dateTime => cases hp
  | datePart =>
    obtain rfl := List.mem_singleton.1 hp
    simp [Node.child, Expr.arguments, hi]
  | year | quarter | presentation =>
    obtain rfl : i = 0 := Nat.lt_one_iff.1 hi
    obtain rfl := List.mem_singleton.1 hp
    rfl
  | isNull =>
    obtain rfl | rfl : i = 0 ∨ i = 1 := by simp at hi; omega
    · obtain rfl | rfl : p = [.part 0, .part 0] ∨ p = [.part 2] := by
        simpa [LogicalFunction.moved] using hp
      · rfl
      · rfl
    · obtain rfl := List.mem_singleton.1 hp
      rfl
  | substring =>
    obtain rfl | rfl | rfl : i = 0 ∨ i = 1 ∨ i = 2 := by simp at hi; omega
    all_goals
      obtain rfl := List.mem_singleton.1 hp
      rfl
  | dateTrunc =>
    obtain rfl | rfl : i = 0 ∨ i = 1 := by simp at hi; omega
    all_goals
      obtain rfl := List.mem_singleton.1 hp
      rfl

/-- A column or a constant. -/
def Expr.isLeaf : Expr → Bool
  | .column _ _ => true
  | .literal _ => true
  | _ => false

theorem Lowering.isLeaf_of_integerLiterals {args : List Expr} {components : List Int}
    (h : args.mapM integerLiteral? = some components) : ∀ a ∈ args, a.isLeaf = true := by
  intro a ha
  obtain ⟨n, rfl⟩ := integerLiterals h a ha
  rfl

/-- An argument without a place is a leaf, and so are the arguments of what becomes one. -/
theorem Lowering.Lowered.isLeaf {f : LogicalFunction} {args : List Expr} {e a : Expr} {i : Nat}
    (h : Lowered f args e) (hused : f.moved i = [] ∨ e.isLeaf = true) (ha : args[i]? = some a) :
    a.isLeaf = true := by
  cases h with
  | dateTime hargs => exact isLeaf_of_integerLiterals hargs a (List.mem_of_getElem? ha)
  | presentation value =>
    obtain rfl := List.mem_singleton.1 (List.mem_of_getElem? ha)
    exact hused.resolve_left (List.cons_ne_nil _ _)
  | isNull | substring => cases i <;> rcases hused with h | h <;> cases h
  | year | quarter | dateTrunc | datePart => rcases hused with h | h <;> cases h

namespace Node

variable {columns : List String} {n n' m : Node}

def isLeaf : Node → Bool
  | .query _ => false
  | .expr _ e => e.isLeaf

theorem at?_singleton (n : Node) (step : Step) : n.at? [step] = n.child step := by
  rw [at?_cons]
  exact Option.bind_fun_some _

/-- What stands one step below a node is lowered too, and found where that step leads to. -/
theorem Framed.child (h : Framed R columns n n') {step : Step} (hm : n.child step = some m) :
    ∃ m' columns', Framed R columns' m m' ∧ (step.isPart = true → columns' = []) ∧
      (n.moved step = [] ∨ n'.isLeaf = true → m'.isLeaf = true) ∧
      ∀ p ∈ n.moved step, n'.at? p = some m' := by
  cases h with
  | @query _ q q' h =>
    have hchild : FramedChild R ((Node.query q).child step) ((Node.query q').child step) := by
      cases h with
      | select h => exact h.child step
      | withCtes hctes hbody =>
        cases step with
        | cte i =>
          refine .map hctes fun h => ?_
          cases h with
          | intro h => exact .query h
        | body => exact .some (.query hbody)
        | _ => exact .none
      | raw => exact .none
    obtain ⟨m', hm', columns', hframed⟩ := hchild m hm
    refine ⟨m', columns', hframed, ?_, ?_, ?_⟩
    · intro hpart
      cases step with
      | part i => cases h <;> cases hm
      | _ => cases hpart
    · intro hused
      rcases hused with h | h <;> cases h
    · intro p hp
      rw [List.mem_singleton.1 hp, at?_singleton]
      exact hm'
  | @expr T s s' e e' hrule h =>
    obtain ⟨hparts, -⟩ := h
    cases step with
    | argument i =>
      obtain ⟨a, ha, rfl⟩ := Option.map_eq_some_iff.1 hm
      -- of all expressions only calls have arguments
      cases hparts with
      | call hargs hlowered =>
        obtain ⟨a', ha', hframed⟩ := exists_getElem?_of_forall₂ hargs.forall₂ ha
        exact ⟨_, [], .expr hrule hframed, fun _ => rfl, fun hused => hlowered.isLeaf hused ha',
          fun p hp => hlowered.at?_moved ha' hp⟩
      | typeIdentifier hargs =>
        obtain ⟨a', ha', hframed⟩ := exists_getElem?_of_forall₂ hargs.forall₂ ha
        obtain rfl := List.mem_singleton.1 (List.mem_of_getElem? ha')
        exact ⟨_, [], .expr hrule hframed, fun _ => rfl, fun _ => rfl, List.forall_mem_nil _⟩
      | _ => cases ha
    | part i =>
      obtain ⟨m', hm', hframed⟩ := hparts.part hrule hm
      refine ⟨m', [], hframed, fun _ => rfl, ?_, ?_⟩
      · rintro (hused | hleaf)
        · rw [moved_part] at hused
          cases hused
        · cases e' with
          | column | literal => cases hm'
          | _ => cases hleaf
      · intro p hp
        rw [moved_part, List.mem_singleton] at hp
        rw [hp, at?_singleton]
        exact hm'
    | _ => cases hm

/-- What stands at a place is lowered too, and found at all counterparts of the place. -/
theorem Framed.at? (h : Framed R columns n n') {p : Place} (hm : n.at? p = some m) :
    ∃ m' columns', Framed R columns' m m' ∧
      (p.getLast?.elim (columns = []) (·.isPart = true) → columns' = []) ∧
      ∀ p' ∈ n.counterparts p, n'.at? p' = some m' := by
  induction p generalizing n n' columns with
  | nil =>
    cases hm
    refine ⟨n', columns, h, id, ?_⟩
    intro p' hp'
    rw [List.mem_singleton.1 hp']
    rfl
  | cons step p ih =>
    obtain ⟨c, hc, hm⟩ := Option.bind_eq_some_iff.1 hm
    obtain ⟨c', columns', hframed, hpart, -, hmoved⟩ := h.child hc
    obtain ⟨m', columns'', hframed', hlast, hplaces⟩ := ih hframed hm
    refine ⟨m', columns'', hframed', ?_, ?_⟩
    · intro hend
      apply hlast
      -- behind the last step, it is that step which decides
      cases p with
      | nil => exact hpart hend
      | cons step' p => exact hend
    · intro p' hp'
      simp only [counterparts, hc, Option.elim_some, List.mem_flatMap, List.mem_map] at hp'
      obtain ⟨before, hbefore, after, hafter, rfl⟩ := hp'
      rw [at?_append, hmoved before hbefore]
      exact hplaces after hafter

/-- No query is lowered to a leaf, or to a part of one. -/
theorem Framed.at?_ne_query (h : Framed R columns n n') (hleaf : n'.isLeaf = true) (p : Place)
    (q : Query) : n.at? p ≠ some (.query q) := by
  induction p generalizing n n' columns with
  | nil =>
    intro hq
    cases hq
    cases h
    cases hleaf
  | cons step p ih =>
    intro hq
    obtain ⟨c, hc, hq⟩ := Option.bind_eq_some_iff.1 hq
    obtain ⟨c', columns', hframed, -, hused, -⟩ := h.child hc
    exact ih hframed (hused (.inr hleaf)) hq

/-- A query is never used up. -/
theorem Framed.counterparts_ne_nil (h : Framed R columns n n') {p : Place} {q : Query}
    (hq : n.at? p = some (.query q)) : n.counterparts p ≠ [] := by
  induction p generalizing n n' columns with
  | nil => exact List.cons_ne_nil _ _
  | cons step p ih =>
    obtain ⟨c, hc, hq⟩ := Option.bind_eq_some_iff.1 hq
    obtain ⟨c', columns', hframed, -, hused, -⟩ := h.child hc
    obtain ⟨after, hafter⟩ := List.exists_mem_of_ne_nil _ (ih hframed hq)
    have hmoved : n.moved step ≠ [] := fun hnil =>
      hframed.at?_ne_query (hused (.inl hnil)) p q hq
    obtain ⟨before, hbefore⟩ := List.exists_mem_of_ne_nil _ hmoved
    apply List.ne_nil_of_mem (a := before ++ after)
    simp only [counterparts, hc, Option.elim_some, List.mem_flatMap, List.mem_map]
    exact ⟨before, hbefore, after, hafter, rfl⟩

end Node

end LogicalSql
