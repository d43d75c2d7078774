import LogicalSql.Proofs.Query.Places
import Mathlib.Data.List.Forall2

/-! Tours through the calls of a query: a call comes after those in its arguments, and the clauses
of a `SELECT` come after its derived tables and before the rest of a chain of set operations. -/
namespace LogicalSql

/-- When a `SELECT` has a part of it walked. -/
def Step.turn? : Step → Option Nat
  | .source _ | .joined _ => some 0
  | .item _ | .condition _ | .filter | .groupBy _ | .having => some 1
  | .orderBy _ | .limit | .offset => some 1
  | .right => some 2
  | .cte _ | .body | .argument _ | .part _ => none

/-- The call at the first place has to be met after the one at the second. -/
inductive Place.After : Place → Place → Prop
  | argument (i : Nat) (p : Place) : After [] (.argument i :: p)
  | turn {s t : Step} {m n : Nat} (hs : s.turn? = some m) (ht : t.turn? = some n) (h : n < m)
      (p p' : Place) : After (s :: p) (t :: p')
  | under (s : Step) {p p' : Place} (h : After p p') : After (s :: p) (s :: p')

/-- The places of all calls, each once, and none before one that has to be met earlier. -/
structure Tour (visitAt? : Place → Option Visit) (places : List Place) : Prop where
  nodup : places.Nodup
  mem : ∀ p, p ∈ places ↔ (visitAt? p).isSome = true
  order : places.Pairwise fun p p' => ¬Place.After p p'

/-! ## Steps in order -/

namespace Step

def rank : Step → Nat
  | .cte _ | .source _ | .argument _ => 0
  | .body | .joined _ | .part _ => 1
  | .item _ => 2
  | .condition _ => 3
  | .filter => 4
  | .groupBy _ => 5
  | .having => 6
  | .orderBy _ => 7
  | .limit => 8
  | .offset => 9
  | .right => 10

def index : Step → Nat
  | .cte i | .source i | .joined i | .item i | .condition i | .groupBy i | .orderBy i | .argument i
  | .part i => i
  | .body | .filter | .having | .limit | .offset | .right => 0

def Precedes (s t : Step) : Prop := s.rank < t.rank ∨ s.rank = t.rank ∧ s.index < t.index

variable {s t : Step}

theorem turn_mono {m n : Nat} (h : s.rank ≤ t.rank) (hs : s.turn? = some m)
    (ht : t.turn? = some n) : m ≤ n := by
  cases s <;> cases t <;> simp_all [rank, turn?] <;> omega

theorem Precedes.ne (h : s.Precedes t) : s ≠ t := by
  rintro rfl
  rcases h with h | ⟨-, h⟩ <;> exact Nat.lt_irrefl _ h

theorem Precedes.not_after (h : s.Precedes t) (p p' : Place) :
    ¬Place.After (s :: p) (t :: p') := by
  intro hafter
  cases hafter with
  | turn hs ht hlt =>
    have hrank : s.rank ≤ t.rank := by
      rcases h with h | ⟨h, -⟩ <;> omega
    have hle := turn_mono hrank hs ht
    omega
  | under _ _ => exact h.ne rfl

end Step

/-! ## The nodes below a node -/

/-- Nodes with the steps that lead to them, where there are any. -/
def indexed (step : Nat → Step) : List (Option Node) → List (Step × Node)
  | [] => []
  | n :: ns => (n.map (step 0, ·)).toList ++ indexed (fun i => step (i + 1)) ns

@[simp] theorem indexed_nil (step : Nat → Step) : indexed step [] = [] := rfl

theorem mem_indexed {step : Nat → Step} {ns : List (Option Node)} {s : Step} {m : Node} :
    (s, m) ∈ indexed step ns ↔ ∃ i, step i = s ∧ ns[i]? = some (some m) := by
  induction ns generalizing step with
  | nil => simp [indexed]
  | cons n ns ih =>
    simp only [indexed, List.mem_append, ih, Option.mem_toList,
      Option.map_eq_some_iff, Prod.mk.injEq]
    constructor
    · rintro (⟨n, rfl, rfl, rfl⟩ | ⟨i, hi, hm⟩)
      · exact ⟨0, rfl, rfl⟩
      · exact ⟨i + 1, hi, hm⟩
    · rintro ⟨_ | i, hi, hm⟩
      · exact .inl ⟨m, by simpa using hm, hi, rfl⟩
      · exact .inr ⟨i, hi, hm⟩

theorem map_snd_indexed {α : Type} (step : Nat → Step) (f : α → Option Node) (xs : List α) :
    (indexed step (xs.map f)).map Prod.snd = xs.filterMap f := by
  induction xs generalizing step with
  | nil => rfl
  | cons x xs ih =>
    rw [List.map_cons, indexed, List.map_append, ih, List.filterMap_cons]
    cases f x <;> rfl

/-- Steps in order, all of a rank less than `r`. -/
structure Ordered (r : Nat) (cs : List (Step × Node)) : Prop where
  pairwise : (cs.map Prod.fst).Pairwise Step.Precedes
  rank_lt : ∀ c ∈ cs, c.1.rank < r

namespace Ordered

variable {r : Nat} {cs : List (Step × Node)}

theorem nil : Ordered 0 [] := ⟨.nil, List.forall_mem_nil _⟩

theorem append {cs' : List (Step × Node)} (h : Ordered r cs)
    (hpairwise : (cs'.map Prod.fst).Pairwise Step.Precedes) (hrank : ∀ c ∈ cs', c.1.rank = r) :
    Ordered (r + 1) (cs ++ cs') := by
  refine ⟨?_, ?_⟩
  · rw [List.map_append, List.pairwise_append]
    refine ⟨h.pairwise, hpairwise, ?_⟩
    simp only [List.forall_mem_map]
    intro c hc c' hc'
    have hlt := h.rank_lt c hc
    have heq := hrank c' hc'
    exact .inl (by omega)
  · intro c hc
    rcases List.mem_append.1 hc with hc | hc
    · exact Nat.lt_succ_of_lt (h.rank_lt c hc)
    · rw [hrank c hc]
      exact Nat.lt_succ_self r

theorem pairwise_indexed {step : Nat → Step} {k : Nat} (hrank : ∀ i, (step i).rank = r)
    (hindex : ∀ i, (step i).index = k + i) (ns : List (Option Node)) :
    ((indexed step ns).map Prod.fst).Pairwise Step.Precedes := by
  induction ns generalizing step k with
  | nil => exact .nil
  | cons n ns ih =>
    rw [indexed, List.map_append, List.pairwise_append]
    refine ⟨?_, ih (k := k + 1) (fun i => hrank _) (fun i => ?_), ?_⟩
    · cases n <;> simp
    · rw [hindex]
      omega
    · simp only [List.forall_mem_map]
      rintro ⟨s, m⟩ hs ⟨t, m'⟩ ht
      obtain ⟨i, rfl, -⟩ := mem_indexed.1 ht
      simp only [Option.mem_toList, Option.map_eq_some_iff, Prod.mk.injEq] at hs
      obtain ⟨_, _, rfl, -⟩ := hs
      refine .inr ⟨(hrank 0).trans (hrank _).symm, ?_⟩
      rw [hindex, hindex]
      omega

theorem list (h : Ordered r cs) {step : Nat → Step} (hrank : ∀ i, (step i).rank = r)
    (hindex : ∀ i, (step i).index = i) (ns : List (Option Node)) :
    Ordered (r + 1) (cs ++ indexed step ns) := by
  refine h.append (pairwise_indexed hrank (k := 0) (fun i => ?_) ns) ?_
  · rw [hindex, Nat.zero_add]
  · rintro ⟨s, m⟩ hs
    obtain ⟨i, rfl, -⟩ := mem_indexed.1 hs
    exact hrank i

theorem option (h : Ordered r cs) {step : Step} (hrank : step.rank = r) (n : Option Node) :
    Ordered (r + 1) (cs ++ (n.map (step, ·)).toList) := by
  refine h.append ?_ ?_
  · cases n <;> simp
  · rintro ⟨s, m⟩ hs
    simp only [Option.mem_toList, Option.map_eq_some_iff, Prod.mk.injEq] at hs
    obtain ⟨_, _, rfl, -⟩ := hs
    exact hrank

end Ordered

/-- In the order of a walk. -/
def Select.children (s : Select) : List (Step × Node) :=
  [] ++ indexed .source (s.sources.map Source.node?) ++
    indexed .joined (s.joins.map (·.source.node?)) ++
    indexed .item (s.projections.map (·.node? s.scope)) ++
    indexed .condition (s.joins.map (·.condition.bind (·.node? s.scope))) ++
    ((s.filter.map (Node.expr s.scope)).map (Step.filter, ·)).toList ++
    indexed .groupBy (s.groupBy.map (some <| .expr s.scope ·)) ++
    ((s.having.map (Node.expr s.scope)).map (Step.having, ·)).toList ++
    indexed .orderBy (s.orderBy.map (some <| .expr s.scope ·.expr)) ++
    ((s.limit.map (Node.expr s.scope)).map (Step.limit, ·)).toList ++
    ((s.offset.map (Node.expr s.scope)).map (Step.offset, ·)).toList ++
    ((s.setOperation.map (Node.query ·.right)).map (Step.right, ·)).toList

def Node.children : Node → List (Step × Node)
  | .query (.select s) => s.children
  | .query (.withCtes _ ctes body) =>
    [] ++ indexed .cte (ctes.map (some <| .query ·.query)) ++
      ((some (Node.query body)).map (Step.body, ·)).toList
  | .query (.raw _) => []
  | .expr scope e =>
    [] ++ indexed .argument (e.arguments.map (some <| .expr scope ·)) ++
      indexed .part ((e.parts scope).map some)

theorem Select.children_ordered (s : Select) : Ordered 11 s.children :=
  Ordered.nil.list (fun _ => rfl) (fun _ => rfl) _
    |>.list (fun _ => rfl) (fun _ => rfl) _
    |>.list (fun _ => rfl) (fun _ => rfl) _
    |>.list (fun _ => rfl) (fun _ => rfl) _
    |>.option rfl _
    |>.list (fun _ => rfl) (fun _ => rfl) _
    |>.option rfl _
    |>.list (fun _ => rfl) (fun _ => rfl) _
    |>.option rfl _
    |>.option rfl _
    |>.option rfl _

theorem Select.mem_children {s : Select} {step : Step} {m : Node} :
    (step, m) ∈ s.children ↔ s.child step = some m := by
  cases step <;>
    simp [children, child, mem_indexed, Option.bind_eq_some_iff (x := s.sources[_]?),
      Option.bind_eq_some_iff (x := s.joins[_]?), Option.bind_eq_some_iff (x := s.projections[_]?)]

namespace Node

variable {n m : Node} {step : Step}

theorem children_ordered (n : Node) : (n.children.map Prod.fst).Pairwise Step.Precedes := by
  cases n with
  | query q =>
    cases q with
    | select s => exact s.children_ordered.pairwise
    | withCtes recursive ctes body =>
      exact (Ordered.nil.list (fun _ => rfl) (fun _ => rfl) _ |>.option rfl _).pairwise
    | raw text => exact .nil
  | expr scope e =>
    exact (Ordered.nil.list (fun _ => rfl) (fun _ => rfl) _
      |>.list (fun _ => rfl) (fun _ => rfl) _).pairwise

theorem mem_children : (step, m) ∈ n.children ↔ n.child step = some m := by
  cases n with
  | query q =>
    cases q with
    | select s => exact Select.mem_children
    | withCtes recursive ctes body =>
      cases step with
      | body => simp [children, child, mem_indexed, eq_comm (a := m)]
      | _ => simp [children, child, mem_indexed]
    | raw text => simp [children, child]
  | expr scope e => cases step <;> simp [children, child, mem_indexed]

end Node

/-! ## Tours -/

/-- These are the visits of a tour through a node. -/
def Toured (n : Node) (visits : List Visit) : Prop :=
  ∃ places, Tour n.visitAt? places ∧ visits = places.filterMap n.visitAt?

variable {n : Node}

theorem Node.visitAt?_cons {c : Step × Node} (h : n.child c.1 = some c.2) (p : Place) :
    n.visitAt? (c.1 :: p) = c.2.visitAt? p := by
  simp [visitAt?, h]

/-- Tours through nodes below, put one behind the other. -/
theorem exists_places {cs : List (Step × Node)} {visits : List (List Visit)}
    (hchild : ∀ c ∈ cs, n.child c.1 = some c.2) (hsteps : (cs.map Prod.fst).Pairwise Step.Precedes)
    (htours : List.Forall₂ (fun c vs => Toured c.2 vs) cs visits) :
    ∃ places : List Place, (∀ p, p ∈ places ↔
        ∃ c ∈ cs, ∃ p', p = c.1 :: p' ∧ (c.2.visitAt? p').isSome = true) ∧
      places.Pairwise (fun p p' => p ≠ p' ∧ ¬Place.After p p') ∧
      visits.flatten = places.filterMap n.visitAt? := by
  induction htours with
  | nil => exact ⟨[], by simp, .nil, rfl⟩
  | @cons c vs cs visits htour _ ih =>
    obtain ⟨ps, htour, rfl⟩ := htour
    rw [List.forall_mem_cons] at hchild
    rw [List.map_cons, List.pairwise_cons] at hsteps
    obtain ⟨places, hmem, hpairwise, hvisits⟩ := ih hchild.2 hsteps.2
    refine ⟨ps.map (c.1 :: ·) ++ places, ?_, ?_, ?_⟩
    · intro p
      simp only [List.mem_append, List.mem_map, htour.mem, hmem, List.exists_mem_cons_iff]
      refine or_congr ?_ Iff.rfl
      constructor
      · rintro ⟨p', hp', rfl⟩
        exact ⟨p', rfl, hp'⟩
      · rintro ⟨p', rfl, hp'⟩
        exact ⟨p', hp', rfl⟩
    · rw [List.pairwise_append, List.pairwise_map]
      refine ⟨?_, hpairwise, ?_⟩
      · refine (htour.nodup.and htour.order).imp ?_
        rintro p p' ⟨hne, hafter⟩
        refine ⟨fun h => hne (List.cons.inj h).2, fun h => ?_⟩
        cases h with
        | turn hs ht hlt =>
          rw [hs] at ht
          cases ht
          exact Nat.lt_irrefl _ hlt
        | under _ h => exact hafter h
      · intro p hp p' hp'
        obtain ⟨q, -, rfl⟩ := List.mem_map.1 hp
        obtain ⟨c', hc', q', rfl, -⟩ := (hmem p').1 hp'
        have hprecedes := hsteps.1 c'.1 (List.mem_map_of_mem hc')
        exact ⟨fun h => hprecedes.ne (List.cons.inj h).1, hprecedes.not_after q q'⟩
    · rw [List.flatten_cons, List.filterMap_append, List.filterMap_map, hvisits]
      congr 1
      refine List.filterMap_congr fun p _ => ?_
      exact (n.visitAt?_cons hchild.1 p).symm

/-- A node's own call is met behind all calls below it. -/
theorem toured_of_children {visits : List (List Visit)}
    (htours : List.Forall₂ (fun c vs => Toured c.2 vs) n.children visits) :
    Toured n (visits.flatten ++ n.visit?.toList) := by
  obtain ⟨places, hmem, hpairwise, hvisits⟩ :=
    exists_places (fun _ hc => Node.mem_children.1 hc) n.children_ordered htours
  have hbelow : ∀ step p, step :: p ∈ places ↔ (n.visitAt? (step :: p)).isSome = true := by
    intro step p
    rw [hmem]
    constructor
    · rintro ⟨c, hc, p', heq, hp'⟩
      cases heq
      rwa [n.visitAt?_cons (Node.mem_children.1 hc)]
    · intro h
      cases hm : n.child step with
      | none => simp [Node.visitAt?, hm] at h
      | some m =>
        refine ⟨(step, m), Node.mem_children.2 hm, p, rfl, ?_⟩
        rwa [n.visitAt?_cons (c := (step, m)) hm] at h
  have hnil : [] ∉ places := by
    rw [hmem]
    rintro ⟨c, -, p', heq, -⟩
    cases heq
  have hown : ∀ v, n.visit? = some v → n.visitAt? [] = some v := fun v hv => hv
  cases hv : n.visit? with
  | none =>
    refine ⟨places, ⟨hpairwise.imp And.left, ?_, hpairwise.imp And.right⟩, ?_⟩
    · rintro (_ | ⟨step, p⟩)
      · simp [hnil, Node.visitAt?, hv]
      · exact hbelow step p
    · simp [hvisits]
  | some v =>
    have hlast : (places ++ [[]]).Pairwise fun p p' => p ≠ p' ∧ ¬Place.After p p' := by
      rw [List.pairwise_append]
      refine ⟨hpairwise, List.pairwise_singleton _ _, ?_⟩
      intro p hp p' hp'
      cases List.mem_singleton.1 hp'
      refine ⟨fun h => hnil (h ▸ hp), fun h => ?_⟩
      cases h
    refine ⟨places ++ [[]], ⟨hlast.imp And.left, ?_, hlast.imp And.right⟩, ?_⟩
    · rintro (_ | ⟨step, p⟩)
      · simp [hown v hv]
      · simpa using hbelow step p
    · simp [hvisits, hown v hv]

end LogicalSql
