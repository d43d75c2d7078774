import LogicalSql.Proofs.Lowering.Counterparts
import LogicalSql.Proofs.Lowering.WalkFrame

/-! The result columns of a query and of the queries in its expressions. Lowering adds to them only
what wildcards take from derived tables that have come to tell types. -/
namespace LogicalSql

open Lowering

/-- The result columns of a query, each by its explicit alias, and the number of fields in each
derived table that wildcards take columns from, at any depth. -/
structure Heading where
  columns : List (Option String)
  fieldCounts : List Nat
  deriving DecidableEq, Repr

namespace Heading

def empty : Heading := ⟨[], []⟩

def append (k k' : Heading) : Heading :=
  ⟨k.columns ++ k'.columns, k.fieldCounts ++ k'.fieldCounts⟩

/-- One heading after the other, if all are known. -/
def concat : List (Option Heading) → Option Heading
  | [] => some empty
  | k :: ks => do return (← k).append (← concat ks)

/-- What a wildcard takes from a derived table with so many fields. -/
def ofTable (n : Nat) (k : Heading) : Heading := ⟨k.columns, n :: k.fieldCounts⟩

end Heading

/-- The number of fields in the first branch of a query. -/
def Query.fieldCount : Query → Nat
  | .select s => s.projections.length
  | .withCtes _ _ body => body.fieldCount
  | .raw _ => 0

/-- A wildcard stands for the columns of all sources, or of the first source with its name. -/
def SelectItem.heading? (sources : List (Option String × Option Heading)) :
    SelectItem → Option Heading
  | .wildcard => Heading.concat (sources.map Prod.snd)
  | .wildcardOf table => (sources.find? (·.1 == some table)).bind Prod.snd
  | .expr _ a => some ⟨[a], []⟩

mutual

/-- A chain of set operations has the columns of its first branch. It is not known what a wildcard
takes from sources other than derived tables. -/
def Query.heading? : Query → Option Heading
  | .select s => s.heading?
  | .withCtes _ _ body => body.heading?
  | .raw _ => none

def Select.heading? : Select → Option Heading
  | { projections, sources, joins, .. } =>
    Heading.concat (projections.map
      (SelectItem.heading? (sourceHeadings sources ++ joinHeadings joins)))

/-- Sources by their names. -/
def sourceHeadings : List Source → List (Option String × Option Heading)
  | [] => []
  | s :: ss => (s.bindingName, s.heading?) :: sourceHeadings ss

def joinHeadings : List Join → List (Option String × Option Heading)
  | [] => []
  | ⟨_, source, _⟩ :: js => (source.bindingName, source.heading?) :: joinHeadings js

def Source.heading? : Source → Option Heading
  | .table _ _ _ => none
  | .subquery query _ => query.heading?.map (.ofTable query.fieldCount)
  | .function _ _ _ => none

end

/-- The second list has the columns of the first in their order, and so many new columns for
types. -/
inductive Widened : Nat → List (Option String) → List (Option String) → Prop
  | nil : Widened 0 [] []
  | keep {n : Nat} {cs cs' : List (Option String)} (a : Option String) (h : Widened n cs cs') :
    Widened n (a :: cs) (a :: cs')
  | type {n : Nat} {cs cs' : List (Option String)} (column : String) (h : Widened n cs cs') :
    Widened (n + 1) cs (some (typeAlias column) :: cs')

namespace Widened

variable {m n : Nat} {cs cs' ds ds' : List (Option String)}

theorem append (hc : Widened m cs cs') (hd : Widened n ds ds') :
    Widened (m + n) (cs ++ ds) (cs' ++ ds') := by
  induction hc with
  | nil =>
    rw [Nat.zero_add]
    exact hd
  | keep a _ ih => exact .keep a ih
  | type column _ ih =>
    rw [Nat.add_right_comm]
    exact .type column ih

theorem types (names : List String) :
    Widened names.length [] (names.map fun c => some (typeAlias c)) := by
  induction names with
  | nil => exact .nil
  | cons name names ih => exact .type name ih

theorem length (h : Widened n cs cs') : cs'.length = cs.length + n := by
  induction h with
  | nil => rfl
  | keep _ _ ih | type _ _ ih =>
    simp only [List.length_cons, ih]
    omega

theorem eq_iff (h : Widened n cs cs') : cs' = cs ↔ n = 0 := by
  constructor
  · intro heq
    have hlength := h.length
    rw [heq] at hlength
    omega
  · intro hn
    induction h with
    | nil => rfl
    | keep a _ ih => rw [ih hn]
    | type => cases hn

end Widened

/-- Tables with so many fields each have gained so many in all. -/
inductive Gained : Nat → List Nat → List Nat → Prop
  | nil : Gained 0 [] []
  | cons {n k m m' : Nat} {ms ms' : List Nat} (hm : m' = m + k) (h : Gained n ms ms') :
    Gained (n + k) (m :: ms) (m' :: ms')

namespace Gained

variable {m n : Nat} {ms ms' ns ns' : List Nat}

theorem append (hm : Gained m ms ms') (hn : Gained n ns ns') :
    Gained (m + n) (ms ++ ns) (ms' ++ ns') := by
  induction hm with
  | nil =>
    rw [Nat.zero_add]
    exact hn
  | cons hm _ ih =>
    rw [Nat.add_right_comm]
    exact .cons hm ih

theorem eq_iff (h : Gained n ms ms') : ms' = ms ↔ n = 0 := by
  induction h with
  | nil => exact iff_of_true rfl rfl
  | cons hm _ ih =>
    rw [List.cons.injEq, ih]
    omega

end Gained

namespace Heading

theorem concat_append_singleton (ks : List (Option Heading)) (l : Heading) :
    concat (ks ++ [some l]) = (concat ks).map (·.append l) := by
  induction ks with
  | nil => simp [concat, append, empty]
  | cons k ks ih =>
    cases k with
    | none => rfl
    | some k =>
      simp only [List.cons_append, concat, ih]
      cases concat ks with
      | none => rfl
      | some k' => simp [append]

/-- There are new columns for types, as many as the derived tables have gained fields. -/
def Grown (k k' : Heading) : Prop :=
  ∃ n, Widened n k.columns k'.columns ∧ Gained n k.fieldCounts k'.fieldCounts

namespace Grown

theorem column (a : Option String) : Grown ⟨[a], []⟩ ⟨[a], []⟩ := ⟨0, .keep a .nil, .nil⟩

theorem empty : Grown .empty .empty := ⟨0, .nil, .nil⟩

theorem append {k k' l l' : Heading} (hk : k.Grown k') (hl : l.Grown l') :
    (k.append l).Grown (k'.append l') := by
  obtain ⟨m, hm, hm'⟩ := hk
  obtain ⟨n, hn, hn'⟩ := hl
  exact ⟨m + n, hm.append hn, hm'.append hn'⟩

/-- The heading of a query that gains fields for types itself. -/
theorem ofTable {k k' : Heading} (hk : k.Grown k') (m : Nat) (names : List String) :
    (k.ofTable m).Grown (Heading.ofTable (m + names.length)
      ⟨k'.columns ++ names.map fun c => some (typeAlias c), k'.fieldCounts⟩) := by
  obtain ⟨n, hcolumns, hcounts⟩ := hk
  refine ⟨n + names.length, ?_, .cons rfl hcounts⟩
  have h := hcolumns.append (Widened.types names)
  rwa [List.append_nil] at h

/-- A query that gains no fields itself. -/
theorem of_ofTable {k k' : Heading} {m : Nat} (h : (k.ofTable m).Grown (k'.ofTable m)) :
    k.Grown k' := by
  obtain ⟨n, hcolumns, hcounts⟩ := h
  cases hcounts with
  | @cons n j _ _ _ _ hm hcounts =>
    obtain rfl : j = 0 := by omega
    exact ⟨n, hcolumns, hcounts⟩

end Grown

end Heading

/-- Where the first heading is known, the second has grown from it. -/
def HeadingGrown (o o' : Option Heading) : Prop :=
  ∀ k, o = some k → ∃ k', o' = some k' ∧ k.Grown k'

theorem headingGrown_concat {ks ks' : List (Option Heading)}
    (h : List.Forall₂ HeadingGrown ks ks') :
    HeadingGrown (Heading.concat ks) (Heading.concat ks') := by
  induction h with
  | nil =>
    rintro _ ⟨⟩
    exact ⟨_, rfl, .empty⟩
  | cons ho _ ih =>
    intro k hk
    obtain ⟨a, ha, hk⟩ := Option.bind_eq_some_iff.1 hk
    obtain ⟨b, hb, hk⟩ := Option.bind_eq_some_iff.1 hk
    cases hk
    obtain ⟨a', ha', hgrown⟩ := ho a ha
    obtain ⟨b', hb', hgrown'⟩ := ih b hb
    refine ⟨a'.append b', ?_, hgrown.append hgrown'⟩
    simp only [Heading.concat, ha', hb', bind, Option.bind_some, pure]

/-- Sources by their names, as written and as they are left. -/
abbrev SourcesGrown : List (Option String × Option Heading) →
    List (Option String × Option Heading) → Prop :=
  List.Forall₂ fun x x' => x'.1 = x.1 ∧ HeadingGrown x.2 x'.2

theorem SourcesGrown.find? {S S' : List (Option String × Option Heading)} (h : SourcesGrown S S')
    (table : String) :
    HeadingGrown ((S.find? (·.1 == some table)).bind Prod.snd)
      ((S'.find? (·.1 == some table)).bind Prod.snd) := by
  induction h with
  | nil =>
    intro k hk
    cases hk
  | @cons x x' _ _ hx _ ih =>
    rw [List.find?_cons, List.find?_cons, hx.1]
    cases x.1 == some table with
    | true => exact hx.2
    | false => exact ih

variable {R : SourceRule} {T : TypeRule}

theorem SelectItem.Framed.heading {S S' : List (Option String × Option Heading)}
    (hS : SourcesGrown S S') {i i' : SelectItem} (h : SelectItem.Framed R T i i') :
    HeadingGrown (i.heading? S) (i'.heading? S') := by
  cases h with
  | wildcard =>
    apply headingGrown_concat
    rw [List.forall₂_map_left_iff, List.forall₂_map_right_iff]
    exact hS.imp fun _ _ hx => hx.2
  | wildcardOf table => exact hS.find? table
  | expr a _ =>
    rintro _ ⟨⟩
    exact ⟨_, rfl, .column a⟩

/-- Each field gained is one column. -/
theorem FieldsGained.heading {items fields : List SelectItem} {columns : List String}
    (h : FieldsGained T items columns fields) {S : List (Option String × Option Heading)}
    {k : Heading} (hk : Heading.concat (items.map (SelectItem.heading? S)) = some k) :
    ∃ names : List String, fields.length = items.length + names.length ∧
      Heading.concat (fields.map (SelectItem.heading? S)) =
        some ⟨k.columns ++ names.map fun c => some (typeAlias c), k.fieldCounts⟩ := by
  induction h with
  | none => exact ⟨[], rfl, by rw [List.map_nil, List.append_nil]; exact hk⟩
  | written _ _ ih => exact ih
  | @added _ fields column _ _ _ _ _ _ _ _ ih =>
    obtain ⟨names, hlength, hfields⟩ := ih
    refine ⟨names ++ [column], ?_, ?_⟩
    · simp only [List.length_append, List.length_singleton, hlength, Nat.add_assoc]
    · rw [List.map_append, List.map_singleton, SelectItem.heading?,
        Heading.concat_append_singleton, hfields]
      simp [Heading.append]

/-- A `SELECT` whose sources have grown. -/
theorem Select.Framed.heading {columns : List String} {s s' : Select}
    (h : Select.Framed R columns s s')
    (hS : SourcesGrown (sourceHeadings s.sources ++ joinHeadings s.joins)
      (sourceHeadings s'.sources ++ joinHeadings s'.joins)) :
    HeadingGrown (s.heading?.map (.ofTable s.projections.length))
      (s'.heading?.map (.ofTable s'.projections.length)) := by
  intro l hl
  obtain ⟨k, hk, rfl⟩ := Option.map_eq_some_iff.1 hl
  cases h with
  | intro _ hitems hgained =>
    rw [Select.heading?] at hk
    have hitems := hitems.forall₂
    have hheadings := hitems.imp fun _ _ hi => hi.heading hS
    rw [← List.forall₂_map_right_iff, ← List.forall₂_map_left_iff] at hheadings
    -- first the fields that are written, then those gained behind them
    obtain ⟨k', hk', hgrown⟩ := headingGrown_concat hheadings k hk
    obtain ⟨names, hlength, hfields⟩ := hgained.heading hk'
    rw [← hitems.length_eq] at hlength
    rw [Select.heading?, hfields, hlength]
    exact ⟨_, rfl, hgrown.ofTable _ names⟩

mutual

/-- The heading of a query grows with the derived tables below it, and by the fields that it gains
itself. -/
theorem Query.Framed.heading : ∀ (q : Query) {columns : List String} {q' : Query},
    Query.Framed R columns q q' →
      HeadingGrown (q.heading?.map (.ofTable q.fieldCount))
        (q'.heading?.map (.ofTable q'.fieldCount))
  | .select ⟨_, _, sources, joins, _, _, _, _, _, _, _⟩, _,
    .select ⟨_, _, _, _, _, _, _, _, _, _, _⟩, .select h => by
    rw [Query.heading?, Query.heading?]
    exact h.heading (List.rel_append (sourceHeadings_grown sources h.scope.sources)
      (joinHeadings_grown joins h.scope.joined))
  | .withCtes _ _ body, _, .withCtes _ _ body', .withCtes _ hbody => by
    rw [Query.heading?, Query.heading?, Query.fieldCount, Query.fieldCount]
    exact Query.Framed.heading body hbody
  | .raw _, _, _, .raw _ => by
    rw [Query.heading?]
    intro k hk
    cases hk

theorem sourceHeadings_grown : ∀ (sources : List Source) {sources' : List Source},
    List.Forall₂ (Source.Framed R) sources sources' →
      SourcesGrown (sourceHeadings sources) (sourceHeadings sources')
  | [], _, .nil => by
    rw [sourceHeadings]
    exact .nil
  | s :: ss, _, .cons hs h => by
    rw [sourceHeadings, sourceHeadings]
    exact .cons ⟨hs.bindingName, Source.Framed.heading s hs⟩ (sourceHeadings_grown ss h)

theorem joinHeadings_grown : ∀ (joins : List Join) {joins' : List Join},
    List.Forall₂ (Source.Framed R) (joins.map Join.source) (joins'.map Join.source) →
      SourcesGrown (joinHeadings joins) (joinHeadings joins')
  | [], [], _ => by
    rw [joinHeadings]
    exact .nil
  | ⟨_, source, _⟩ :: js, ⟨_, _, _⟩ :: _, .cons hsource h => by
    rw [joinHeadings, joinHeadings]
    exact .cons ⟨hsource.bindingName, Source.Framed.heading source hsource⟩
      (joinHeadings_grown js h)

theorem Source.Framed.heading : ∀ (s : Source) {s' : Source}, Source.Framed R s s' →
    HeadingGrown s.heading? s'.heading?
  | .table _ _ _, _, .table _ _ _ => by
    rw [Source.heading?]
    intro k hk
    cases hk
  | .subquery query _, _, .subquery _ h => by
    rw [Source.heading?, Source.heading?]
    exact Query.Framed.heading query h
  | .function _ _ _, _, .function _ _ _ => by
    rw [Source.heading?]
    intro k hk
    cases hk

end

theorem Query.Framed.fieldCount_eq : ∀ (q : Query) {q' : Query}, Query.Framed R [] q q' →
    q'.fieldCount = q.fieldCount
  | .select _, .select _, .select (.intro _ hitems .none _ _ _ _ _ _ _ _ _) =>
    hitems.forall₂.length_eq.symm
  | .withCtes _ _ body, .withCtes _ _ _, .withCtes _ hbody => by
    rw [Query.fieldCount, Query.fieldCount]
    exact Query.Framed.fieldCount_eq body hbody
  | .raw _, _, .raw _ => rfl

theorem Query.Framed.headingGrown {q q' : Query} (h : Query.Framed R [] q q') :
    HeadingGrown q.heading? q'.heading? := by
  intro k hk
  have hgrown := Query.Framed.heading q h
  rw [hk, Query.Framed.fieldCount_eq q h] at hgrown
  obtain ⟨l, hl, hgrown⟩ := hgrown _ rfl
  obtain ⟨k', hk', rfl⟩ := Option.map_eq_some_iff.1 hl
  exact ⟨k', hk', hgrown.of_ofTable⟩

/-- The sources of a `SELECT` that are table functions stay as they are. -/
theorem Select.Framed.function {columns : List String} {s s' : Select}
    (h : Select.Framed R columns s s') {i : Nat} {name : String} {args : List Expr}
    {a : Option String} (hi : s.scope.all[i]? = some (.function name args a)) :
    s'.scope.all[i]? = some (.function name args a) := by
  obtain ⟨x, hx, hframed⟩ := exists_getElem?_of_forall₂ h.scope.all hi
  cases hframed
  exact hx

namespace Query

variable {mappings : MappingSource} {q q' : Query}

/-- The query itself and each query in an expression keep their result columns, and have new ones
for types, as many as the derived tables that wildcards take columns from have gained fields. So
the columns are the same exactly if those tables have as many fields as before. Queries in the
arguments of table functions are not touched at all. -/
theorem runAll_heading (h : Pass.runAll (Pass.defaults mappings) q = .ok q') :
    (∀ p x k, (Node.query q).at? p = some (.query x) → p.getLast?.all Step.isPart = true →
      x.heading? = some k →
      (Node.query q).counterparts p ≠ [] ∧ ∃ x' k',
        (∀ p' ∈ (Node.query q).counterparts p, (Node.query q').at? p' = some (.query x')) ∧
        x'.heading? = some k' ∧
        (∃ n, Widened n k.columns k'.columns ∧ Gained n k.fieldCounts k'.fieldCounts) ∧
        (k'.columns = k.columns ↔ k'.fieldCounts = k.fieldCounts)) ∧
    ∀ p s (i : Nat) name args a, (Node.query q).at? p = some (.query (.select s)) →
      s.scope.all[i]? = some (.function name args a) →
      (Node.query q).counterparts p ≠ [] ∧ ∃ s',
        (∀ p' ∈ (Node.query q).counterparts p,
          (Node.query q').at? p' = some (.query (.select s'))) ∧
        s'.scope.all[i]? = some (.function name args a) := by
  rw [Pass.runAll_defaults] at h
  have hframed := Node.Framed.query (lower_framed (SourceRule.any_kept mappings) h)
  constructor
  · intro p x k hx hp hk
    obtain ⟨m', columns, hm, hcolumns, hplaces⟩ := hframed.at? hx
    cases hm with
    | @query _ _ x' hquery =>
      have hnone : columns = [] := by
        apply hcolumns
        cases hlast : p.getLast? with
        | none => rfl
        | some step =>
          rw [hlast] at hp
          exact hp
      subst hnone
      obtain ⟨k', hk', n, hwidened, hgained⟩ := hquery.headingGrown k hk
      exact ⟨hframed.counterparts_ne_nil hx, x', k', hplaces, hk', ⟨n, hwidened, hgained⟩,
        hwidened.eq_iff.trans hgained.eq_iff.symm⟩
  · intro p s i name args a hs hi
    obtain ⟨m', columns, hm, -, hplaces⟩ := hframed.at? hs
    cases hm with
    | query hquery =>
      cases hquery with
      | @select _ _ s' hselect =>
        exact ⟨hframed.counterparts_ne_nil hs, s', hplaces, hselect.function hi⟩

/-- The type is asked of one derived table, and the wildcard takes the columns of the other. The
query in `EXISTS` has one column as before. -/
theorem exists_heading :
    let orders := fun types => Query.select
      { projections := .expr (.column none "_fld10rref") (some "item") :: types
        sources := [.table none "_Document9" none] }
    let inner := fun types type => Query.select
      { projections := [.wildcardOf "x"]
        sources := [.subquery (orders []) "x", .subquery (orders types) "u"]
        filter := some (.binary type .eq (.integer 1)) }
    let outer := fun x => Query.select { projections := [.expr (.exists x) none] }
    let x := inner [] (.call .typeIdentifier [.column (some "u") "item"])
    let x' := inner [.expr (.literal (.binary [0, 0, 0, 5])) (some "item_Type")]
      (.column (some "u") "item_Type")
    Pass.runAll (Pass.defaults orderMappings) (outer x) = .ok (outer x') ∧
      x.heading? = some ⟨[some "item"], [1]⟩ ∧ x'.heading? = some ⟨[some "item"], [1]⟩ := by
  intro orders inner outer x x'
  have h : Pass.runAll (Pass.defaults orderMappings) (outer x) = .ok (outer x') := rfl
  have hx : x.heading? = some ⟨[some "item"], [1]⟩ := rfl
  refine ⟨h, hx, ?_⟩
  obtain ⟨-, y, k', hplaces, hk', -, hiff⟩ :=
    (runAll_heading h).1 [.item 0, .part 0] x _ rfl rfl hx
  cases hplaces [.item 0, .part 0] (.head _)
  cases hk'
  exact congrArg (fun columns => some (Heading.mk columns [1])) (hiff.2 rfl)

/-- The wildcard takes the new column of the derived table, so that the query has two columns where
it had one. -/
theorem wildcard_takes_type :
    let orders := fun types => Query.select
      { projections := .expr (.column (some "o") "_fld10rref") (some "item") :: types
        sources := [.table none "_Document9" (some "o")] }
    let outer := fun types type => Query.select
      { projections := [.wildcard]
        sources := [.subquery (orders types) "u"]
        filter := some (.binary type .eq (.integer 1)) }
    let q := outer [] (.call .typeIdentifier [.column (some "u") "item"])
    let q' := outer [.expr (.literal (.binary [0, 0, 0, 5])) (some "item_Type")]
      (.column (some "u") "item_Type")
    Pass.runAll (Pass.defaults orderMappings) q = .ok q' ∧
      q.heading? = some ⟨[some "item"], [1]⟩ ∧
      q'.heading? = some ⟨[some "item", some "item_Type"], [2]⟩ := by
  intro orders outer q q'
  exact ⟨rfl, rfl, rfl⟩

end Query

end LogicalSql
