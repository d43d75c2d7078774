import LogicalSql.Proofs.Lowering.Counterparts
import LogicalSql.Proofs.Lowering.Hygiene

/-! A source without a schema is taken for the realized table of its name, also where the name is
that of a common table expression. -/
namespace LogicalSql

open Lowering

namespace Node

/-- The common table expressions that a step makes visible. If they are not recursive, each sees
only those before it. -/
def declared : Node → Step → List Cte
  | .query (.withCtes recursive ctes _), .cte i => if recursive then ctes else ctes.take i
  | .query (.withCtes _ ctes _), .body => ctes
  | _, _ => []

/-- The common table expressions visible at a place. -/
def visible : Node → Place → List Cte
  | _, [] => []
  | n, step :: p => n.declared step ++ (n.child step).elim [] (·.visible p)

end Node

/-- The expression stands for a column, maybe one to be presented. -/
inductive Expr.IsColumn (table : Option String) (name : String) : Expr → Prop
  | column : IsColumn table name (.column table name)
  | presentation {e : Expr} (h : IsColumn table name e) :
    IsColumn table name (.call .presentation [e])

/-- A call of `TYPEIDENTIFIER` for a column of a source that has the name of a visible common table
expression. -/
structure CteCall (q : Query) where
  place : Place
  scope : Scope
  argument : Expr
  qualifier : Option String
  column : String
  cte : Cte
  aliasName : Option String
  call : (Node.query q).at? place = some (.expr scope (.call .typeIdentifier [argument]))
  isColumn : argument.IsColumn qualifier column
  bound : scope.find? qualifier = some (.table none cte.name aliasName)
  visible : cte ∈ (Node.query q).visible place

theorem Expr.IsColumn.framed {R : SourceRule} {T : TypeRule} {table : Option String} {name : String}
    {e e' : Expr} (hcolumn : e.IsColumn table name) (h : Expr.Framed R T e e') :
    e' = .column table name := by
  induction hcolumn generalizing e' with
  | column =>
    obtain ⟨hparts, -⟩ := h
    cases hparts
    rfl
  | presentation _ ih =>
    obtain ⟨hparts, -⟩ := h
    cases hparts with
    | call hargs hlowered =>
      cases hlowered with
      | presentation =>
        cases hargs with
        | cons he _ => exact ih he

/-- The type behind a column of a realized table, at all places that the call comes to stand at. -/
theorem Query.lower_typeIdentifier {mappings : MappingSource} {q q' : Query}
    (h : q.lower mappings = .ok q') {p : Place} {s : Scope} {argument : Expr}
    {qualifier schema a : Option String} {column name : String}
    (hcall : (Node.query q).at? p = some (.expr s (.call .typeIdentifier [argument])))
    (hcolumn : argument.IsColumn qualifier column)
    (hbound : s.find? qualifier = some (.table schema name a)) :
    ∃ s' e, Prescribed mappings name qualifier column e ∧
      ∀ p' ∈ (Node.query q).counterparts p, (Node.query q').at? p' = some (.expr s' e) := by
  have hframed := Node.Framed.query (Query.lower_framed (Hygienic.kept mappings) h)
  obtain ⟨m', columns, hm, -, hplaces⟩ := hframed.at? hcall
  cases hm with
  | @expr T _ s' _ e hrule he =>
    obtain ⟨hparts, -⟩ := he
    cases hparts with
    | call hargs hlowered => cases hlowered
    | typeIdentifier hargs _ htype =>
      cases hargs with
      | cons hargument _ =>
        cases hcolumn.framed hargument
        refine ⟨s', e, ?_, hplaces⟩
        cases (hrule _ _ _ htype).type with
        | realized hfound h =>
          rw [hbound] at hfound
          cases hfound
          exact h
        | derived hfound =>
          rw [hbound] at hfound
          cases hfound

namespace CteCall

/-- Lowering fails, or the call becomes what the mapping of the realized table with the name of the
common table expression prescribes. The query of the common table expression has no part in it. -/
theorem runAll_prescribed (mappings : MappingSource) {q : Query} (c : CteCall q) :
    (∃ error, Pass.runAll (Pass.defaults mappings) q = .error error) ∨
    ∃ q' s e, Pass.runAll (Pass.defaults mappings) q = .ok q' ∧
      Prescribed mappings c.cte.name c.qualifier c.column e ∧
      ∀ p ∈ (Node.query q).counterparts c.place, (Node.query q').at? p = some (.expr s e) := by
  rw [Pass.runAll_defaults]
  cases h : q.lower mappings with
  | error error => exact .inl ⟨error, rfl⟩
  | ok q' =>
    obtain ⟨s, e, hprescribed, hplaces⟩ :=
      Query.lower_typeIdentifier h c.call c.isColumn c.bound
    exact .inr ⟨q', s, e, rfl, hprescribed, hplaces⟩

/-- The call stands in `ISNULL`, in a query in an expression. Its answer is found twice. -/
theorem isNull_prescribed :
    let document : Cte := ⟨"_Document9", [], .select
      { projections := [.expr (.column none "a") (some "_fld10rref")]
        sources := [.table none "t" none] }⟩
    let query := fun e => Query.withCtes false [document] (.select
      { projections := [.expr (.subquery (.select
        { projections := [.expr e none]
          sources := [.table none "t" none, .table none "_Document9" (some "d")] })) none] })
    let type := Expr.call .typeIdentifier
      [.call .presentation [.column (some "d") "_fld10rref"]]
    let q := query (.call .isNull [type, .integer 0])
    ∃ c : CteCall q, c.cte = document ∧ ∃ q' s e,
      Pass.runAll (Pass.defaults orderMappings) q = .ok q' ∧
      Prescribed orderMappings "_Document9" (some "d") "_fld10rref" e ∧
      (Node.query q').at? [.body, .item 0, .part 0, .item 0, .part 0, .part 0] =
        some (.expr s e) ∧
      (Node.query q').at? [.body, .item 0, .part 0, .item 0, .part 2] = some (.expr s e) := by
  intro document query type q
  let c : CteCall q := ⟨[.body, .item 0, .part 0, .item 0, .argument 0], _, _, _, _, document, _,
    rfl, .presentation .column, rfl, List.mem_cons_self⟩
  refine ⟨c, rfl, ?_⟩
  obtain ⟨error, h⟩ | ⟨q', s, e, h, hprescribed, hplaces⟩ := runAll_prescribed orderMappings c
  · cases h
  · exact ⟨q', s, e, h, hprescribed, hplaces _ (.head _), hplaces _ (.tail _ (.head _))⟩

/-- The common table expression takes its column from a table that has no mapping. The call is
answered all the same, from the mapping of the realized table with the name of the common table
expression. -/
theorem unmapped_cte_answered :
    let document : Cte := ⟨"_Document9", [], .select
      { projections := [.expr (.column none "a") (some "_fld10rref")]
        sources := [.table none "t" none] }⟩
    let query := fun e => Query.withCtes false [document] (.select
      { projections := [.expr e none], sources := [.table none "_Document9" none] })
    let q := query (.call .typeIdentifier [.column none "_fld10rref"])
    (∃ c : CteCall q, c.place = [.body, .item 0] ∧ c.cte = document) ∧
      orderMappings.physical "t" = .ok none ∧
      Pass.runAll (Pass.defaults orderMappings) q =
        .ok (query (.literal (.binary [0, 0, 0, 5]))) := by
  intro document query q
  let c : CteCall q :=
    ⟨[.body, .item 0], _, _, _, _, document, _, rfl, .column, rfl, List.mem_cons_self⟩
  exact ⟨⟨c, rfl, rfl⟩, rfl, rfl⟩

end CteCall

end LogicalSql
