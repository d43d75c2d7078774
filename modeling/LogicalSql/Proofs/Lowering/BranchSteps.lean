import LogicalSql.Proofs.Lowering.Frame

/-! What it does to the branches of a derived table to look up the type behind one of its
columns. -/
namespace LogicalSql.Lowering

variable {mappings : MappingSource}

/-- The expression for the type behind a column of these sources. -/
inductive TypeOf (mappings : MappingSource) (s : Scope) (qualifier : Option String)
    (column : String) : Expr → Prop
  | realized {schema a : Option String} {name : String} {e : Expr}
      (hfound : s.find? qualifier = some (.table schema name a))
      (h : Prescribed mappings name qualifier column e) : TypeOf mappings s qualifier column e
  | derived {q : Query} {a : String} (hfound : s.find? qualifier = some (.subquery q a)) :
      TypeOf mappings s qualifier column (.column qualifier (typeAlias column))

theorem typeColumn_typeOf {depth : Nat} {qualifier : Option String} {column : String} {s t : Scope}
    {e : Expr} (h : typeColumn mappings depth qualifier column s = .ok (e, t)) :
    TypeOf mappings s qualifier column e := by
  obtain ⟨schema, name, a, hfound, he, -⟩ | ⟨d, q, q', a, -, hfound, -, rfl, -⟩ :=
    typeColumn_cases h
  · exact .realized hfound (realizedTypeColumn_prescribed he)
  · exact .derived hfound

/-- A branch before and after. It keeps its fields if one of them has the alias of the type, and
else gains the type of the one field for the column. -/
inductive BranchStep (mappings : MappingSource) (column : String) (b b' : Select) : Prop
  | kept (halias : some (typeAlias column) ∈ b.projections.map SelectItem.alias?)
      (hfields : b'.projections = b.projections)
  | added {table : Option String} {name : String} {type : Expr}
      (hfresh : some (typeAlias column) ∉ b.projections.map SelectItem.alias?)
      (hfield : FieldFor b.projections column table name)
      (htype : TypeOf mappings (branchScope b) table name type)
      (hfields : b'.projections = b.projections ++ [.expr type (some (typeAlias column))])

namespace BranchStep

variable {column : String} {b b' : Select}

theorem hasAlias (h : BranchStep mappings column b b') :
    some (typeAlias column) ∈ b'.projections.map SelectItem.alias? := by
  cases h with
  | kept halias hfields =>
    rw [hfields]
    exact halias
  | added _ _ _ hfields =>
    rw [hfields, List.map_append]
    exact List.mem_append_right _ List.mem_cons_self

theorem aliases_subset (h : BranchStep mappings column b b') :
    b.projections.map SelectItem.alias? ⊆ b'.projections.map SelectItem.alias? := by
  cases h with
  | kept _ hfields =>
    rw [hfields]
    exact List.Subset.refl _
  | added _ _ _ hfields =>
    rw [hfields, List.map_append]
    exact List.subset_append_left _ _

end BranchStep

theorem addToBranch_step {depth : Nat} {column : String} {s s' : Select}
    (h : addToBranch (typeColumn mappings depth) column s = .ok s') (o o' : Option SetOperation) :
    BranchStep mappings column { s with setOperation := o } { s' with setOperation := o' } := by
  obtain ⟨halias, rfl⟩ | ⟨hfresh, table, name, type, scope, hfield, hfound, rfl⟩ :=
    addToBranch_fields h
  · exact .kept halias rfl
  · exact .added hfresh hfield (typeColumn_typeOf hfound) rfl

theorem addToQuery_steps (depth : Nat) (column : String) (q : Query) {q' : Query}
    (h : addToQuery (typeColumn mappings depth) column q = .ok q') :
    List.Forall₂ (BranchStep mappings column) q.branches q'.branches := by
  have hrel : FieldRelation (typeColumn mappings depth) column
      (fun q q' => List.Forall₂ (BranchStep mappings column) q.branches q'.branches)
      fun o o' => List.Forall₂ (BranchStep mappings column) (restBranches o) (restBranches o') := by
    constructor
    case select =>
      intro s s' o o' hbranch ho
      rw [Query.branches, Query.branches]
      exact .cons (addToBranch_step hbranch o o') ho
    case withCtes =>
      intro recursive ctes body body' hbody
      rwa [Query.branches, Query.branches]
    case last =>
      rw [restBranches]
      exact .nil
    case operation =>
      intro op all right right' hright
      rwa [restBranches, restBranches]
  exact hrel.query q h

/-- The derived table that a type is looked up in takes one step in each branch. -/
theorem typeColumn_steps {depth : Nat} {qualifier : Option String} {column a : String}
    {s t : Scope} {q : Query} {e : Expr} (hfound : s.find? qualifier = some (.subquery q a))
    (h : typeColumn mappings depth qualifier column s = .ok (e, t)) :
    ∃ q', s.Replaced qualifier (.subquery q a) (.subquery q' a) t ∧
      List.Forall₂ (BranchStep mappings column) q.branches q'.branches := by
  obtain ⟨schema, name, a', hfound', -⟩ | ⟨d, q₁, q', a', -, hfound', hq, -, rfl⟩ :=
    typeColumn_cases h
  · rw [hfound] at hfound'
    cases hfound'
  · rw [hfound] at hfound'
    cases hfound'
    exact ⟨q', Scope.replaced_replace hfound rfl, addToQuery_steps d column q hq⟩

end LogicalSql.Lowering
