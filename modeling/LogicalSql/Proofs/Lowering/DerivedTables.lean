import LogicalSql.Proofs.Lowering.Kept
import Mathlib.Data.List.Forall2

/-! The type column of a derived table. Each branch tells the type of its own rows, from the mapping
of a realized table or from the type column of a derived table further inside. -/
namespace LogicalSql

def SelectItem.alias? : SelectItem → Option String
  | .wildcard => none
  | .wildcardOf _ => none
  | .expr _ a => a

mutual

/-- The aliases of the fields of all branches, and of all derived tables in them at any depth. -/
def Query.fieldAliases : Query → List String
  | .select s => s.fieldAliases
  | .withCtes _ _ body => body.fieldAliases
  | .raw _ => []

def Select.fieldAliases : Select → List String
  | { projections, sources, joins, setOperation, .. } =>
    projections.filterMap SelectItem.alias? ++ sourceAliases sources ++ joinAliases joins ++
      setOperationAliases setOperation

def setOperationAliases : Option SetOperation → List String
  | none => []
  | some ⟨_, _, right⟩ => right.fieldAliases

def sourceAliases : List Source → List String
  | [] => []
  | s :: ss => s.fieldAliases ++ sourceAliases ss

def Source.fieldAliases : Source → List String
  | .table _ _ _ => []
  | .subquery query _ => query.fieldAliases
  | .function _ _ _ => []

def joinAliases : List Join → List String
  | [] => []
  | ⟨_, source, _⟩ :: js => source.fieldAliases ++ joinAliases js

end

mutual

/-- The `SELECT`s that the rows of a query come from. -/
def Query.branches : Query → List Select
  | .select ⟨distinct, projections, sources, joins, filter, groupBy, having, orderBy, limit, offset,
      setOperation⟩ =>
    ⟨distinct, projections, sources, joins, filter, groupBy, having, orderBy, limit, offset,
      setOperation⟩ :: restBranches setOperation
  | .withCtes _ _ body => body.branches
  | .raw _ => []

def restBranches : Option SetOperation → List Select
  | none => []
  | some ⟨_, _, right⟩ => right.branches

end

theorem joinAliases_eq (joins : List Join) :
    joinAliases joins = sourceAliases (joins.map Join.source) := by
  induction joins with
  | nil => simp only [joinAliases, List.map_nil, sourceAliases]
  | cons j joins ih =>
    obtain ⟨kind, source, condition⟩ := j
    simp only [joinAliases, List.map_cons, sourceAliases, ih]

theorem sourceAliases_append (xs ys : List Source) :
    sourceAliases (xs ++ ys) = sourceAliases xs ++ sourceAliases ys := by
  induction xs with
  | nil => simp only [List.nil_append, sourceAliases]
  | cons x xs ih => simp only [List.cons_append, sourceAliases, ih, List.append_assoc]

theorem mem_sourceAliases {sources : List Source} {source : Source} {a : String}
    (hs : source ∈ sources) (ha : a ∈ source.fieldAliases) : a ∈ sourceAliases sources := by
  induction sources with
  | nil => cases hs
  | cons s ss ih =>
    rw [sourceAliases, List.mem_append]
    cases hs with
    | head => exact .inl ha
    | tail _ hs => exact .inr (ih hs)

namespace Lowering

/-- The one field for a column: the one with its name as the alias or, where no field has that
alias, the one that refers to a column of that name. -/
inductive FieldFor (projections : List SelectItem) (column : String) : Option String → String → Prop
  | aliased {before after : List SelectItem} {table : Option String} {name : String}
      (hsplit : projections = before ++ .expr (.column table name) (some column) :: after)
      (hothers : ∀ i ∈ before ++ after, i.alias? ≠ some column) :
      FieldFor projections column table name
  | named {before after : List SelectItem} {table a : Option String}
      (halias : ∀ i ∈ projections, i.alias? ≠ some column)
      (hsplit : projections = before ++ .expr (.column table column) a :: after)
      (hothers : ∀ i ∈ before ++ after, ∀ t a', i ≠ .expr (.column t column) a') :
      FieldFor projections column table column

mutual

/-- Every branch of the query has one more field, its last, which tells the type behind `column`. -/
inductive QueryTyped (mappings : MappingSource) : String → Query → Query → Prop
  | select {column : String} {s s' : Select} (h : BranchTyped mappings column s s') :
      QueryTyped mappings column (.select s) (.select s')
  | withCtes {column : String} {recursive : Bool} {ctes : List Cte} {body body' : Query}
      (h : QueryTyped mappings column body body') :
      QueryTyped mappings column (.withCtes recursive ctes body) (.withCtes recursive ctes body')

/-- Sources may differ, since a derived table further inside has a new field too. Joins keep their
kinds and conditions, and all other clauses are the same. -/
inductive BranchTyped (mappings : MappingSource) : String → Select → Select → Prop
  | intro {column name : String} {table : Option String} {s : Select} {type : Expr} {scope : Scope}
      {joins : List Join} {rest : Option SetOperation}
      (hfield : FieldFor s.projections column table name)
      (htype : TypeBehind mappings table name (branchScope s) type scope)
      (hsources : joins.map Join.source = scope.joined)
      (hjoins : joins.map (fun j => (j.kind, j.condition)) =
        s.joins.map (fun j => (j.kind, j.condition)))
      (hrest : RestTyped mappings column s.setOperation rest) :
      BranchTyped mappings column s
        { s with
          projections := s.projections ++ [.expr type (some (typeAlias column))]
          sources := scope.sources
          joins := joins
          setOperation := rest }

inductive RestTyped (mappings : MappingSource) :
    String → Option SetOperation → Option SetOperation → Prop
  | none {column : String} : RestTyped mappings column none none
  | some {column : String} {op : SetOperator} {all : Bool} {right right' : Query}
      (h : QueryTyped mappings column right right') :
      RestTyped mappings column (some ⟨op, all, right⟩) (some ⟨op, all, right'⟩)

/-- The expression for the type behind a column of a scope: what the mapping of a realized table
prescribes, or the type column of a derived table, which then has one. -/
inductive TypeBehind (mappings : MappingSource) :
    Option String → String → Scope → Expr → Scope → Prop
  | realized {qualifier schema a : Option String} {column name : String} {s : Scope} {e : Expr}
      (hfound : s.find? qualifier = some (.table schema name a))
      (h : Prescribed mappings name qualifier column e) :
      TypeBehind mappings qualifier column s e s
  | derived {qualifier : Option String} {column a : String} {s s' : Scope} {q q' : Query}
      (hreplaced : s.Replaced qualifier (.subquery q a) (.subquery q' a) s')
      (h : QueryTyped mappings column q q') :
      TypeBehind mappings qualifier column s (.column qualifier (typeAlias column)) s'

end

theorem exprWithAlias?_eq_some {column : String} {i : SelectItem} {e : Expr} :
    exprWithAlias? column i = some e ↔ i = .expr e (some column) := by
  unfold exprWithAlias?
  split
  case h_1 e' a => by_cases ha : a = column <;> simp [ha]
  case h_2 hnot =>
    simp only [reduceCtorEq, false_iff]
    exact fun h => hnot e column h

theorem exprWithAlias?_eq_none {column : String} {i : SelectItem}
    (h : exprWithAlias? column i = none) : i.alias? ≠ some column := by
  intro ha
  cases i with
  | wildcard => cases ha
  | wildcardOf => cases ha
  | expr e a =>
    have hi : SelectItem.expr e a = .expr e (some column) := congrArg _ ha
    rw [exprWithAlias?_eq_some.2 hi] at h
    cases h

theorem exprOfColumn?_eq_some {column : String} {i : SelectItem} {e : Expr} :
    exprOfColumn? column i = some e ↔
      ∃ t a, i = .expr (.column t column) a ∧ e = .column t column := by
  unfold exprOfColumn?
  split
  case h_1 t c a =>
    by_cases hc : c = column
    · simp [hc, eq_comm]
    · simp [hc]
  case h_2 hnot =>
    simp only [reduceCtorEq, false_iff]
    rintro ⟨t, a, h, -⟩
    exact hnot t column a h

/-- The one item with an answer, and those without. -/
theorem filterMap_eq_singleton {f : SelectItem → Option Expr} {projections : List SelectItem}
    {e : Expr} (h : projections.filterMap f = [e]) :
    ∃ before i after, projections = before ++ i :: after ∧ f i = some e ∧
      ∀ j ∈ before ++ after, f j = none := by
  obtain ⟨before, i, after, hsplit, hbefore, hi, hafter⟩ := List.filterMap_eq_cons_iff.1 h
  refine ⟨before, i, after, hsplit, hi, List.forall_mem_append.2 ⟨hbefore, ?_⟩⟩
  exact List.filterMap_eq_nil_iff.1 hafter

theorem fieldFor_of_branchField {projections : List SelectItem} {column name : String}
    {table : Option String} (h : branchField projections column = .ok (.column table name)) :
    FieldFor projections column table name := by
  unfold branchField at h
  dsimp only at h
  split at h
  case h_1 field hone =>
    cases h
    -- columns count only where no alias does
    by_cases hempty : (projections.filterMap (exprWithAlias? column)).isEmpty = true
    · rw [if_pos hempty] at hone
      have hnone := List.filterMap_eq_nil_iff.1 (List.isEmpty_iff.1 hempty)
      obtain ⟨before, i, after, hsplit, hi, hothers⟩ := filterMap_eq_singleton hone
      obtain ⟨t, a, rfl, he⟩ := exprOfColumn?_eq_some.1 hi
      cases he
      refine .named (fun j hj => exprWithAlias?_eq_none (hnone j hj)) hsplit ?_
      intro j hj t a' hja
      have hsome := exprOfColumn?_eq_some.2 ⟨t, a', hja, rfl⟩
      rw [hothers j hj] at hsome
      cases hsome
    · rw [if_neg hempty] at hone
      obtain ⟨before, i, after, hsplit, hi, hothers⟩ := filterMap_eq_singleton hone
      cases exprWithAlias?_eq_some.1 hi
      exact .aliased hsplit fun j hj => exprWithAlias?_eq_none (hothers j hj)
  case h_2 => cases h
  case h_3 => cases h

/-- No alias of these ends in `_Type`. -/
def NoTypeAlias (aliases : List String) : Prop := ∀ column, typeAlias column ∉ aliases

theorem noTypeAlias_append {xs ys : List String} :
    NoTypeAlias (xs ++ ys) ↔ NoTypeAlias xs ∧ NoTypeAlias ys := by
  simp only [NoTypeAlias, List.mem_append, not_or, forall_and]

/-- The resolver finds the type behind a column in scopes without aliases that end in `_Type`. -/
def ResolverTypes (mappings : MappingSource) (resolve : Resolver) : Prop :=
  ∀ qualifier column s e t, NoTypeAlias (sourceAliases s.all) →
    resolve qualifier column s = .ok (e, t) → TypeBehind mappings qualifier column s e t

theorem any_hasAlias {projections : List SelectItem} {column : String}
    (h : NoTypeAlias (projections.filterMap SelectItem.alias?)) :
    projections.any (hasAlias (typeAlias column)) = false := by
  refine List.any_eq_false.2 fun i hi halias => h column ?_
  refine List.mem_filterMap.2 ⟨i, hi, ?_⟩
  unfold hasAlias at halias
  split at halias
  case h_1 e a => exact congrArg some (beq_iff_eq.1 halias)
  case h_2 => cases halias

theorem TypeBehind.joined_length {mappings : MappingSource} {qualifier : Option String}
    {column : String} {s t : Scope} {e : Expr} (h : TypeBehind mappings qualifier column s e t) :
    t.joined.length = s.joined.length := by
  cases h with
  | realized => rfl
  | derived hreplaced => exact hreplaced.joined

theorem addToBranch_typed {mappings : MappingSource} {resolve : Resolver}
    (hresolve : ResolverTypes mappings resolve) {column : String} {s s' : Select}
    (h : addToBranch resolve column s = .ok s')
    (haliases : NoTypeAlias (s.projections.filterMap SelectItem.alias?))
    (hscope : NoTypeAlias (sourceAliases (branchScope s).all)) {o o' : Option SetOperation}
    (ho : RestTyped mappings column o o') :
    BranchTyped mappings column { s with setOperation := o } { s' with setOperation := o' } := by
  obtain ⟨halias, -⟩ | ⟨table, name, type, scope, hfield, hfound, rfl⟩ := addToBranch_cases h
  -- a branch is left alone only if it has a field with the new alias already
  · rw [any_hasAlias haliases] at halias
    cases halias
  · have htype := hresolve _ _ _ _ _ hscope hfound
    obtain ⟨hsources, hjoins⟩ := map_withType_joins s column type htype.joined_length
    exact .intro (s := { s with setOperation := o }) (fieldFor_of_branchField hfield) htype hsources
      hjoins ho

theorem noTypeAlias_select {s : Select} (h : NoTypeAlias s.fieldAliases) :
    NoTypeAlias (s.projections.filterMap SelectItem.alias?) ∧
      NoTypeAlias (sourceAliases (branchScope s).all) ∧
      NoTypeAlias (setOperationAliases s.setOperation) := by
  obtain ⟨distinct, projections, sources, joins, filter, groupBy, having, orderBy, limit, offset,
    setOperation⟩ := s
  simp only [Select.fieldAliases, joinAliases_eq, noTypeAlias_append, and_assoc] at h
  obtain ⟨hprojections, hsources, hjoins, hrest⟩ := h
  refine ⟨hprojections, ?_, hrest⟩
  rw [branchScope, Scope.all, sourceAliases_append, noTypeAlias_append]
  exact ⟨hsources, hjoins⟩

theorem addToQuery_typed {mappings : MappingSource} {resolve : Resolver}
    (hresolve : ResolverTypes mappings resolve) (column : String) (q : Query) {q' : Query}
    (hq : NoTypeAlias q.fieldAliases) (h : addToQuery resolve column q = .ok q') :
    QueryTyped mappings column q q' := by
  have hrel : FieldRelation resolve column
      (fun q q' => NoTypeAlias q.fieldAliases → QueryTyped mappings column q q')
      fun o o' => NoTypeAlias (setOperationAliases o) → RestTyped mappings column o o' := by
    constructor
    case select =>
      intro s s' o o' hbranch ho hq
      rw [Query.fieldAliases] at hq
      obtain ⟨haliases, hscope, hsetOperation⟩ := noTypeAlias_select hq
      exact .select (addToBranch_typed hresolve hbranch haliases hscope (ho hsetOperation))
    case withCtes =>
      intro recursive ctes body body' hbody hq
      rw [Query.fieldAliases] at hq
      exact .withCtes (hbody hq)
    case last => exact fun _ => .none
    case operation =>
      intro op all right right' hright ho
      rw [setOperationAliases] at ho
      exact .some (hright ho)
  exact hrel.query q h hq

theorem typeColumn_typed (mappings : MappingSource) (depth : Nat) :
    ResolverTypes mappings (typeColumn mappings depth) := by
  -- a derived table is looked into with one less of depth
  induction depth using Nat.strongRecOn with
  | ind depth ih =>
    intro qualifier column s e t hs h
    obtain ⟨schema, name, a, hfound, he, rfl⟩ | ⟨d, q, q', a, rfl, hfound, hq, rfl, rfl⟩ :=
      typeColumn_cases h
    · exact .realized hfound (realizedTypeColumn_prescribed he)
    · have hmem := List.mem_of_find?_eq_some (Scope.find?_all hfound)
      have haliases : NoTypeAlias q.fieldAliases := fun c hc =>
        hs c (mem_sourceAliases hmem (by rwa [Source.fieldAliases]))
      refine .derived (Scope.replaced_replace hfound rfl) ?_
      exact addToQuery_typed (ih d d.lt_succ_self) column q haliases hq

/-- The second branch has the fields of the first and, behind them, the type behind a column. -/
def GainsType (column : String) (s s' : Select) : Prop :=
  ∃ type, s'.projections = s.projections ++ [.expr type (some (typeAlias column))]

mutual

theorem QueryTyped.branches {mappings : MappingSource} {column : String} :
    ∀ (q : Query) {q' : Query}, QueryTyped mappings column q q' →
      List.Forall₂ (GainsType column) q.branches q'.branches
  | .select ⟨distinct, projections, sources, joins, filter, groupBy, having, orderBy, limit, offset,
      setOperation⟩, _, .select (.intro _ _ _ _ hrest) => by
    rw [Query.branches, Query.branches]
    exact .cons ⟨_, rfl⟩ (RestTyped.branches setOperation hrest)
  | .withCtes _ _ body, _, .withCtes h => by
    rw [Query.branches, Query.branches]
    exact QueryTyped.branches body h

theorem RestTyped.branches {mappings : MappingSource} {column : String} :
    ∀ (o : Option SetOperation) {o' : Option SetOperation}, RestTyped mappings column o o' →
      List.Forall₂ (GainsType column) (restBranches o) (restBranches o')
  | none, _, .none => by
    rw [restBranches]
    exact .nil
  | some ⟨_, _, right⟩, _, .some h => by
    rw [restBranches, restBranches]
    exact QueryTyped.branches right h

end

/-- A column of a derived table is given the type column of that name, and every branch of the
derived table gains it as its last field. -/
theorem typeColumn_derived {mappings : MappingSource} {depth : Nat} {qualifier : Option String}
    {column a : String} {s s' : Scope} {q : Query} {e : Expr}
    (hfound : s.find? qualifier = some (.subquery q a)) (haliases : NoTypeAlias q.fieldAliases)
    (h : typeColumn mappings depth qualifier column s = .ok (e, s')) :
    e = .column qualifier (typeAlias column) ∧
    ∃ q', s.Replaced qualifier (.subquery q a) (.subquery q' a) s' ∧
      QueryTyped mappings column q q' ∧ List.Forall₂ (GainsType column) q.branches q'.branches := by
  obtain ⟨schema, name, a', hfound', -⟩ | ⟨d, q₁, q', a', rfl, hfound', hq, rfl, rfl⟩ :=
    typeColumn_cases h
  · rw [hfound] at hfound'
    cases hfound'
  · rw [hfound] at hfound'
    cases hfound'
    have htyped := addToQuery_typed (typeColumn_typed mappings d) column q haliases hq
    exact ⟨rfl, q', Scope.replaced_replace hfound rfl, htyped, htyped.branches q⟩

/-- `item` of a union of a realized table with a derived table over it. -/
theorem typeColumn_union :
    let items : TableMapping :=
      { logicalName := "Catalog.Items", physicalName := "_Reference5", type := .catalog
        index := some 5 }
    let orders : TableMapping :=
      { logicalName := "Document.Orders", physicalName := "_Document9", type := .document
        properties := [⟨"Item", .single "_fld10rref" (some "Catalog.Items")⟩] }
    let mappings : MappingSource := ⟨fun _ => .ok (some items), fun _ => .ok (some orders)⟩
    let realized := Query.select
      { projections := [.expr (.column none "_fld10rref") (some "item")]
        sources := [.table none "_Document9" none] }
    let union := Query.select
      { projections := [.expr (.column (some "x") "item") none], sources := [.subquery realized "x"]
        setOperation := some ⟨.union, true, realized⟩ }
    let s : Scope := ⟨[.subquery union "u"], []⟩
    ∃ e s', typeColumn mappings maxDepth (some "u") "item" s = .ok (e, s') ∧
      e = .column (some "u") "item_Type" ∧
      ∃ union', QueryTyped mappings "item" union union' ∧
        List.Forall₂ (GainsType "item") union.branches union'.branches := by
  intro items orders mappings realized union s
  have haliases : NoTypeAlias union.fieldAliases := by
    intro column hmem
    have hitem : typeAlias column ∈ ["item", "item"] := hmem
    have hlength := congrArg String.length (List.eq_of_mem_replicate (n := 2) hitem)
    rw [typeAlias, String.length_append] at hlength
    have hsuffix : "_Type".length = 5 := rfl
    have halias : "item".length = 4 := rfl
    omega
  obtain ⟨e, s', h⟩ : ∃ e s', typeColumn mappings maxDepth (some "u") "item" s = .ok (e, s') :=
    ⟨_, _, rfl⟩
  obtain ⟨he, union', -, htyped, hbranches⟩ := typeColumn_derived rfl haliases h
  exact ⟨e, s', h, he, union', htyped, hbranches⟩

end Lowering

end LogicalSql
