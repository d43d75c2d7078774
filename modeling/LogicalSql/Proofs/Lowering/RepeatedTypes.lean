import LogicalSql.Proofs.Lowering.TypeColumn

/-! The type behind a column asked for again: the fields that tell it are there, and nothing is
added. -/
namespace LogicalSql.Lowering

theorem hasAlias_withType (s : Select) (column : String) (type : Expr) (scope : Scope) :
    (withType s column type scope).projections.any (hasAlias (typeAlias column)) = true := by
  simp [withType, hasAlias]

/-- A branch that has been given the field is not looked into again. -/
theorem addToBranch_again {resolve : Resolver} {column : String} {s s' : Select}
    (h : addToBranch resolve column s = .ok s') (resolve' : Resolver) :
    s'.setOperation = s.setOperation ∧ addToBranch resolve' column s' = .ok s' := by
  obtain ⟨halias, rfl⟩ | ⟨table, name, type, scope, -, -, rfl⟩ := addToBranch_cases h
  · exact ⟨rfl, by rw [addToBranch, if_pos halias]; rfl⟩
  · exact ⟨rfl, by rw [addToBranch, if_pos (hasAlias_withType s column type scope)]; rfl⟩

theorem addToQuery_again {resolve : Resolver} {column : String} (resolve' : Resolver) (q : Query)
    {q' : Query} (h : addToQuery resolve column q = .ok q') :
    addToQuery resolve' column q' = .ok q' := by
  have hrel : FieldRelation resolve column (fun _ q' => addToQuery resolve' column q' = .ok q')
      fun _ o' => addToRest resolve' column o' = .ok o' := by
    constructor
    case select =>
      intro s s' o o' hbranch ho
      obtain ⟨hnone, hagain⟩ := addToBranch_again hbranch resolve'
      obtain ⟨distinct, projections, sources, joins, filter, groupBy, having, orderBy, limit,
        offset, setOperation⟩ := s'
      cases hnone
      rw [addToQuery, hagain, ho]
      rfl
    case withCtes =>
      intro recursive ctes body body' hbody
      rw [addToQuery, hbody]
      rfl
    case last =>
      rw [addToRest]
      rfl
    case operation =>
      intro op all right right' hright
      rw [addToRest, hright]
      rfl
  exact hrel.query q h

/-- A derived table is looked into with one less of depth. -/
theorem typeColumn_subquery {mappings : MappingSource} {qualifier : Option String} {s : Scope}
    {q : Query} {a : String} (hfound : s.find? qualifier = some (.subquery q a)) (d : Nat)
    (column : String) :
    typeColumn mappings (d + 1) qualifier column s = do
      let q' ← addToQuery (typeColumn mappings d) column q
      return (.column qualifier (typeAlias column), s.replace qualifier (.subquery q' a)) := by
  rw [typeColumn]
  simp only [hfound]

/-- Asked for again, the type behind a column is the same, and the sources stay as they are. -/
theorem typeColumn_again {mappings : MappingSource} {depth : Nat} {qualifier : Option String}
    {column : String} {s t : Scope} {e : Expr}
    (h : typeColumn mappings depth qualifier column s = .ok (e, t)) :
    typeColumn mappings depth qualifier column t = .ok (e, t) := by
  obtain ⟨schema, name, a, -, -, rfl⟩ | ⟨d, q, q', a, rfl, hfound, hq, rfl, rfl⟩ :=
    typeColumn_cases h
  · exact h
  · have hname : (Source.subquery q' a).bindingName = (Source.subquery q a).bindingName := rfl
    have hreplaced := (Scope.replaced_replace hfound hname).replaced
    rw [typeColumn_subquery hreplaced]
    refine bind_eq_ok.2 ⟨q', addToQuery_again (typeColumn mappings d) q hq, ?_⟩
    rw [Scope.replace_self hreplaced]
    rfl

/-- One branch of the union has the type from a derived table further inside. -/
theorem typeColumn_again_union :
    let select := fun (fields : List SelectItem) (source : Source) (rest : Option SetOperation) =>
      Query.select { projections := fields, sources := [source], setOperation := rest }
    let realized := fun types =>
      select (.expr (.column none "_fld10rref") (some "item") :: types)
        (.table none "_Document9" none) none
    let union := fun types inner =>
      select (.expr (.column (some "x") "item") none :: types) (.subquery (realized inner) "x")
        (some ⟨.union, true, realized inner⟩)
    let constant := SelectItem.expr (.literal (.binary [0, 0, 0, 5])) (some "item_Type")
    let column := SelectItem.expr (.column (some "x") "item_Type") (some "item_Type")
    let e := Expr.column (some "u") "item_Type"
    let s : Scope := ⟨[.subquery (union [] []) "u"], []⟩
    let t : Scope := ⟨[.subquery (union [column] [constant]) "u"], []⟩
    typeColumn orderMappings maxDepth (some "u") "item" s = .ok (e, t) ∧
      typeColumn orderMappings maxDepth (some "u") "item" t = .ok (e, t) := by
  intro select realized union constant column e s t
  have h : typeColumn orderMappings maxDepth (some "u") "item" s = .ok (e, t) := rfl
  exact ⟨h, typeColumn_again h⟩

end LogicalSql.Lowering
