import LogicalSql.Proofs.Lowering.BranchSteps

/-! The places of the fields whose types the branches of a derived table gain. -/
namespace LogicalSql.Lowering

variable {mappings : MappingSource} {fields : List SelectItem} {column name : String}
  {table : Option String}

/-- The field at `k` goes by this name. It has the name as its alias or, where no field has that
alias, refers to a column of that name. -/
def NamedAt (column : String) (fields : List SelectItem) (k : Nat) : Prop :=
  fields[k]?.bind SelectItem.alias? = some column ∨
    some column ∉ fields.map SelectItem.alias? ∧
      ∃ table a, fields[k]? = some (.expr (.column table column) a)

theorem mem_of_getElem?_ne {before after : List SelectItem} {x y : SelectItem} {i : Nat}
    (h : (before ++ x :: after)[i]? = some y) (hi : i ≠ before.length) : y ∈ before ++ after := by
  rcases Nat.lt_or_gt_of_ne hi with hlt | hgt
  · rw [List.getElem?_append_left hlt] at h
    exact List.mem_append_left _ (List.mem_of_getElem? h)
  · obtain ⟨j, rfl⟩ := Nat.exists_eq_add_of_lt hgt
    have hj : before.length + j + 1 - before.length = j + 1 := by omega
    rw [List.getElem?_append_right (by omega), hj, List.getElem?_cons_succ] at h
    exact List.mem_append_right _ (List.mem_of_getElem? h)

/-- The one field for a column stands at the one place that goes by the column's name. -/
theorem FieldFor.place (h : FieldFor fields column table name) :
    ∃ k a, fields[k]? = some (.expr (.column table name) a) ∧
      ∀ i, NamedAt column fields i ↔ i = k := by
  cases h with
  | @aliased before after _ _ hsplit hothers =>
    have hplace : fields[before.length]? = some (.expr (.column table name) (some column)) := by
      simp [hsplit]
    refine ⟨before.length, some column, hplace, fun i => ⟨?_, ?_⟩⟩
    · rintro (halias | ⟨hnone, -⟩)
      -- at another place the field would be one of the others
      · by_contra hi
        obtain ⟨y, hy, halias⟩ := Option.bind_eq_some_iff.1 halias
        exact hothers y (mem_of_getElem?_ne (hsplit ▸ hy) hi) halias
      · exact absurd (List.mem_map_of_mem (List.mem_of_getElem? hplace)) hnone
    · rintro rfl
      refine .inl ?_
      rw [hplace, Option.bind_some, SelectItem.alias?]
  | @named before after _ a halias hsplit hothers =>
    have hplace : fields[before.length]? = some (.expr (.column table column) a) := by
      simp [hsplit]
    have hnone : some column ∉ fields.map SelectItem.alias? := by
      intro hmem
      obtain ⟨y, hy, hya⟩ := List.mem_map.1 hmem
      exact halias y hy hya
    refine ⟨before.length, a, hplace, fun i => ⟨?_, ?_⟩⟩
    · rintro (hi | ⟨-, t, a', hi⟩)
      · obtain ⟨y, hy, hya⟩ := Option.bind_eq_some_iff.1 hi
        exact absurd hya (halias y (List.mem_of_getElem? hy))
      · by_contra hne
        exact hothers _ (mem_of_getElem?_ne (hsplit ▸ hi) hne) t a' rfl
    · rintro rfl
      exact .inr ⟨hnone, table, a, hplace⟩

/-- The branch gains the type of its field at `k`, which alone goes by the column's name. Nothing is
gained if there is a field with the alias of the type. -/
inductive TypedAt (mappings : MappingSource) (column : String) (k : Nat) (b b' : Select) : Prop
  | kept (halias : some (typeAlias column) ∈ b.projections.map SelectItem.alias?)
      (hfields : b'.projections = b.projections)
  | added {table a : Option String} {name : String} {type : Expr}
      (hfield : b.projections[k]? = some (.expr (.column table name) a))
      (hnamed : ∀ i, NamedAt column b.projections i ↔ i = k)
      (htype : TypeOf mappings (branchScope b) table name type)
      (hfields : b'.projections = b.projections ++ [.expr type (some (typeAlias column))])

theorem BranchStep.typedAt {b b' : Select} (h : BranchStep mappings column b b') :
    ∃ k, TypedAt mappings column k b b' := by
  cases h with
  | kept halias hfields => exact ⟨0, .kept halias hfields⟩
  | added _ hfield htype hfields =>
    obtain ⟨k, a, hplace, hnamed⟩ := hfield.place
    exact ⟨k, .added hplace hnamed htype hfields⟩

theorem TypedAt.of_namedAt {k k' : Nat} {b b' : Select} (h : TypedAt mappings column k b b')
    (hk' : NamedAt column b.projections k') : TypedAt mappings column k' b b' := by
  cases h with
  | kept halias hfields => exact .kept halias hfields
  | added hfield hnamed htype hfields =>
    obtain rfl := (hnamed k').1 hk'
    exact .added hfield hnamed htype hfields

/-- Every branch of a derived table gains the type of the field that goes by the column's name in
that branch. So the places are the same where the branches give the name to the same place. -/
theorem typeColumn_places {depth : Nat} {qualifier : Option String} {column a : String}
    {s t : Scope} {q : Query} {e : Expr} (hfound : s.find? qualifier = some (.subquery q a))
    (h : typeColumn mappings depth qualifier column s = .ok (e, t)) :
    ∃ q', s.Replaced qualifier (.subquery q a) (.subquery q' a) t ∧
      List.Forall₂ (fun b b' => ∃ k, TypedAt mappings column k b b') q.branches q'.branches ∧
      ∀ k, (∀ b ∈ q.branches, NamedAt column b.projections k) →
        List.Forall₂ (TypedAt mappings column k) q.branches q'.branches := by
  obtain ⟨q', hreplaced, hsteps⟩ := typeColumn_steps hfound h
  have htyped := hsteps.imp fun _ _ hstep => hstep.typedAt
  refine ⟨q', hreplaced, htyped, fun k hk => ?_⟩
  have hnamed := (List.forall₂_and_left _ _).2 ⟨hk, htyped⟩
  refine hnamed.imp ?_
  rintro b b' ⟨hb, k', htyped⟩
  exact htyped.of_namedAt hb

/-- `item` is the second field of both branches, in one by its alias and in the other by the name of
the column. -/
theorem typeColumn_same_place :
    let realized : Select :=
      { projections := [.expr (.column none "_number") (some "number"),
          .expr (.column none "_fld10rref") (some "item")]
        sources := [.table none "_Document9" none] }
    let derived : Select :=
      { projections := [.wildcardOf "x", .expr (.column (some "x") "item") none]
        sources := [.subquery (.select realized) "x"] }
    let first := { realized with setOperation := some ⟨.union, true, .select derived⟩ }
    let s : Scope := ⟨[.subquery (.select first) "u"], []⟩
    ∃ e t q', typeColumn orderMappings maxDepth (some "u") "item" s = .ok (e, t) ∧
      t.find? (some "u") = some (.subquery q' "u") ∧
      List.Forall₂ (TypedAt orderMappings "item" 1) [first, derived] q'.branches := by
  intro realized derived first s
  obtain ⟨e, t, h⟩ : ∃ e t, typeColumn orderMappings maxDepth (some "u") "item" s = .ok (e, t) :=
    ⟨_, _, rfl⟩
  obtain ⟨q', hreplaced, -, hplaces⟩ := typeColumn_places rfl h
  refine ⟨e, t, q', h, hreplaced.replaced, hplaces 1 ?_⟩
  have hfirst : NamedAt "item" first.projections 1 := .inl rfl
  have hderived : NamedAt "item" derived.projections 1 := .inr ⟨by decide, some "x", none, rfl⟩
  exact List.forall_mem_cons.2 ⟨hfirst, List.forall_mem_cons.2 ⟨hderived, nofun⟩⟩

/-- A union whose second branch has the fields in another order. There `item` is of type 5 as in the
first branch, although the union takes the service, of type 7, for it. -/
theorem typeColumn_other_place :
    let item := SelectItem.expr (.column none "_fld10rref") (some "item")
    let service := SelectItem.expr (.column none "_fld11rref") (some "service")
    let type := SelectItem.expr (.literal (.binary [0, 0, 0, 5])) (some "item_Type")
    let branch : List SelectItem → Option SetOperation → Select := fun fields rest =>
      { projections := fields, sources := [.table none "_Document9" none], setOperation := rest }
    let union := fun types =>
      let second := branch ([service, item] ++ types) none
      Query.select (branch ([item, service] ++ types) (some ⟨.union, true, .select second⟩))
    typeColumn orderMappings maxDepth (some "u") "item" ⟨[.subquery (union []) "u"], []⟩ =
        .ok (.column (some "u") "item_Type", ⟨[.subquery (union [type]) "u"], []⟩) ∧
      typeColumn orderMappings maxDepth none "_fld11rref" ⟨[.table none "_Document9" none], []⟩ =
        .ok (.literal (.binary [0, 0, 0, 7]), ⟨[.table none "_Document9" none], []⟩) ∧
      ¬∃ k, List.Forall₂ (TypedAt orderMappings "item" k) (union []).branches
        (union [type]).branches := by
  intro item service type branch union
  refine ⟨rfl, rfl, ?_⟩
  rintro ⟨k, _ | ⟨hfirst, _ | ⟨hsecond, _⟩⟩⟩
  have hzero : 0 = k := by
    cases hfirst with
    | kept halias => exact absurd halias (by decide)
    | added _ hnamed => exact (hnamed 0).1 (.inl rfl)
  have hone : 1 = k := by
    cases hsecond with
    | kept halias => exact absurd halias (by decide)
    | added _ hnamed => exact (hnamed 1).1 (.inl rfl)
  omega

end LogicalSql.Lowering
