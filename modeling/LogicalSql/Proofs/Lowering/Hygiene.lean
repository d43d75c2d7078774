import LogicalSql.Lowering.Text
import LogicalSql.Proofs.Lowering.BranchSteps
import LogicalSql.Proofs.Lowering.WalkFrame

/-! The type column of a derived table is its own: each branch has it behind the fields written in
the query, unless a field is written with its alias. -/
namespace LogicalSql

open Lowering

/-- The columns for whose types no alias is written. -/
def newColumns (columns : List String) (aliases : List (Option String)) : List String :=
  columns.filter fun column => some (typeAlias column) ∉ aliases

/-- The only field with the alias of the type behind a column stands behind the first `n`. It tells
the type of the one field for that column. -/
def GeneratedType (T : TypeRule) (n : Nat) (fields : List SelectItem) (column : String) : Prop :=
  ∃ before after table name e, fields = before ++ .expr e (some (typeAlias column)) :: after ∧
    n ≤ before.length ∧ (∀ i ∈ before ++ after, i.alias? ≠ some (typeAlias column)) ∧
    FieldFor before column table name ∧ T table name e

theorem SelectItem.Framed.alias?_eq {R : SourceRule} {T : TypeRule} {i i' : SelectItem}
    (h : SelectItem.Framed R T i i') : i'.alias? = i.alias? := by
  cases h <;> rfl

theorem FramedItems.aliases {R : SourceRule} {T : TypeRule} {items items' : List SelectItem}
    (h : FramedItems R T items items') :
    items'.map SelectItem.alias? = items.map SelectItem.alias? := by
  induction items generalizing items' with
  | nil =>
    cases h
    rfl
  | cons i items ih =>
    cases h with
    | cons hi h => rw [List.map_cons, List.map_cons, hi.alias?_eq, ih h]

namespace FieldsGained

variable {T : TypeRule} {items fields : List SelectItem} {columns : List String} {column : String}

/-- The aliases of the fields are those written and, behind them, those of the types. -/
theorem aliases (h : FieldsGained T items columns fields) :
    fields.map SelectItem.alias? = items.map SelectItem.alias? ++
      (newColumns columns (items.map SelectItem.alias?)).reverse.map fun c =>
        some (typeAlias c) := by
  induction h with
  | none => simp [newColumns]
  | written _ hwritten ih =>
    rw [ih, newColumns, newColumns, List.filter_cons_of_neg (by simpa using hwritten)]
  | @added columns fields column name table e h hfresh _ _ _ ih =>
    have hnew : some (typeAlias column) ∉ items.map SelectItem.alias? :=
      fun hmem => hfresh (h.mem_aliases.2 (.inl hmem))
    rw [List.map_append, ih, newColumns, newColumns, List.filter_cons_of_pos (by simpa using hnew),
      List.reverse_cons, List.map_append, List.append_assoc]
    rfl

theorem generated (h : FieldsGained T items columns fields) (hcolumn : column ∈ columns)
    (hfresh : some (typeAlias column) ∉ items.map SelectItem.alias?) :
    GeneratedType T items.length fields column := by
  induction h with
  | none => cases hcolumn
  | written _ hwritten ih =>
    cases hcolumn with
    | head => exact absurd hwritten hfresh
    | tail _ hcolumn => exact ih hcolumn
  | @added columns fields column' name table e h hnew hfield _ hrule ih =>
    -- it is the field just added, or one from before that this field follows
    by_cases heq : column = column'
    · subst heq
      refine ⟨fields, [], table, name, e, rfl, ?_, ?_, hfield, hrule⟩
      · have hlength := congrArg List.length h.aliases
        simp only [List.length_map, List.length_append] at hlength
        omega
      · intro i hi hia
        rw [List.append_nil] at hi
        exact hnew (hia ▸ List.mem_map_of_mem hi)
    · have hcolumn := (List.mem_cons.1 hcolumn).resolve_left heq
      obtain ⟨before, after, t, n, e', hsplit, hbehind, hothers, hfield', hrule'⟩ := ih hcolumn
      refine ⟨before, after ++ [.expr e (some (typeAlias column'))], t, n, e', ?_, hbehind, ?_,
        hfield', hrule'⟩
      · rw [hsplit, List.append_assoc, List.cons_append]
      · intro i hi
        rw [← List.append_assoc, List.mem_append, List.mem_singleton] at hi
        rcases hi with hi | rfl
        · exact hothers i hi
        · rw [SelectItem.alias?, ne_eq, Option.some.injEq, typeAlias_inj]
          exact fun hsame => heq hsame.symm

/-- In front of a field behind those written, all their aliases are found. -/
theorem not_written (h : FieldsGained T items columns fields) {T' : TypeRule}
    (hgenerated : GeneratedType T' items.length fields column) :
    some (typeAlias column) ∉ items.map SelectItem.alias? := by
  obtain ⟨before, after, table, name, e, hsplit, hbehind, hothers, -⟩ := hgenerated
  have htake : items.map SelectItem.alias? = (fields.map SelectItem.alias?).take items.length := by
    rw [h.aliases, List.take_left' (List.length_map _)]
  rw [htake, hsplit, List.map_append, List.take_append_of_le_length (by simpa using hbehind)]
  intro hmem
  obtain ⟨i, hi, hname⟩ := List.mem_map.1 (List.mem_of_mem_take hmem)
  exact hothers i (List.mem_append_left _ hi) hname

end FieldsGained

/-- A branch as written and as it is left when the types behind these columns were asked for, that
behind `column` among them. -/
structure TypedBranch (mappings : MappingSource) (columns : List String) (column : String)
    (b b' : Select) : Prop where
  /-- The type is a field written in the query only if one is written with its alias. -/
  generated : GeneratedType (TypeOf mappings (branchScope b)) b.projections.length b'.projections
    column ↔ some (typeAlias column) ∉ b.projections.map SelectItem.alias?
  aliases : b'.projections.map SelectItem.alias? = b.projections.map SelectItem.alias? ++
    (newColumns columns (b.projections.map SelectItem.alias?)).reverse.map fun c =>
      some (typeAlias c)
  /-- Branches without such aliases gain equally many fields. -/
  count : (∀ c ∈ columns, some (typeAlias c) ∉ b.projections.map SelectItem.alias?) →
    b'.projections.length = b.projections.length + columns.length

theorem FieldsGained.typedBranch {mappings : MappingSource} {items : List SelectItem}
    {columns : List String} {column : String} {b b' : Select}
    (h : FieldsGained (TypeOf mappings (branchScope b)) items columns b'.projections)
    (hitems : items.map SelectItem.alias? = b.projections.map SelectItem.alias?)
    (hcolumn : column ∈ columns) : TypedBranch mappings columns column b b' := by
  have hlength : items.length = b.projections.length := by
    simpa only [List.length_map] using congrArg List.length hitems
  have haliases := h.aliases
  rw [hitems] at haliases
  refine ⟨?_, haliases, ?_⟩
  · rw [← hitems, ← hlength]
    exact ⟨h.not_written, h.generated hcolumn⟩
  · intro hnew
    have hall : newColumns columns (b.projections.map SelectItem.alias?) = columns :=
      List.filter_eq_self.2 fun c hc => decide_eq_true (hnew c hc)
    have hcount := congrArg List.length haliases
    rw [hall] at hcount
    simpa only [List.length_append, List.length_map, List.length_reverse] using hcount

theorem Select.Framed.gained {R : SourceRule} {columns : List String} {b b' : Select}
    (h : Select.Framed R columns b b') :
    ∃ items, items.map SelectItem.alias? = b.projections.map SelectItem.alias? ∧
      FieldsGained (R (branchScope b) (branchScope b')) items columns b'.projections := by
  cases h with
  | intro _ hitems hgained => exact ⟨_, hitems.aliases, hgained⟩

mutual

theorem Query.Framed.branches {R : SourceRule} {columns : List String} :
    ∀ (q : Query) {q' : Query}, Query.Framed R columns q q' →
      List.Forall₂ (Select.Framed R columns) q.branches q'.branches
  | .select ⟨_, _, _, _, _, _, _, _, _, _, setOperation⟩,
    .select ⟨_, _, _, _, _, _, _, _, _, _, _⟩, .select h => by
    rw [Query.branches, Query.branches]
    exact .cons h (FramedRest.branches setOperation h.rest)
  | .withCtes _ _ body, _, .withCtes _ hbody => by
    rw [Query.branches, Query.branches]
    exact Query.Framed.branches body hbody
  | .raw _, _, .raw _ => by
    rw [Query.branches]
    exact .nil

theorem FramedRest.branches {R : SourceRule} {columns : List String} :
    ∀ (o : Option SetOperation) {o' : Option SetOperation}, FramedRest R columns o o' →
      List.Forall₂ (Select.Framed R columns) (restBranches o) (restBranches o')
  | none, _, .none => by
    rw [restBranches]
    exact .nil
  | some ⟨_, _, right⟩, _, .some h => by
    rw [restBranches, restBranches]
    exact Query.Framed.branches right h

end

/-- `TYPEIDENTIFIER` of a column becomes the type of that column as the sources written have it. If
it is a column of a derived table, each branch of that table has come to tell the type. -/
structure Hygienic (mappings : MappingSource) (w s : Scope) (qualifier : Option String)
    (column : String) (e : Expr) : Prop where
  type : TypeOf mappings w qualifier column e
  branches : ∀ q a, w.find? qualifier = some (.subquery q a) →
    ∃ q' columns, s.find? qualifier = some (.subquery q' a) ∧
      List.Forall₂ (TypedBranch mappings columns column) q.branches q'.branches

theorem forall_mem_of_forall₂ {P : Select → Select → Prop} {p : Select → Prop}
    {bs bs' : List Select} (h : List.Forall₂ P bs bs') (hp : ∀ b b', P b b' → p b') :
    ∀ b' ∈ bs', p b' := by
  induction h with
  | nil => nofun
  | cons hb _ ih => exact List.forall_mem_cons.2 ⟨hp _ _ hb, ih⟩

/-- Every branch of the derived table has a field with the alias of the type. -/
def Source.HasTypes (column : String) : Source → Prop
  | .subquery q _ => ∀ b ∈ q.branches, some (typeAlias column) ∈ b.projections.map SelectItem.alias?
  | _ => False

variable {mappings : MappingSource} {w s t : Scope} {qualifier : Option String} {column : String}
  {e : Expr}

theorem TypedBranch.hasAlias {columns : List String} {b b' : Select}
    (h : TypedBranch mappings columns column b b') :
    some (typeAlias column) ∈ b'.projections.map SelectItem.alias? := by
  by_cases hwritten : some (typeAlias column) ∈ b.projections.map SelectItem.alias?
  · rw [h.aliases]
    exact List.mem_append_left _ hwritten
  · obtain ⟨before, after, table, name, e, hsplit, -⟩ := h.generated.2 hwritten
    rw [hsplit, List.map_append]
    exact List.mem_append_right _ List.mem_cons_self

/-- The types behind the columns of derived tables follow from the frame. -/
theorem hygienic_of_framed (hs : w.Rel (Source.Framed (Hygienic mappings)) s)
    (htype : TypeOf mappings w qualifier column e)
    (htypes : ∀ q a, s.find? qualifier = some (.subquery q a) →
      (Source.subquery q a).HasTypes column) :
    Hygienic mappings w s qualifier column e := by
  refine ⟨htype, fun q a hq => ?_⟩
  obtain ⟨y, hy, hframed⟩ := hs.find?_right (fun _ _ h => h.bindingName) hq
  cases hframed with
  | @subquery columns _ q' _ hframed =>
    -- a branch with the alias keeps its fields when the column is put to those asked for
    have hbranches := (List.forall₂_and_left _ _).2 ⟨htypes q' a hy, hframed.branches.flip⟩
    refine ⟨q', columns.insert column, hy, (hbranches.imp ?_).flip⟩
    rintro b' b ⟨halias, hb⟩
    obtain ⟨items, hitems, hgained⟩ := hb.gained
    have hgained' := (hgained.reuse halias).mono fun _ _ _ h => h.type
    exact hgained'.typedBranch hitems (List.mem_insert_self ..)

theorem Lowering.TypeOf.of_rel {R : SourceRule} (hs : w.Rel (Source.Framed R) s)
    (h : TypeOf mappings s qualifier column e) : TypeOf mappings w qualifier column e := by
  cases h with
  | realized hfound h =>
    obtain ⟨x, hx, hframed⟩ := hs.find?_left (fun _ _ h => h.bindingName) hfound
    cases hframed
    exact .realized hx h
  | derived hfound =>
    obtain ⟨x, hx, hframed⟩ := hs.find?_left (fun _ _ h => h.bindingName) hfound
    cases hframed
    exact .derived hx

/-- Where the type is looked up, every branch comes to have a field for it. -/
theorem typeColumn_hasTypes {depth : Nat} {q : Query} {a : String}
    (h : typeColumn mappings depth qualifier column s = .ok (e, t))
    (hfound : t.find? qualifier = some (.subquery q a)) :
    (Source.subquery q a).HasTypes column := by
  obtain ⟨schema, name, a', htable, -, rfl⟩ | ⟨d, q₁, q', a', -, hsource, -⟩ := typeColumn_cases h
  · rw [htable] at hfound
    cases hfound
  · obtain ⟨q₂, hreplaced, hsteps⟩ := typeColumn_steps hsource h
    rw [hreplaced.replaced] at hfound
    cases hfound
    exact forall_mem_of_forall₂ hsteps fun _ _ hstep => hstep.hasAlias

/-- A field for a type is not lost when others are looked up. -/
theorem Lowering.TypeStep.hasTypes (h : TypeStep mappings s t) (column : String) :
    s.Rel (fun x y => y.bindingName = x.bindingName ∧ (x.HasTypes column → y.HasTypes column))
      t := by
  have hrefl : s.Rel (fun x y => y.bindingName = x.bindingName ∧
      (x.HasTypes column → y.HasTypes column)) s := .refl (fun _ => ⟨rfl, id⟩) s
  obtain ⟨depth, qualifier, column', e, h⟩ := h
  obtain ⟨schema, name, a, -, -, rfl⟩ | ⟨d, q, q', a, rfl, hfound, hq, -, rfl⟩ := typeColumn_cases h
  · exact hrefl
  · refine hrefl.replace hfound ?_
    rintro x ⟨hname, hx⟩
    refine ⟨hname, fun htypes => ?_⟩
    have hsteps := (List.forall₂_and_left _ _).2 ⟨hx htypes, addToQuery_steps d column' q hq⟩
    exact forall_mem_of_forall₂ hsteps fun _ _ ⟨halias, hstep⟩ => hstep.aliases_subset halias

theorem Hygienic.kept (mappings : MappingSource) : RuleKept mappings (Hygienic mappings) where
  found hs h ht :=
    hygienic_of_framed ht ((typeColumn_typeOf h).of_rel hs) fun _ _ => typeColumn_hasTypes h
  stays {w s t qualifier column e} h hstep ht := by
    refine hygienic_of_framed ht h.type fun q' a hq' => ?_
    obtain ⟨x, hx, hframed⟩ := ht.find?_left (fun _ _ h => h.bindingName) hq'
    obtain ⟨y, hy, -, hyq⟩ := (hstep.hasTypes column).find?_left (fun _ _ h => h.1) hq'
    cases hframed with
    | @subquery _ q =>
      obtain ⟨q₁, columns, hq₁, hbranches⟩ := h.branches q a hx
      rw [hq₁] at hy
      cases hy
      exact hyq (forall_mem_of_forall₂ hbranches fun _ _ hb => hb.hasAlias)

namespace Query

/-- At every level of the query, what `TYPEIDENTIFIER` asks for is told by fields that lowering has
put behind those written, except in the branches with a field written under the same alias. -/
theorem runAll_hygienic {q q' : Query} (h : Pass.runAll (Pass.defaults mappings) q = .ok q') :
    q.Framed (Hygienic mappings) [] q' := by
  rw [Pass.runAll_defaults] at h
  exact lower_framed (Hygienic.kept mappings) h

/-- One branch of the union has the type from a derived table further inside. -/
theorem nested_union_hygienic :
    let select := fun (fields : List SelectItem) (source : Source) (rest : Option SetOperation) =>
      Query.select { projections := fields, sources := [source], setOperation := rest }
    let realized := fun types =>
      select (.expr (.column none "_fld10rref") (some "item") :: types)
        (.table none "_Document9" none) none
    let union := fun types inner =>
      select (.expr (.column (some "x") "item") none :: types) (.subquery (realized inner) "x")
        (some ⟨.union, true, realized inner⟩)
    let outer := fun types inner type =>
      select [.expr type none] (.subquery (union types inner) "u") none
    let constant := SelectItem.expr (.literal (.binary [0, 0, 0, 5])) (some "item_Type")
    let column := SelectItem.expr (.column (some "x") "item_Type") (some "item_Type")
    let q := outer [] [] (.call .typeIdentifier [.column (some "u") "item"])
    let q' := outer [column] [constant] (.column (some "u") "item_Type")
    Pass.runAll (Pass.defaults orderMappings) q = .ok q' ∧
      q.Framed (Hygienic orderMappings) [] q' := by
  intro select realized union outer constant column q q'
  have h : Pass.runAll (Pass.defaults orderMappings) q = .ok q' := rfl
  exact ⟨h, runAll_hygienic h⟩

/-- A number that the query itself calls `item_Type` is taken for the type. The branches of the
union had two fields each, and have three and two. -/
theorem written_alias_taken_for_type :
    let counts : Query → List Nat := fun
      | .select { sources := [.subquery u _], .. } => u.branches.map (·.projections.length)
      | _ => []
    (do
      let q ← (parse ("SELECT TYPEIDENTIFIER(u.item) FROM (" ++
        "SELECT o._fld10rref AS item, o._number AS number FROM _Document9 o UNION ALL " ++
        "SELECT d._fld10rref AS item, d._number AS item_Type FROM _Document9 d) u")).toOption
      let q' ← (Pass.runAll (Pass.defaults orderMappings) q).toOption
      return (counts q, counts q', q'.sql)) =
    some ([2, 2], [3, 2], "SELECT u.item_Type FROM (" ++
      "SELECT o._fld10rref AS item, o._number AS number, '\\x00000005'::bytea AS item_Type " ++
      "FROM _Document9 AS o UNION ALL " ++
      "SELECT d._fld10rref AS item, d._number AS item_Type FROM _Document9 AS d) AS u") := by
  decide +kernel

end Query

end LogicalSql
