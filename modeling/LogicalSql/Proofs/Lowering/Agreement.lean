import LogicalSql.Proofs.Lowering.DateTime
import LogicalSql.Proofs.Lowering.Kept
import LogicalSql.Proofs.Query.WalkHarvest

/-! Lowering with two sources of mappings. The results agree if the sources agree on the tables that
the query names and on the targets of their properties. -/
namespace LogicalSql

variable {E : MappingError → Prop} {R : MappingError → MappingError → Prop} {N : String → Prop}
  {A B : MappingSource}

/-- The sources agree on every look-up that tables named by `N` can lead to. -/
structure SourcesAgree (E : MappingError → Prop) (R : MappingError → MappingError → Prop)
    (N : String → Prop) (A B : MappingSource) : Prop where
  physical : ∀ n, N n → Agree E R (A.physical n) (B.physical n)
  logical : ∀ {n t target}, N n → A.physical n = .ok (some t) → target ∈ t.targets →
    Agree E R (A.logical target) (B.logical target)

namespace Lowering

/-- An error of a look-up that `E` excuses. -/
def Excused (E : MappingError → Prop) (e : LoweringError) : Prop := ∃ m, e = .mapping m ∧ E m

/-- Errors of look-ups related by `R`, or one error that is none of a look-up. -/
inductive Related (R : MappingError → MappingError → Prop) : LoweringError → LoweringError → Prop
  | lookup {m m' : MappingError} (h : R m m') : Related R (.mapping m) (.mapping m')
  | other {e : LoweringError} (h : ∀ m, e ≠ .mapping m) : Related R e e

theorem agree_mapError {α : Type} {x y : Except MappingError α} (h : Agree E R x y) :
    Agree (Excused E) (Related R) (x.mapError .mapping) (y.mapError .mapping) := by
  cases h with
  | ok a => exact .ok a
  | error h => exact .error (.lookup h)
  | excused h y => exact .excused ⟨_, rfl, h⟩ _

/-- A step that asks for no mapping agrees with itself. -/
theorem agree_self {α : Type} {x : Except LoweringError α}
    (h : ∀ e m, x = .error e → e ≠ .mapping m) : Agree (Excused E) (Related R) x x := by
  cases x with
  | ok a => exact .ok a
  | error e => exact .error (.other fun m => h e m rfl)

/-- Where one side fails in a look-up, so does the other. -/
theorem error_of_agree {α : Type} {x y : Except LoweringError α} {m : MappingError}
    (h : Agree (Excused E) (Related R) x y) (hy : y = .error (.mapping m)) :
    ∃ m', x = .error (.mapping m') := by
  cases h with
  | ok a => cases hy
  | error h =>
    cases hy
    cases h with
    | lookup h => exact ⟨_, rfl⟩
    | other h => exact ⟨m, rfl⟩
  | excused h y =>
    obtain ⟨m', rfl, -⟩ := h
    exact ⟨m', rfl⟩

/-- If the answers are the same wherever both sides have one, only an excused look-up fails. -/
theorem excused_of_agree {α : Type} {x y : Except LoweringError α} {m : MappingError}
    (h : Agree (Excused E) (Related fun _ _ => False) x y) (hx : x = .error (.mapping m)) :
    E m := by
  cases h with
  | ok a => cases hx
  | error h =>
    cases hx
    cases h with
    | lookup h => exact h.elim
    | other h => exact absurd rfl (h m)
  | excused h y =>
    obtain ⟨m', rfl, hm⟩ := h
    cases hx
    exact hm

theorem eq_of_agree {α : Type} {x y : Except LoweringError α}
    (h : Agree (Excused E) (Related Eq) x y) :
    x = y ∨ ∃ m, x = .error (.mapping m) ∧ E m := by
  cases h with
  | ok a => exact .inl rfl
  | error h =>
    cases h with
    | lookup h => exact .inl (h ▸ rfl)
    | other h => exact .inl rfl
  | excused h y =>
    obtain ⟨m, rfl, hm⟩ := h
    exact .inr ⟨m, rfl, hm⟩

theorem mem_targets {t : TableMapping} {column nested : String}
    (h : t.properties.findSome? (singleOn? column) = some (some nested)) : nested ∈ t.targets := by
  obtain ⟨before, name, after, hfirst, -⟩ := findSome?_split singleOn?_eq_some h
  simp [TableMapping.targets, hfirst, PropertyLayout.target?]

theorem realizedTypeColumn_agree (h : SourcesAgree E R N A B) {table : String} (hN : N table)
    (qualifier : Option String) (column : String) :
    Agree (Excused E) (Related R) (realizedTypeColumn A table qualifier column)
      (realizedTypeColumn B table qualifier column) := by
  rw [realizedTypeColumn, realizedTypeColumn]
  refine (agree_mapError (h.physical table hN)).bind fun found hfound => ?_
  cases found with
  | none => exact .error (.other (by simp))
  | some t =>
    have hmapping := mapError_eq_ok.1 hfound
    dsimp only
    split
    case h_1 => exact .error (.other (by simp))
    case h_2 nested hsingle =>
      -- the one logical table that is asked for is a target of the mapping
      have hlogical := h.logical hN hmapping (mem_targets hsingle)
      refine (agree_mapError hlogical).bind fun target _ => ?_
      split
      · exact .ok _
      · exact .error (.other (by simp))
    case h_3 => exact .ok _
    case h_4 => exact .error (.other (by simp))

/-- Resolvers that agree on scopes within `N`. -/
def ResolversAgree (E : MappingError → Prop) (R : MappingError → MappingError → Prop)
    (N : String → Prop) (r₁ r₂ : Resolver) : Prop :=
  ∀ qualifier column s, s.Within N →
    Agree (Excused E) (Related R) (r₁ qualifier column s) (r₂ qualifier column s)

theorem branchField_error {projections : List SelectItem} {column : String} (e : LoweringError)
    (m : MappingError) (h : branchField projections column = .error e) : e ≠ .mapping m := by
  obtain rfl | rfl := branchField_eq_error h <;> simp

theorem addToBranch_agree {r₁ r₂ : Resolver} (hr : ResolversAgree E R N r₁ r₂) (column : String)
    {s : Select} (hN : (branchScope s).Within N) :
    Agree (Excused E) (Related R) (addToBranch r₁ column s) (addToBranch r₂ column s) := by
  rw [addToBranch, addToBranch]
  split
  · exact .ok _
  · refine (agree_self branchField_error).bind fun field _ => ?_
    split
    · exact (hr _ _ _ hN).bind fun _ _ => .ok _
    · exact .error (.other (by simp))

theorem branchScope_within {s : Select} (hN : Within N (s.harvest .names {})) :
    (branchScope s).Within N ∧ Within N (setOperationHarvest .names {} s.setOperation) := by
  obtain ⟨distinct, projections, sources, joins, filter, groupBy, having, orderBy, limit, offset,
    setOperation⟩ := s
  simp only [Select.harvest, joinSourceHarvest_eq, within_append, and_assoc] at hN
  obtain ⟨hsources, hjoined, -, -, -, -, -, -, -, -, hsetOperation⟩ := hN
  rw [Scope.Within, Scope.harvest, within_append]
  exact ⟨⟨hsources, hjoined⟩, hsetOperation⟩

mutual

theorem addToQuery_agree {r₁ r₂ : Resolver} (hr : ResolversAgree E R N r₁ r₂) (column : String) :
    ∀ q : Query, Within N (q.harvest .names {}) →
      Agree (Excused E) (Related R) (addToQuery r₁ column q) (addToQuery r₂ column q)
  | .select ⟨distinct, projections, sources, joins, filter, groupBy, having, orderBy, limit, offset,
      setOperation⟩, hN => by
    rw [Query.harvest] at hN
    rw [addToQuery, addToQuery]
    obtain ⟨hscope, hrest⟩ := branchScope_within hN
    refine Agree.bind (addToBranch_agree hr column hscope) fun _ _ => ?_
    exact (addToRest_agree hr column setOperation hrest).bind fun _ _ => .ok _
  | .withCtes recursive ctes body, hN => by
    rw [Query.harvest, within_append] at hN
    rw [addToQuery, addToQuery]
    exact (addToQuery_agree hr column body hN.2).bind fun _ _ => .ok _
  | .raw text, _ => by
    rw [addToQuery, addToQuery]
    exact .error (.other (by simp))

theorem addToRest_agree {r₁ r₂ : Resolver} (hr : ResolversAgree E R N r₁ r₂) (column : String) :
    ∀ o : Option SetOperation, Within N (setOperationHarvest .names {} o) →
      Agree (Excused E) (Related R) (addToRest r₁ column o) (addToRest r₂ column o)
  | none, _ => by
    rw [addToRest, addToRest]
    exact .ok _
  | some ⟨op, all, right⟩, hN => by
    rw [setOperationHarvest] at hN
    rw [addToRest, addToRest]
    exact (addToQuery_agree hr column right hN).bind fun _ _ => .ok _

end

theorem within_of_find? {s : Scope} {qualifier : Option String} {source : Source}
    (hs : s.Within N) (h : s.find? qualifier = some source) :
    Within N (source.harvest .names {}) := by
  obtain ⟨before, after, hall⟩ := List.append_of_mem (List.mem_of_find?_eq_some (Scope.find?_all h))
  rw [Scope.Within, Scope.harvest_eq, hall, sourceHarvest_append, within_append, sourceHarvest,
    within_append] at hs
  exact hs.2.1

theorem typeColumn_agree (h : SourcesAgree E R N A B) (depth : Nat) :
    ResolversAgree E R N (typeColumn A depth) (typeColumn B depth) := by
  induction depth using Nat.strongRecOn with
  | ind depth ih =>
    intro qualifier column s hs
    unfold typeColumn
    dsimp only
    split
    case h_1 => exact .error (.other (by simp))
    case h_2 schema name a hfound =>
      have hnames := within_of_find? hs hfound
      have hname : N name := hnames name (by simp [Source.harvest, Harvest.names])
      exact (realizedTypeColumn_agree h hname qualifier column).bind fun _ _ => .ok _
    case h_3 => exact .error (.other (by simp))
    case h_4 query a hfound =>
      have hquery := within_of_find? hs hfound
      rw [Source.harvest] at hquery
      cases depth with
      | zero => exact .error (.other (by simp))
      | succ d =>
        exact (addToQuery_agree (ih d d.lt_succ_self) column query hquery).bind fun _ _ => .ok _

theorem dateTime_error {components : List Int} (e : LoweringError) (m : MappingError)
    (h : dateTime components = .error e) : e ≠ .mapping m := by
  obtain rfl | rfl := dateTime_eq_error h <;> simp

/-- Only `TYPEIDENTIFIER` asks for mappings. -/
theorem lowerCall_agree (h : SourcesAgree E R N A B) (f : LogicalFunction) (args : List Expr)
    (s : Scope) (hs : s.Within N) :
    Agree (Excused E) (Related R) (lowerCall A f args s) (lowerCall B f args s) := by
  unfold lowerCall
  split
  case h_1 =>
    by_cases hcount : args.length = 3 ∨ args.length = 6
    · rw [if_neg (fun hnot => hnot hcount)]
      split
      · exact (agree_self dateTime_error).bind fun _ _ => .ok _
      · exact .error (.other (by simp))
    · rw [if_pos hcount]
      exact .error (.other (by simp))
  case h_9 table name => exact typeColumn_agree h maxDepth table name s hs
  case h_10 | h_11 | h_12 | h_13 | h_14 => exact .error (.other (by simp))
  all_goals exact .ok _

end Lowering

/-- Lowering with either source gives the same, up to errors of look-ups. -/
theorem Query.lower_agree (h : SourcesAgree E R N A B) {q : Query} (hN : Within N q.readTables) :
    Agree (Lowering.Excused E) (Lowering.Related R) (q.lower A) (q.lower B) := by
  refine Query.walk_agree ⟨Lowering.lowerCall_agree h, fun n => ?_⟩ q hN
  exact Lowering.lowerCall_keeps A fun f _ => List.not_mem_nil

theorem Query.lower_eq_of_agree {q : Query}
    (h : SourcesAgree (fun _ => False) Eq (· ∈ q.readTables) A B) : q.lower A = q.lower B := by
  obtain heq | ⟨_, -, hfalse⟩ := Lowering.eq_of_agree (lower_agree h fun _ hn => hn)
  · exact heq
  · exact hfalse.elim

/-- The rewrite of a query depends on the mappings only through the tables that the query names
anywhere and the tables that their properties always refer to. Where the look-ups of these give the
same, so does the rewrite, be it a query or an error. -/
theorem Query.rewrite_eq_of_named_tables (q : Query)
    (hphysical : ∀ name ∈ q.readTables, A.physical name = B.physical name)
    (hlogical : ∀ name ∈ q.readTables, ∀ t, A.physical name = .ok (some t) →
      ∀ target ∈ t.targets, A.logical target = B.logical target) :
    Pass.runAll (Pass.defaults A) q = Pass.runAll (Pass.defaults B) q := by
  have hagree : SourcesAgree (fun _ => False) Eq (· ∈ q.readTables) A B := by
    refine ⟨fun name hname => ?_, fun {name t target} hname ht htarget => ?_⟩
    · rw [hphysical name hname]
      exact .refl _
    · rw [hlogical name hname t ht target htarget]
      exact .refl _
  rw [Pass.runAll_defaults, Pass.runAll_defaults, lower_eq_of_agree hagree]

/-- A table inside a derived table and the target of its property are all that has to be known. -/
theorem Query.rewrite_eq_of_derived_table :
    let items : TableMapping :=
      { logicalName := "Catalog.Items", physicalName := "_Reference5", type := .catalog
        index := some 5 }
    let orders : TableMapping :=
      { logicalName := "Document.Orders", physicalName := "_Document9", type := .document
        properties := [⟨"Item", .single "_fld10rref" (some "Catalog.Items")⟩] }
    let known : MappingSource :=
      { physical := fun name => .ok (if name = "_Document9" then some orders else none)
        logical := fun name => .ok (if name = "Catalog.Items" then some items else none) }
    let loaded : MappingSource :=
      { physical := fun name =>
          if name = "_Document9" then .ok (some orders) else .error (.notLoaded name)
        logical := fun name =>
          if name = "Catalog.Items" then .ok (some items) else .error (.notLoaded name) }
    let inner : Query := .select
      { projections := [.expr (.column none "_fld10rref") (some "item")]
        sources := [.table none "_Document9" none] }
    let q : Query := .select
      { projections := [.expr (.call .typeIdentifier [.column (some "d") "item"]) none]
        sources := [.subquery inner "d"] }
    loaded.physical "_Reference5" ≠ known.physical "_Reference5" ∧ q.readTables = ["_Document9"] ∧
      Pass.runAll (Pass.defaults loaded) q = Pass.runAll (Pass.defaults known) q ∧
      q.loweredSql known = .ok ("SELECT d.item_Type FROM (SELECT _fld10rref AS item, " ++
        "'\\x00000005'::bytea AS item_Type FROM _Document9) AS d") := by
  intro items orders known loaded inner q
  have htables : q.readTables = ["_Document9"] := rfl
  refine ⟨by decide, htables, rewrite_eq_of_named_tables q ?_ ?_, by decide +kernel⟩
  · intro name hname
    rw [htables, List.mem_singleton] at hname
    rw [hname]
    rfl
  · intro name hname t ht target htarget
    rw [htables, List.mem_singleton] at hname
    rw [hname] at ht
    cases ht
    rw [List.mem_singleton.1 htarget]
    rfl

end LogicalSql
