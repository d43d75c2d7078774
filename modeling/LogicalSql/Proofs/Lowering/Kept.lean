import LogicalSql.Lowering.Pipeline
import LogicalSql.Proofs.Lowering.TypeColumn
import LogicalSql.Proofs.Query.WalkHarvest

/-! What lowering keeps of a query: a call is replaced by something that holds no more and no less
than its arguments, calls of SQL functions apart. -/
namespace LogicalSql

variable {α : Type} {v w : Harvest α} {x : α}

theorem Scope.harvest_eq (s : Scope) : s.harvest v w = sourceHarvest v w s.all := by
  rw [Scope.harvest, Scope.all, sourceHarvest_append]

theorem Scope.Replaced.kept {qualifier : Option String} {old new : Source} {s t : Scope}
    (h : s.Replaced qualifier old new t) (hx : x ∈ new.harvest v w ↔ x ∈ old.harvest v w) :
    s.Kept v w x t := by
  obtain ⟨before, after, hs, ht⟩ := h.others
  refine ⟨?_, h.joined⟩
  simp only [Scope.harvest_eq, hs, ht, sourceHarvest_append, sourceHarvest, List.mem_append, hx]

namespace Lowering

/-- The type expression stands for no table and no call, and finding it keeps the scope. -/
def Resolver.Keeps (resolve : Resolver) (v w : Harvest α) (x : α) : Prop :=
  ∀ {qualifier column s e t}, resolve qualifier column s = .ok (e, t) →
    e.harvest v w = [] ∧ s.Kept v w x t

theorem Prescribed.harvest {mappings : MappingSource} {table : String} {qualifier : Option String}
    {column : String} {e : Expr} (h : Prescribed mappings table qualifier column e) :
    e.harvest v w = [] := by
  cases h <;> simp only [Expr.harvest]

/-- The joins of a branch take the sources back in their order and are otherwise kept. -/
theorem map_withType_joins (s : Select) (column : String) (type : Expr) {scope : Scope}
    (h : scope.joined.length = (branchScope s).joined.length) :
    (withType s column type scope).joins.map Join.source = scope.joined ∧
      (withType s column type scope).joins.map (fun j => (j.kind, j.condition)) =
        s.joins.map (fun j => (j.kind, j.condition)) := by
  simp only [withType, branchScope, List.length_map] at h ⊢
  generalize s.joins = joins at h ⊢
  generalize scope.joined = sources at h ⊢
  induction joins generalizing sources with
  | nil =>
    obtain rfl := List.length_eq_zero_iff.1 h
    exact ⟨rfl, rfl⟩
  | cons j joins ih =>
    cases sources with
    | nil => cases h
    | cons source sources =>
      obtain ⟨hsources, hkept⟩ := ih sources (Nat.succ.inj h)
      simp only [List.zipWith_cons_cons, List.map_cons, hsources, hkept, and_self]

theorem map_withType_conditions (s : Select) (column : String) (type : Expr) {scope : Scope}
    (h : scope.joined.length = (branchScope s).joined.length) :
    (withType s column type scope).joins.map Join.condition = s.joins.map Join.condition := by
  have hconditions := congrArg (List.map Prod.snd) (map_withType_joins s column type h).2
  rw [List.map_map, List.map_map] at hconditions
  exact hconditions

theorem withType_kept {s : Select} {column : String} {type : Expr} {scope : Scope}
    (htype : type.harvest v w = []) (hscope : (branchScope s).Kept v w x scope) :
    x ∈ (withType s column type scope).harvest v w ↔ x ∈ s.harvest v w := by
  obtain ⟨hsources, -⟩ := map_withType_joins s column type hscope.length
  have hconditions := map_withType_conditions s column type hscope.length
  have hmem := hscope.mem
  simp only [Scope.harvest, List.mem_append, branchScope] at hmem
  obtain ⟨distinct, projections, sources, joins, filter, groupBy, having, orderBy, limit, offset,
    setOperation⟩ := s
  simp only [withType] at hsources hconditions
  simp only [withType, Select.harvest, joinSourceHarvest_eq, joinConditionHarvest_eq, hsources,
    hconditions, itemHarvest_append, itemHarvest, SelectItem.harvest, htype, List.mem_append,
    List.append_nil, hmem]

theorem mem_select_harvest (s : Select) (o : Option SetOperation) :
    x ∈ ({ s with setOperation := o } : Select).harvest v w ↔
      x ∈ ({ s with setOperation := none } : Select).harvest v w ∨
        x ∈ setOperationHarvest v w o := by
  obtain ⟨distinct, projections, sources, joins, filter, groupBy, having, orderBy, limit, offset,
    setOperation⟩ := s
  simp only [Select.harvest, setOperationHarvest, List.append_nil, List.mem_append]

/-- The branch that a set operation begins with, put back in front of the others. -/
theorem addToBranch_kept {resolve : Resolver} (hk : resolve.Keeps v w x) {column : String}
    {s s' : Select} {o o' : Option SetOperation} (h : addToBranch resolve column s = .ok s')
    (ho : x ∈ setOperationHarvest v w o' ↔ x ∈ setOperationHarvest v w o) :
    x ∈ ({ s' with setOperation := o' } : Select).harvest v w ↔
      x ∈ ({ s with setOperation := o } : Select).harvest v w := by
  rw [mem_select_harvest s', mem_select_harvest s, ho]
  obtain ⟨-, rfl⟩ | ⟨table, name, type, scope, -, hresolve, rfl⟩ := addToBranch_cases h
  · rfl
  · obtain ⟨htype, hscope⟩ := hk hresolve
    exact or_congr_left (withType_kept (s := { s with setOperation := none }) htype hscope)

theorem addToQuery_kept {resolve : Resolver} (hk : resolve.Keeps v w x) (column : String)
    (q : Query) :
    Returns (addToQuery resolve column q) (x ∈ q.harvest v w) (x ∈ ·.harvest v w) := by
  have hrel : FieldRelation resolve column (fun q q' => x ∈ q'.harvest v w ↔ x ∈ q.harvest v w)
      fun o o' => x ∈ setOperationHarvest v w o' ↔ x ∈ setOperationHarvest v w o := by
    constructor
    case select =>
      intro s s' o o' hbranch ho
      have hselect := addToBranch_kept hk hbranch ho
      simpa only [Query.harvest] using hselect
    case withCtes =>
      intro recursive ctes body body' hbody
      simp only [Query.harvest, List.mem_append, hbody]
    case last => rfl
    case operation =>
      intro op all right right' hright
      simpa only [setOperationHarvest] using hright
  exact fun q' h => hrel.query q h

theorem typeColumn_keeps (mappings : MappingSource) (depth : Nat) :
    (typeColumn mappings depth).Keeps v w x := by
  -- a derived table is looked into with one less of depth
  induction depth using Nat.strongRecOn with
  | ind depth ih =>
    intro qualifier column s e t h
    obtain ⟨schema, name, a, -, he, rfl⟩ | ⟨d, query, query', a, rfl, hfound, hquery, rfl, rfl⟩ :=
      typeColumn_cases h
    · exact ⟨(realizedTypeColumn_prescribed he).harvest, .refl t⟩
    · have hreplaced : s.Replaced qualifier (.subquery query a) (.subquery query' a) _ :=
        Scope.replaced_replace hfound rfl
      refine ⟨by simp only [Expr.harvest], hreplaced.kept ?_⟩
      have hkept := addToQuery_kept (ih d d.lt_succ_self) column query query' hquery
      simpa only [Source.harvest] using hkept

end Lowering

/-- The functions that SQL has as well. -/
def LogicalFunction.isSql : LogicalFunction → Bool
  | .substring | .dateTrunc | .datePart => true
  | _ => false

namespace Lowering

/-- What a call becomes when no mapping is asked for. -/
inductive Lowered : LogicalFunction → List Expr → Expr → Prop
  | dateTime {args : List Expr} {components : List Int} {e : Expr}
      (hargs : args.mapM integerLiteral? = some components) (he : dateTime components = .ok e) :
      Lowered .dateTime args e
  | year (value : Expr) : Lowered .year [value] (.call .datePart [.string "year", value])
  | quarter (value : Expr) : Lowered .quarter [value] (.call .datePart [.string "quarter", value])
  | presentation (value : Expr) : Lowered .presentation [value] value
  | isNull (value fallback : Expr) :
      Lowered .isNull [value, fallback]
        (.case none [(.isNull value false, fallback)] (some value))
  | substring (text start length : Expr) :
      Lowered .substring [text, start, length]
        (.call .substring [.cast text "varchar", start, length])
  | dateTrunc (value period : Expr) :
      Lowered .dateTrunc [value, period] (.call .dateTrunc [period, value])
  | datePart (args : List Expr) : Lowered .datePart args (.call .datePart args)

theorem lowerCall_cases {mappings : MappingSource} {f : LogicalFunction} {args : List Expr}
    {s t : Scope} {e : Expr} (h : lowerCall mappings f args s = .ok (e, t)) :
    (Lowered f args e ∧ t = s) ∨
    ∃ table name, f = .typeIdentifier ∧ args = [.column table name] ∧
      typeColumn mappings maxDepth table name s = .ok (e, t) := by
  unfold lowerCall at h
  split at h
  case h_1 =>
    by_cases hcount : args.length = 3 ∨ args.length = 6
    · rw [if_neg (fun hnot => hnot hcount)] at h
      cases hargs : args.mapM integerLiteral? with
      | none =>
        rw [hargs] at h
        cases h
      | some components =>
        rw [hargs] at h
        obtain ⟨e', he, h⟩ := bind_eq_ok.1 h
        cases pure_eq_ok.1 h
        exact .inl ⟨.dateTime hargs he, rfl⟩
    · rw [if_pos hcount] at h
      cases h
  case h_2 value => cases h; exact .inl ⟨.year value, rfl⟩
  case h_3 value => cases h; exact .inl ⟨.quarter value, rfl⟩
  case h_4 value => cases h; exact .inl ⟨.presentation _, rfl⟩
  case h_5 value fallback => cases h; exact .inl ⟨.isNull value fallback, rfl⟩
  case h_6 text start length => cases h; exact .inl ⟨.substring text start length, rfl⟩
  case h_7 value period => cases h; exact .inl ⟨.dateTrunc value period, rfl⟩
  case h_8 => cases h; exact .inl ⟨.datePart args, rfl⟩
  case h_9 table name => exact .inr ⟨table, name, rfl, rfl, h⟩
  all_goals cases h

theorem integerLiterals {args : List Expr} {components : List Int}
    (h : args.mapM integerLiteral? = some components) :
    ∀ e ∈ args, ∃ n, e = .literal (.integer n) := by
  induction args generalizing components with
  | nil => exact List.forall_mem_nil _
  | cons e args ih =>
    rw [List.mapM_cons] at h
    obtain ⟨n, he, h⟩ := Option.bind_eq_some_iff.1 h
    obtain ⟨ns, hargs, -⟩ := Option.bind_eq_some_iff.1 h
    refine List.forall_mem_cons.2 ⟨?_, ih hargs⟩
    cases e <;> simp only [integerLiteral?, reduceCtorEq] at he
    case literal value =>
      cases value <;> cases he
      exact ⟨_, rfl⟩

theorem exprHarvest_eq_nil {es : List Expr} (h : ∀ e ∈ es, e.harvest v w = []) :
    exprHarvest v w es = [] := by
  induction es with
  | nil => simp only [exprHarvest]
  | cons e es ih =>
    obtain ⟨he, hes⟩ := List.forall_mem_cons.1 h
    simp only [exprHarvest, he, ih hes, List.append_nil]

theorem dateTime_cast {components : List Int} {e : Expr} (h : dateTime components = .ok e) :
    ∃ text dataType, e = .cast (.literal (.string text)) dataType := by
  unfold dateTime at h
  split at h
  · obtain ⟨_, -, h⟩ := bind_eq_ok.1 h
    cases h
    exact ⟨_, _, rfl⟩
  · obtain ⟨_, -, h⟩ := bind_eq_ok.1 h
    obtain ⟨_, -, h⟩ := bind_eq_ok.1 h
    cases h
    exact ⟨_, _, rfl⟩
  · cases h

theorem Lowered.kept (hsql : ∀ f : LogicalFunction, f.isSql = true → x ∉ v.call f)
    {f : LogicalFunction} {args : List Expr} {e : Expr} (h : Lowered f args e) :
    x ∈ e.harvest v w ↔ x ∈ exprHarvest v w args := by
  cases h with
  | dateTime hargs he =>
    obtain ⟨text, dataType, rfl⟩ := dateTime_cast he
    have hnone : exprHarvest v w args = [] := exprHarvest_eq_nil fun e he => by
      obtain ⟨n, rfl⟩ := integerLiterals hargs e he
      simp only [Expr.harvest]
    simp only [hnone, Expr.harvest]
  | presentation => simp only [exprHarvest, List.append_nil]
  | isNull value fallback =>
    simp only [Expr.harvest, optionHarvest, whenHarvest, exprHarvest, List.nil_append,
      List.append_nil, List.mem_append]
    exact ⟨fun h => h.elim id .inl, .inl⟩
  | dateTrunc value period =>
    simp only [Expr.harvest, exprHarvest, List.append_nil, List.mem_append, hsql .dateTrunc rfl,
      false_or, or_comm]
  | substring text start length =>
    simp only [Expr.harvest, exprHarvest, List.mem_append, hsql .substring rfl, false_or]
  | year | quarter | datePart =>
    simp only [Expr.harvest, Expr.string, exprHarvest, List.nil_append, List.mem_append,
      hsql .datePart rfl, false_or]

/-- Each call takes its arguments' place, and no source is taken out of the scope or put there. -/
theorem lowerCall_keeps (mappings : MappingSource)
    (hsql : ∀ f : LogicalFunction, f.isSql = true → x ∉ v.call f) :
    (lowerCall mappings).Keeps v w x where
  expr h := by
    obtain ⟨hlowered, -⟩ | ⟨table, name, -, rfl, htype⟩ := lowerCall_cases h
    · exact hlowered.kept hsql
    · rw [(typeColumn_keeps (x := x) mappings maxDepth htype).1]
      simp only [exprHarvest, Expr.harvest, List.append_nil]
  scope h := by
    obtain ⟨-, rfl⟩ | ⟨table, name, -, -, htype⟩ := lowerCall_cases h
    · exact .refl _
    · exact (typeColumn_keeps (x := x) mappings maxDepth htype).2

end Lowering

/-- Lowering takes away the calls of functions that SQL does not have, except where they stand in
the arguments of table functions. -/
theorem Query.mem_harvest_lower {mappings : MappingSource} {q q' : Query}
    (hsql : ∀ f : LogicalFunction, f.isSql = true → x ∉ v.call f)
    (h : q.lower mappings = .ok q') : x ∈ q'.harvest v w ↔ x ∈ q.harvest v.tables w :=
  Query.walk_keeps (Lowering.lowerCall_keeps mappings hsql) q q' h

theorem Pass.runAll_defaults (mappings : MappingSource) (q : Query) :
    runAll (defaults mappings) q = q.lower mappings := by
  cases h : q.lower mappings <;> simp [runAll, defaults, functions, h]

end LogicalSql
