import LogicalSql.Proofs.Lowering.Frame
import LogicalSql.Proofs.Query.Size
import LogicalSql.Proofs.Query.Walk
import Mathlib.Tactic.Ring

/-! How a query grows when it is lowered. `ISNULL` doubles its first argument, so that calls of it
one in the other double again and again. What `TYPEIDENTIFIER` adds to derived tables is at most two
nodes for each call and each `SELECT`. -/
namespace LogicalSql

open Lowering

/-- There are `m` nodes in the place of `n`, of which none is doubled more than `d` times. -/
def Fits (d n m : Nat) : Prop := m ≤ 2 * n ^ 2 * 2 ^ d

namespace Fits

variable {d d' n n' m m' k : Nat}

theorem zero : Fits 0 0 0 := Nat.zero_le _

theorem le (h : Fits d n m) (hd : d ≤ d') : Fits d' n m :=
  Nat.le_trans h (Nat.mul_le_mul_left _ (Nat.pow_le_pow_right Nat.two_pos hd))

theorem of_le (h : Fits d n m) (hn : n ≤ n') (hm : m' ≤ m) : Fits d n' m' :=
  Nat.le_trans (Nat.le_trans hm h)
    (Nat.mul_le_mul_right _ (Nat.mul_le_mul_left 2 (Nat.pow_le_pow_left hn 2)))

/-- Squares of parts are no more than the square of the whole. -/
theorem add_same (h : Fits d n m) (h' : Fits d n' m') : Fits d (n + n') (m + m') := by
  have hsquare : (n + n') ^ 2 = n ^ 2 + n' ^ 2 + 2 * n * n' := by ring
  calc
    m + m' ≤ 2 * n ^ 2 * 2 ^ d + 2 * n' ^ 2 * 2 ^ d := Nat.add_le_add h h'
    _ = 2 * (n ^ 2 + n' ^ 2) * 2 ^ d := by rw [Nat.mul_add, Nat.add_mul]
    _ ≤ 2 * (n + n') ^ 2 * 2 ^ d :=
      Nat.mul_le_mul_right _ (Nat.mul_le_mul_left _ (hsquare ▸ Nat.le_add_right _ _))

theorem add (h : Fits d n m) (h' : Fits d' n' m') : Fits (max d d') (n + n') (m + m') :=
  (h.le (Nat.le_max_left d d')).add_same (h'.le (Nat.le_max_right d d'))

/-- Each node more may become two. -/
theorem nodes (h : Fits d n m) (k : Nat) (hm : m' ≤ m + 2 * k) : Fits d (n + k) m' := by
  have hk : Fits d k (2 * k) :=
    calc
      2 * k ≤ 2 * k ^ 2 := Nat.mul_le_mul_left 2 (Nat.le_self_pow (by decide) k)
      _ ≤ 2 * k ^ 2 * 2 ^ d := Nat.le_mul_of_pos_right _ (Nat.two_pow_pos d)
  exact (h.add_same hk).of_le (Nat.le_refl _) hm

theorem same (n : Nat) : Fits 0 n n := by
  have h : Fits 0 (0 + n) n := zero.nodes n (by omega)
  rwa [Nat.zero_add] at h

theorem double (h : Fits d n m) : Fits (d + 1) n (2 * m) := by
  unfold Fits at h ⊢
  rw [Nat.pow_succ]
  calc
    2 * m ≤ 2 * (2 * n ^ 2 * 2 ^ d) := Nat.mul_le_mul_left 2 h
    _ = 2 * n ^ 2 * (2 ^ d * 2) := by ring

/-- Clauses of `c` nodes have added to a scope of `n` nodes. -/
theorem scope {c : Nat} (hc : Fits d c m) (hn : Fits d n m') (hk : k ≤ m' + 2 * c * n) :
    Fits d (c + n) (m + k) := by
  have hcross : 2 * c * n ≤ 4 * (c * n) * 2 ^ d :=
    calc
      2 * c * n = 2 * (c * n) * 1 := by ring
      _ ≤ 4 * (c * n) * 2 ^ d := Nat.mul_le_mul (by omega) Nat.one_le_two_pow
  unfold Fits at *
  calc
    m + k ≤ 2 * c ^ 2 * 2 ^ d + (2 * n ^ 2 * 2 ^ d + 4 * (c * n) * 2 ^ d) := by omega
    _ = 2 * (c + n) ^ 2 * 2 ^ d := by ring

end Fits

/-- The scope has the same `SELECT`s, and at most two nodes more in each of them `n` times. -/
structure Scope.GrownBy (n : Nat) (s t : Scope) : Prop where
  reach : t.reach = s.reach
  joined : t.joined.length = s.joined.length
  size : t.size ≤ s.size + 2 * n * s.reach

namespace Scope.GrownBy

variable {n n' : Nat} {s t u : Scope}

theorem refl (n : Nat) (s : Scope) : s.GrownBy n s := ⟨rfl, rfl, Nat.le_add_right _ _⟩

theorem trans (h : s.GrownBy n t) (h' : t.GrownBy n' u) : s.GrownBy (n + n') u := by
  refine ⟨h'.reach.trans h.reach, h'.joined.trans h.joined, ?_⟩
  have hsize := h.size
  have hsize' := h'.size
  rw [h.reach] at hsize'
  calc
    u.size ≤ s.size + 2 * n * s.reach + 2 * n' * s.reach := by omega
    _ = s.size + 2 * (n + n') * s.reach := by ring

theorem of_le (h : s.GrownBy n t) (hn : n ≤ n') : s.GrownBy n' t :=
  ⟨h.reach, h.joined, Nat.le_trans h.size (Nat.add_le_add_left
    (Nat.mul_le_mul_right _ (Nat.mul_le_mul_left 2 hn)) _)⟩

/-- One source is replaced by one that reaches as many `SELECT`s. -/
theorem replaced {qualifier : Option String} {old new : Source}
    (h : s.Replaced qualifier old new t) (hreach : new.reach = old.reach)
    (hsize : new.size ≤ old.size + 2 * old.reach) : s.GrownBy 1 t := by
  obtain ⟨before, after, hs, ht⟩ := h.others
  refine ⟨?_, h.joined, ?_⟩
  · simp only [Scope.reach, hs, ht, sourceReach_append, sourceReach, hreach]
  · simp only [Scope.size, Scope.reach, hs, ht, sourceSizes_append, sourceReach_append, sourceSizes,
      sourceReach]
    omega

end Scope.GrownBy

namespace Lowering

theorem size_of_isType {e : Expr} (h : e.IsType) : e.size = 1 := by
  cases h <;> simp only [Expr.size]

/-- The type expression is one node, and finding it adds two nodes for each `SELECT` at most. -/
def Resolver.Grows (resolve : Resolver) : Prop :=
  ∀ {qualifier column s e t}, resolve qualifier column s = .ok (e, t) →
    e.size = 1 ∧ s.GrownBy 1 t

theorem size_withType (s : Select) (column : String) (type : Expr) {scope : Scope}
    (h : scope.joined.length = (branchScope s).joined.length) :
    (withType s column type scope).size + (branchScope s).size =
      s.size + scope.size + type.size + 1 ∧
    (withType s column type scope).reach + (branchScope s).reach = s.reach + scope.reach := by
  obtain ⟨hsources, -⟩ := map_withType_joins s column type h
  have hconditions := map_withType_conditions s column type h
  obtain ⟨distinct, projections, sources, joins, filter, groupBy, having, orderBy, limit, offset,
    setOperation⟩ := s
  simp only [withType] at hsources hconditions
  simp only [withType, Select.size, Select.reach, branchScope, Scope.size_eq, Scope.reach_eq,
    joinSizes_eq, joinReach_eq, hsources, hconditions, itemSizes_append, itemSizes, SelectItem.size]
  omega

theorem size_setOperation (s : Select) (o : Option SetOperation) :
    ({ s with setOperation := o } : Select).size + setOperationSize s.setOperation =
      s.size + setOperationSize o ∧
    ({ s with setOperation := o } : Select).reach + setOperationReach s.setOperation =
      s.reach + setOperationReach o := by
  obtain ⟨distinct, projections, sources, joins, filter, groupBy, having, orderBy, limit, offset,
    setOperation⟩ := s
  simp only [Select.size, Select.reach]
  omega

theorem addToBranch_grows {resolve : Resolver} (hr : resolve.Grows) {column : String}
    {s s' : Select} (h : addToBranch resolve column s = .ok s') :
    s'.setOperation = s.setOperation ∧ s'.reach = s.reach ∧
      s'.size ≤ s.size + 2 * ((branchScope s).reach + 1) := by
  obtain ⟨-, rfl⟩ | ⟨table, name, type, scope, -, hresolve, rfl⟩ := addToBranch_cases h
  · exact ⟨rfl, rfl, Nat.le_add_right _ _⟩
  · obtain ⟨htype, hgrown⟩ := hr hresolve
    obtain ⟨hsize, hreach⟩ := size_withType s column type hgrown.joined
    have hscope := hgrown.size
    rw [hgrown.reach] at hreach
    rw [htype] at hsize
    exact ⟨rfl, by omega, by omega⟩

theorem addToQuery_grows {resolve : Resolver} (hr : resolve.Grows) (column : String) (q : Query) :
    Yields (addToQuery resolve column q) fun q' =>
      q'.reach = q.reach ∧ q'.size ≤ q.size + 2 * q.reach := by
  have hrel : FieldRelation resolve column
      (fun q q' => q'.reach = q.reach ∧ q'.size ≤ q.size + 2 * q.reach)
      fun o o' => setOperationReach o' = setOperationReach o ∧
        setOperationSize o' ≤ setOperationSize o + 2 * setOperationReach o := by
    constructor
    case select =>
      intro s s' o o' hbranch ⟨hreach', hsize'⟩
      obtain ⟨hnone, hreach, hsize⟩ := addToBranch_grows hr hbranch
      have hfirst := size_setOperation s' o'
      simp only [hnone, setOperationSize, setOperationReach, Select.size, Select.reach, branchScope,
        Scope.reach_eq, joinReach_eq] at hfirst hreach hsize
      simp only [Query.size, Query.reach, Select.size, Select.reach, joinReach_eq]
      omega
    case withCtes =>
      intro recursive ctes body body' hbody
      simp only [Query.size, Query.reach]
      omega
    case last => exact ⟨rfl, Nat.le_add_right _ _⟩
    case operation =>
      intro op all right right' hright
      simp only [setOperationSize, setOperationReach]
      omega
  exact fun q' h => hrel.query q h

theorem typeColumn_grows (mappings : MappingSource) (depth : Nat) :
    (typeColumn mappings depth).Grows := by
  -- a derived table is looked into with one less of depth
  induction depth using Nat.strongRecOn with
  | ind depth ih =>
    intro qualifier column s e t h
    refine ⟨size_of_isType (typeColumn_isType h), ?_⟩
    obtain ⟨schema, name, a, -, -, rfl⟩ | ⟨d, q, q', a, rfl, hfound, hq, -, rfl⟩ :=
      typeColumn_cases h
    · exact .refl 1 t
    · obtain ⟨hreach, hsize⟩ := addToQuery_grows (ih d d.lt_succ_self) column q q' hq
      refine .replaced (Scope.replaced_replace hfound rfl) ?_ ?_
      · simp only [Source.reach, hreach]
      · simp only [Source.size, Source.reach]
        omega

end Lowering

/-- What an expression becomes. -/
def Expr.FitsIn (e e' : Expr) : Prop := Fits e.doublings e.size e'.size

theorem fits_exprs {es es' : List Expr} (h : List.Forall₂ Expr.FitsIn es es') :
    Fits (exprDoublings es) (exprSizes es) (exprSizes es') := by
  induction h with
  | nil =>
    simp only [exprDoublings, exprSizes]
    exact .zero
  | cons he _ ih =>
    simp only [exprDoublings, exprSizes]
    exact he.add ih

theorem fits_arguments {args args' : List Expr} (f : LogicalFunction)
    (h : List.Forall₂ Expr.FitsIn args args') :
    Fits (argumentDoublings f args) (exprSizes args) (exprSizes args') := by
  cases h with
  | nil =>
    simp only [argumentDoublings, exprSizes]
    exact .zero
  | cons he hes =>
    simp only [argumentDoublings, exprSizes]
    exact (he.le (Nat.le_add_right _ _)).add (fits_exprs hes)

theorem size_dateTime {components : List Int} {e : Expr} (h : dateTime components = .ok e) :
    e.size = 2 := by
  obtain ⟨text, dataType, rfl⟩ := dateTime_cast h
  simp only [Expr.size]

/-- Only the first argument of `ISNULL` is doubled. -/
theorem Lowering.Lowered.fits {f : LogicalFunction} {args args' : List Expr} {e : Expr}
    (h : Lowered f args' e) (hargs : List.Forall₂ Expr.FitsIn args args') :
    (Expr.call f args).FitsIn e := by
  simp only [Expr.FitsIn, Expr.doublings, Expr.size]
  cases h with
  | isNull value fallback =>
    cases hargs with
    | cons hvalue hfallback =>
      simp only [argumentDoublings, exprSizes, if_pos]
      refine (hvalue.double.add (fits_exprs hfallback)).nodes 1 ?_
      simp only [Expr.size, optionSize, whenSizes, exprSizes]
      omega
  | dateTime _ he =>
    refine (fits_arguments .dateTime hargs).nodes 1 ?_
    rw [size_dateTime he]
    omega
  | year | quarter | presentation | substring | dateTrunc | datePart =>
    refine (fits_arguments _ hargs).nodes 1 ?_
    simp only [Expr.size, Expr.string, exprSizes]
    omega

/-- A part of `n` nodes, of which none is doubled more than `d` times, has become one of `m` nodes.
The scope has grown as `n` calls of `TYPEIDENTIFIER` may let it. -/
structure FitsScoped (d n m : Nat) (s t : Scope) : Prop where
  fits : Fits d n m
  grown : s.GrownBy n t

namespace FitsScoped

variable {d d' d'' n n' n'' m m' m'' : Nat} {s t u w : Scope}

theorem le (h : FitsScoped d n m s t) (hd : d ≤ d') : FitsScoped d' n m s t :=
  ⟨h.fits.le hd, h.grown⟩

/-- What is left as it stands. -/
theorem same (n : Nat) (s : Scope) : FitsScoped 0 n n s s := ⟨.same n, .refl n s⟩

theorem add (h : FitsScoped d n m s t) (h' : FitsScoped d' n' m' t u) :
    FitsScoped (max d d') (n + n') (m + m') s u :=
  ⟨h.fits.add h'.fits, h.grown.trans h'.grown⟩

theorem add₃ (h : FitsScoped d n m s t) (h' : FitsScoped d' n' m' t u)
    (h'' : FitsScoped d'' n'' m'' u w) :
    FitsScoped (max d (max d' d'')) (n + n' + n'') (m + m' + m'') s w :=
  ((h.add h').add h'').le (Nat.max_assoc d d' d'').le

/-- Around a part there are `k` nodes more. -/
theorem nodes (h : FitsScoped d n m s t) (k : Nat) (hm : m' ≤ m + 2 * k) :
    FitsScoped d (n + k) m' s t :=
  ⟨h.fits.nodes k hm, h.grown.of_le (Nat.le_add_right n k)⟩

/-- A query has a scope of its own. -/
theorem lift (h : Fits d n m) (s : Scope) : FitsScoped d n m s s := ⟨h, .refl n s⟩

end FitsScoped

/-- What sources of which none is doubled more than `d` times become. -/
def SourcesFit (d : Nat) (sources sources' : List Source) : Prop :=
  Fits d (sourceSizes sources) (sourceSizes sources') ∧ sourceReach sources' = sourceReach sources

def RestFits (o o' : Option SetOperation) : Prop :=
  Fits (setOperationDoublings o) (setOperationSize o) (setOperationSize o') ∧
    setOperationReach o' = setOperationReach o

def Select.FitsIn (s s' : Select) : Prop :=
  Fits s.doublings s.size s'.size ∧ s'.reach = s.reach

theorem Select.fitsIn_of_doublings_le {s s' : Select}
    (h : ∀ d, s.doublings ≤ d → Fits d s.size s'.size ∧ s'.reach = s.reach) : s.FitsIn s' :=
  h s.doublings (Nat.le_refl _)

def Source.FitsIn (s s' : Source) : Prop :=
  Fits s.doublings s.size s'.size ∧ s'.reach = s.reach

def Query.FitsIn (q q' : Query) : Prop := Fits q.doublings q.size q'.size ∧ q'.reach = q.reach

/-- The scope that the clauses of a `SELECT` leave, with the nodes of the clauses themselves. -/
theorem SourcesFit.scope {d c m : Nat} {sources joined sources' joined' : List Source} {t : Scope}
    (hsources : SourcesFit d sources sources') (hjoined : SourcesFit d joined joined')
    (hclauses : Fits d c m) (hgrown : Scope.GrownBy c ⟨sources', joined'⟩ t) :
    Fits d (c + (sourceSizes sources + sourceSizes joined)) (m + t.size) ∧
      t.reach = sourceReach sources + sourceReach joined := by
  obtain ⟨fsources, rsources⟩ := hsources
  obtain ⟨fjoined, rjoined⟩ := hjoined
  have hreach : Scope.reach ⟨sources', joined'⟩ = sourceReach sources + sourceReach joined := by
    rw [Scope.reach_eq, rsources, rjoined]
  have hsize := hgrown.size
  rw [hreach, Scope.size_eq ⟨sources', joined'⟩] at hsize
  refine ⟨hclauses.scope (fsources.add_same fjoined) (Nat.le_trans hsize ?_),
    hgrown.reach.trans hreach⟩
  exact Nat.add_le_add_left (Nat.mul_le_mul_left _
    (Nat.add_le_add (sourceReach_le sources) (sourceReach_le joined))) _

/-- Each expression on its own: `ISNULL` doubles one of its arguments. -/
structure ExprsFit (es es' : List Expr) (s t : Scope) : Prop where
  fits : List.Forall₂ Expr.FitsIn es es'
  grown : s.GrownBy (exprSizes es) t

theorem ExprsFit.scoped {es es' : List Expr} {s t : Scope} (h : ExprsFit es es' s t) :
    FitsScoped (exprDoublings es) (exprSizes es) (exprSizes es') s t :=
  ⟨fits_exprs h.fits, h.grown⟩

/-- Only the call itself may be one of `TYPEIDENTIFIER`. -/
theorem ExprsFit.call {mappings : MappingSource} {f : LogicalFunction} {args args' : List Expr}
    {e : Expr} {s t u : Scope} (hargs : ExprsFit args args' s t)
    (h : lowerCall mappings f args' t = .ok (e, u)) :
    FitsScoped (Expr.call f args).doublings (Expr.call f args).size e.size s u := by
  have hsize : (Expr.call f args).size = exprSizes args + 1 := by rw [Expr.size]
  obtain ⟨hlowered, rfl⟩ | ⟨table, name, rfl, rfl, htype⟩ := lowerCall_cases h
  · exact ⟨hlowered.fits hargs.fits, hargs.grown.of_le (hsize ▸ Nat.le_succ _)⟩
  · obtain ⟨he, htu⟩ := typeColumn_grows mappings maxDepth htype
    refine ⟨?_, hsize ▸ hargs.grown.trans htu⟩
    simp only [Expr.doublings, Expr.size]
    refine (fits_arguments _ hargs.fits).nodes 1 ?_
    rw [he]
    omega

/-- What each part of a query grows to. -/
def WalkSpec.fitting : WalkSpec Unit where
  query q _ q' := q.FitsIn q'
  ctes cs _ cs' := Fits (cteDoublings cs) (cteSizes cs) (cteSizes cs')
  select s _ s' := s.FitsIn s'
  rest o _ o' := RestFits o o'
  sources ss _ ss' := SourcesFit (sourceDoublings ss) ss ss'
  source s _ s' := s.FitsIn s'
  joined js _ ss := SourcesFit (joinDoublings js) (js.map Join.source) ss
  conditions js s _ cs t := FitsScoped (joinDoublings js)
    (conditionSizes (js.map Join.condition)) (conditionSizes cs) s t
  condition c s _ c' t := FitsScoped (conditionDoublings (some c)) (conditionSize (some c))
    (conditionSize (some c')) s t
  items is s _ is' t := FitsScoped (itemDoublings is) (itemSizes is) (itemSizes is') s t
  item i s _ i' t := FitsScoped i.doublings i.size i'.size s t
  order os s _ os' t := FitsScoped (orderDoublings os) (orderSizes os) (orderSizes os') s t
  option o s _ o' t := FitsScoped (optionDoublings o) (optionSize o) (optionSize o') s t
  exprs es s _ es' t := ExprsFit es es' s t
  whens ws s _ ws' t := FitsScoped (whenDoublings ws) (whenSizes ws) (whenSizes ws') s t
  expr e s _ e' t := FitsScoped e.doublings e.size e'.size s t

theorem WalkSpec.fitting_closed : fitting.Closed where
  selected h := by
    simp only [fitting, Query.FitsIn, Query.doublings, Query.size, Query.reach]
    exact ⟨h.1.nodes 1 (Nat.le_succ _), h.2⟩
  withCtes hctes hbody := by
    simp only [fitting, Query.FitsIn, Query.doublings, Query.size, Query.reach]
    exact ⟨(hctes.add hbody.1).nodes 1 (Nat.le_succ _), hbody.2⟩
  raw text := ⟨.same _, rfl⟩
  ctes_nil := .same _
  ctes_cons hquery hcs := by
    simp only [fitting, cteDoublings, cteSizes]
    exact (hquery.1.nodes 1 (Nat.le_succ _)).add hcs
  clauses hsources hjoined hlength hprojections hconditions hcount hfilter hgroupBy hhaving horderBy
      hlimit hoffset hrest := by
    refine Select.fitsIn_of_doublings_le fun d hd => ?_
    simp only [Select.doublings, Nat.max_le] at hd
    obtain ⟨dprojections, dsources, djoins, dfilter, dgroupBy, dhaving, dorderBy, dlimit, doffset,
      drest⟩ := hd
    have hgroup := hgroupBy.scoped
    -- the clauses on their own, and then with the scope that their calls have added to
    have hclauses := (hprojections.fits.le dprojections).add_same
      ((hconditions.fits.le djoins).add_same ((hfilter.fits.le dfilter).add_same
      ((hgroup.fits.le dgroupBy).add_same ((hhaving.fits.le dhaving).add_same
      ((horderBy.fits.le dorderBy).add_same ((hlimit.fits.le dlimit).add_same
      (hoffset.fits.le doffset)))))))
    have hgrown := hprojections.grown.trans (hconditions.grown.trans (hfilter.grown.trans
      (hgroup.grown.trans (hhaving.grown.trans (horderBy.grown.trans
      (hlimit.grown.trans hoffset.grown))))))
    obtain ⟨hscope, hreach⟩ := SourcesFit.scope ⟨hsources.1.le dsources, hsources.2⟩
      ⟨hjoined.1.le djoins, hjoined.2⟩ hclauses hgrown
    have hall := (hscope.add_same (hrest.1.le drest)).nodes 1 (Nat.le_refl _)
    -- the joins are put together again from the scope and the conditions
    obtain ⟨hjoins, hjoins'⟩ := map_rejoin (hgrown.joined.trans hlength) hcount
    rw [Scope.size_eq] at hall
    rw [Scope.reach_eq] at hreach
    simp only [Select.size, Select.reach, joinSizes_eq, joinReach_eq, hjoins, hjoins', hrest.2]
    exact ⟨hall.of_le (by omega) (by omega), by omega⟩
  rest_none := ⟨.same _, rfl⟩
  rest_some h := by
    simp only [fitting, RestFits, setOperationDoublings, setOperationSize, setOperationReach]
    exact ⟨h.1.nodes 1 (Nat.le_succ _), h.2⟩
  sources_nil := ⟨.same _, rfl⟩
  sources_cons hs hss := by
    simp only [fitting, SourcesFit, sourceDoublings, sourceSizes, sourceReach, hs.2, hss.2]
    exact ⟨hs.1.add hss.1, trivial⟩
  table schema name a := ⟨.same _, rfl⟩
  derived h := by
    simp only [fitting, Source.FitsIn, Source.doublings, Source.size, Source.reach]
    exact ⟨h.1.nodes 1 (Nat.le_succ _), h.2⟩
  tableFunction name args a := ⟨.same _, rfl⟩
  joined_nil := ⟨.same _, rfl⟩
  joined_cons hsource hjs := by
    simp only [fitting, SourcesFit, joinDoublings, List.map_cons, sourceSizes, sourceReach,
      hsource.2, hjs.2]
    exact ⟨(hsource.1.add hjs.1).le (by omega), trivial⟩
  conditions_nil := .same _ _
  conditions_none h := by
    simp only [fitting, joinDoublings, List.map_cons, conditionSizes, conditionSize]
    exact ((FitsScoped.same (0 + 1) _).add h).le (by omega)
  conditions_some hc hcs := by
    simp only [fitting, joinDoublings, List.map_cons, conditionSizes]
    exact ((hc.nodes 1 (Nat.le_succ _)).add hcs).le (Nat.le_max_right _ _)
  on h := by
    simp only [fitting, conditionDoublings, conditionSize]
    exact h.nodes 1 (Nat.le_succ _)
  usingColumns := .same _ _
  natural := .same _ _
  items_nil := .same _ _
  items_cons hi his := by
    simp only [fitting, itemDoublings, itemSizes]
    exact hi.add his
  wildcard := .same _ _
  wildcardOf := .same _ _
  field h := by
    simp only [fitting, SelectItem.doublings, SelectItem.size]
    exact h.nodes 1 (Nat.le_succ _)
  order_nil := .same _ _
  order_cons he hos := by
    simp only [fitting, orderDoublings, orderSizes]
    exact (he.nodes 1 (Nat.le_succ _)).add hos
  option_none := .same _ _
  option_some h := by
    simp only [fitting, optionDoublings, optionSize]
    exact h
  exprs_nil := ⟨.nil, .refl _ _⟩
  exprs_cons he hes := by
    refine ⟨.cons he.fits hes.fits, ?_⟩
    rw [exprSizes]
    exact he.grown.trans hes.grown
  whens_nil := .same _ _
  whens_cons hc hr hws := by
    simp only [fitting, whenDoublings, whenSizes]
    exact hc.add₃ hr hws
  column := .same _ _
  literal := .same _ _
  binary hl hr := by
    simp only [fitting, Expr.doublings, Expr.size]
    exact (hl.add hr).nodes 1 (Nat.le_succ _)
  unary h := by
    simp only [fitting, Expr.doublings, Expr.size]
    exact h.nodes 1 (Nat.le_succ _)
  function h := by
    simp only [fitting, Expr.doublings, Expr.size]
    exact h.scoped.nodes 1 (Nat.le_succ _)
  aggregate hargs hfilter := by
    simp only [fitting, Expr.doublings, Expr.size]
    exact (hargs.scoped.add hfilter).nodes 1 (Nat.le_succ _)
  case hoperand hwhens hotherwise := by
    simp only [fitting, Expr.doublings, Expr.size]
    exact (hoperand.add₃ hwhens hotherwise).nodes 1 (Nat.le_succ _)
  subquery h := by
    simp only [fitting, Expr.doublings, Expr.size]
    exact (FitsScoped.lift h.1 _).nodes 1 (Nat.le_succ _)
  existsSubquery h := by
    simp only [fitting, Expr.doublings, Expr.size]
    exact (FitsScoped.lift h.1 _).nodes 1 (Nat.le_succ _)
  inList he hlist := by
    simp only [fitting, Expr.doublings, Expr.size]
    exact (he.add hlist.scoped).nodes 1 (Nat.le_succ _)
  inSubquery he hquery := by
    simp only [fitting, Expr.doublings, Expr.size]
    exact (he.add (.lift hquery.1 _)).nodes 1 (Nat.le_succ _)
  between he hlow hhigh := by
    simp only [fitting, Expr.doublings, Expr.size]
    exact (he.add₃ hlow hhigh).nodes 1 (Nat.le_succ _)
  isNull h := by
    simp only [fitting, Expr.doublings, Expr.size]
    exact h.nodes 1 (Nat.le_succ _)
  cast h := by
    simp only [fitting, Expr.doublings, Expr.size]
    exact h.nodes 1 (Nat.le_succ _)
  star := .same _ _
  parameter := .same _ _
  nested h := by
    simp only [fitting, Expr.doublings, Expr.size]
    exact h.nodes 1 (Nat.le_succ _)

theorem Query.walk_fits (mappings : MappingSource) (q : Query) :
    Yields (q.walk (lowerCall mappings)) q.FitsIn := by
  have hrule : WalkSpec.fitting.Rule (returning Unit LoweringError) (fun _ => True) Harvest.names {}
      (fun _ => True) (lowerCall mappings) (lowerCall mappings) :=
    { closed := WalkSpec.fitting_closed
      start := fun _ _ _ _ => trivial
      call := fun _ _ hargs => ⟨trivial, fun _ hr => ⟨trivial, hargs.call hr⟩⟩ }
  exact (Query.walk_holds hrule q fun _ _ => trivial).2

namespace Query

/-- The nodes of the result are at most twice the square of those of the query, doubled once for
each call of `ISNULL` on the longest way down through first arguments of such calls. -/
theorem size_lowered_le {mappings : MappingSource} {q q' : Query}
    (h : Pass.runAll (Pass.defaults mappings) q = .ok q') :
    q'.size ≤ 2 * q.size ^ 2 * 2 ^ q.doublings := by
  rw [Pass.runAll_defaults] at h
  exact (walk_fits mappings q q' h).1

/-- `SELECT ISNULL(ISNULL(u.item, 0), 0), TYPEIDENTIFIER(u.item) FROM (..) u` over a union of three
branches. -/
theorem size_lowered_union_le :
    let isNull := fun e => Expr.call .isNull [e, .literal (.integer 0)]
    let replaced := fun e =>
      Expr.case none [(.isNull e false, .literal (.integer 0))] (some e)
    let item := Expr.column (some "u") "item"
    let branch := fun types rest => Query.select
      { projections := .expr (.column none "_fld10rref") (some "item") :: types
        sources := [.table none "_Document9" none], setOperation := rest }
    let union := fun types =>
      branch types (some ⟨.union, true, branch types (some ⟨.union, true, branch types none⟩)⟩)
    let query := fun fields types => Query.select
      { projections := fields.map (.expr · none), sources := [.subquery (union types) "u"] }
    let q := query [isNull (isNull item), .call .typeIdentifier [item]] []
    let q' := query [replaced (replaced item), .column (some "u") "item_Type"]
      [.expr (.literal (.binary [0, 0, 0, 5])) (some "item_Type")]
    Pass.runAll (Pass.defaults orderMappings) q = .ok q' ∧
      q.size = 29 ∧ q.doublings = 2 ∧ q'.size = 42 ∧
      q'.size ≤ 2 * q.size ^ 2 * 2 ^ q.doublings := by
  intro isNull replaced item branch union query q q'
  have h : Pass.runAll (Pass.defaults orderMappings) q = .ok q' := rfl
  exact ⟨h, rfl, rfl, rfl, size_lowered_le h⟩

end Query

/-- Calls of `ISNULL`, each the first argument of the next. -/
def isNullTower : Nat → Expr
  | 0 => .column none "a"
  | n + 1 => .call .isNull [isNullTower n, .literal (.integer 0)]

/-- What the tower becomes. -/
def caseTower : Nat → Expr
  | 0 => .column none "a"
  | n + 1 =>
    .case none [(.isNull (caseTower n) false, .literal (.integer 0))] (some (caseTower n))

theorem run_walk_isNullTower (mappings : MappingSource) (n : Nat) (s : Scope) :
    ((isNullTower n).walk (lowerCall mappings)).run s = .ok (caseTower n, s) := by
  induction n with
  | zero => rfl
  | succ n ih =>
    rw [isNullTower, run_walk_call]
    simp only [walkExprs, Expr.walk, StateT.run_bind, ih]
    rfl

theorem size_isNullTower (n : Nat) : (isNullTower n).size = 2 * n + 1 := by
  induction n with
  | zero => rfl
  | succ n ih =>
    simp only [isNullTower, Expr.size, exprSizes, ih]
    omega

theorem two_pow_le_size_caseTower (n : Nat) : 2 ^ n ≤ (caseTower n).size := by
  induction n with
  | zero => exact Nat.le_refl 1
  | succ n ih =>
    simp only [caseTower, Expr.size, optionSize, whenSizes]
    omega

/-- An exponential outgrows each polynomial. -/
theorem exists_polynomial_lt_two_pow (c k : Nat) : ∃ n, c * (2 * n + 5) ^ k < 2 ^ n := by
  let j := 2 * (c + k) + 1
  have hexponent : c + (2 * j + 3) * k < 2 ^ (2 * j) :=
    calc
      c + (2 * j + 3) * k ≤ (2 * j + 3) * c + (2 * j + 3) * k :=
        Nat.add_le_add_right (Nat.le_mul_of_pos_left c (by omega)) _
      _ < (2 * j + 3) * c + (2 * j + 3) * k + (3 * (c + k) + 4) := by omega
      _ = (j + 1) * (j + 1) := by
        simp only [j]
        ring
      _ ≤ 2 ^ j * 2 ^ j := Nat.mul_le_mul Nat.lt_two_pow_self Nat.lt_two_pow_self
      _ = 2 ^ (2 * j) := by rw [Nat.two_mul j, ← Nat.pow_add]
  refine ⟨2 ^ (2 * j), ?_⟩
  have hbase : 2 * 2 ^ (2 * j) + 5 ≤ 2 ^ (2 * j + 3) := by
    have := Nat.one_le_two_pow (n := 2 * j)
    rw [Nat.pow_add]
    omega
  calc
    c * (2 * 2 ^ (2 * j) + 5) ^ k ≤ 2 ^ c * (2 ^ (2 * j + 3)) ^ k :=
      Nat.mul_le_mul Nat.lt_two_pow_self.le (Nat.pow_le_pow_left hbase k)
    _ = 2 ^ (c + (2 * j + 3) * k) := by rw [← Nat.pow_mul, ← Nat.pow_add]
    _ < 2 ^ 2 ^ (2 * j) := Nat.pow_lt_pow_right (by decide) hexponent

namespace Query

/-- `SELECT e FROM t`. -/
def selectOne (e : Expr) : Query :=
  .select { projections := [.expr e none], sources := [.table none "t" none] }

theorem size_selectOne (e : Expr) : (selectOne e).size = e.size + 4 := by
  simp only [selectOne, Query.size, Select.size, itemSizes, SelectItem.size, sourceSizes,
    Source.size, joinSizes, optionSize, exprSizes, orderSizes, setOperationSize]

theorem lower_selectOne_isNullTower (mappings : MappingSource) (n : Nat) :
    Pass.runAll (Pass.defaults mappings) (selectOne (isNullTower n)) =
      .ok (selectOne (caseTower n)) := by
  rw [Pass.runAll_defaults, Query.lower, selectOne, Query.walk, Select.walk]
  simp only [walkSources, Source.walk, walkJoinSources, walkItems, SelectItem.walk,
    StateT.run_bind, run_walk_isNullTower]
  rfl

/-- No power of the nodes of a query bounds those of the result. -/
theorem size_lowered_not_polynomial :
    ¬ ∃ c k, ∀ (mappings : MappingSource) (q q' : Query),
      Pass.runAll (Pass.defaults mappings) q = .ok q' → q'.size ≤ c * q.size ^ k := by
  rintro ⟨c, k, hbound⟩
  obtain ⟨n, hn⟩ := exists_polynomial_lt_two_pow c k
  have h := hbound MappingSet.empty.source _ _ (lower_selectOne_isNullTower _ n)
  have hsize : (selectOne (isNullTower n)).size = 2 * n + 5 := by
    rw [size_selectOne, size_isNullTower]
  have hlarge := two_pow_le_size_caseTower n
  rw [hsize, size_selectOne] at h
  omega

end Query

end LogicalSql
