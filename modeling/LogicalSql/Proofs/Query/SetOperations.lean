import LogicalSql.Proofs.Outcome
import LogicalSql.Proofs.Query.FromClause
import LogicalSql.Query.Chain
import LogicalSql.Query.Print

/-! Set operations as a tree and as one flat chain. A tree that is grouped by the strength of its
operators is determined by the order of its leaves. -/
namespace LogicalSql

variable {α β ε : Type}

/-- A set operation with the operand behind it. -/
structure SetStep (α : Type) where
  op : SetOperator
  all : Bool
  right : α

inductive SetTree (α : Type) where
  | leaf (a : α)
  | node (left : SetTree α) (op : SetOperator) (all : Bool) (right : SetTree α)

/-- What may stand at a place: one operand, operands of `INTERSECT`, or operands of any operator. -/
inductive SetLevel where
  | term
  | intersections
  | chain

namespace SetTree

/-- The leaf that comes first. -/
def first : SetTree α → α
  | leaf a => a
  | node left _ _ _ => left.first

/-- The other leaves in their order, each with the operation in front of it. -/
def steps : SetTree α → List (SetStep α)
  | leaf _ => []
  | node left op all right => left.steps ++ ⟨op, all, right.first⟩ :: right.steps

def mapM (f : α → Except ε β) : SetTree α → Except ε (SetTree β)
  | leaf a => return leaf (← f a)
  | node left op all right => return node (← left.mapM f) op all (← right.mapM f)

/-- `INTERSECT` binds more tightly than the other operators, and equal operators group to the
left. -/
inductive Grouped : SetLevel → SetTree α → Prop where
  | leaf (a : α) : Grouped .term (leaf a)
  | term {t : SetTree α} (h : Grouped .term t) : Grouped .intersections t
  | intersect {left right : SetTree α} (hleft : Grouped .intersections left) (all : Bool)
      (hright : Grouped .term right) : Grouped .intersections (node left .intersect all right)
  | intersections {t : SetTree α} (h : Grouped .intersections t) : Grouped .chain t
  | node {left right : SetTree α} {op : SetOperator} (hleft : Grouped .chain left)
      (hop : op ≠ .intersect) (all : Bool) (hright : Grouped .intersections right) :
      Grouped .chain (node left op all right)

/-- Reads a row of operations. The operand of `INTERSECT` goes to the operands just before it, that
of any other operator starts anew behind all of them. -/
def regroupFrom (before : SetTree α → SetTree α) (last : SetTree α) : List (SetStep α) → SetTree α
  | [] => before last
  | ⟨.intersect, all, a⟩ :: rest => regroupFrom before (node last .intersect all (leaf a)) rest
  | ⟨.union, all, a⟩ :: rest => regroupFrom (node (before last) .union all) (leaf a) rest
  | ⟨.except, all, a⟩ :: rest => regroupFrom (node (before last) .except all) (leaf a) rest

/-- The tree of a first operand and the operations behind it. -/
def regroup (first : α) (steps : List (SetStep α)) : SetTree α := regroupFrom id (leaf first) steps

theorem regroupFrom_of_ne {op : SetOperator} (h : op ≠ .intersect)
    (before : SetTree α → SetTree α) (last : SetTree α) (all : Bool) (a : α)
    (rest : List (SetStep α)) :
    regroupFrom before last (⟨op, all, a⟩ :: rest) =
      regroupFrom (node (before last) op all) (leaf a) rest := by
  cases op with
  | intersect => exact absurd rfl h
  | union => rfl
  | except => rfl

/-- Operands of `INTERSECT` alone leave what stands before them as it is. -/
theorem regroupFrom_steps {level : SetLevel} {t : SetTree α} (h : t.Grouped level)
    (hlevel : level ≠ .chain) (before : SetTree α → SetTree α) (rest : List (SetStep α)) :
    regroupFrom before (leaf t.first) (t.steps ++ rest) = regroupFrom before t rest := by
  induction h generalizing rest with
  | leaf a => rfl
  | term h ih => exact ih nofun rest
  | @intersect left right hleft all hright ihleft =>
    cases hright with
    | leaf a =>
      rw [first, steps, List.append_assoc, ihleft nofun]
      rfl
  | intersections => exact absurd rfl hlevel
  | node => exact absurd rfl hlevel

/-- Reading the row of a grouped tree comes to a point where the tree is what was read so far. -/
theorem exists_regroupFrom {level : SetLevel} {t : SetTree α} (h : t.Grouped level) :
    ∃ before last, before last = t ∧ ∀ rest,
      regroupFrom id (leaf t.first) (t.steps ++ rest) = regroupFrom before last rest := by
  induction h with
  | leaf a => exact ⟨id, .leaf a, rfl, fun _ => rfl⟩
  | term h ih => exact ih
  | intersect hleft all hright =>
    exact ⟨id, _, rfl, regroupFrom_steps (hleft.intersect all hright) nofun id⟩
  | intersections h ih => exact ih
  | @node left right op hleft hop all hright ihleft =>
    obtain ⟨before, last, hlast, hrest⟩ := ihleft
    refine ⟨SetTree.node left op all, right, rfl, fun rest => ?_⟩
    rw [first, steps, List.append_assoc, hrest, List.cons_append, regroupFrom_of_ne hop, hlast,
      regroupFrom_steps hright nofun]

/-- A grouped tree is read back from the row of its leaves and operators. -/
theorem regroup_first_steps {level : SetLevel} {t : SetTree α} (h : t.Grouped level) :
    regroup t.first t.steps = t := by
  obtain ⟨before, last, hlast, hrest⟩ := exists_regroupFrom h
  have hnil := hrest []
  rw [List.append_nil] at hnil
  exact hnil.trans hlast

theorem Grouped.mapM {level : SetLevel} {f : α → Except ε β} {t : SetTree α} {t' : SetTree β}
    (h : t.Grouped level) (ht' : t.mapM f = .ok t') : t'.Grouped level := by
  induction h generalizing t' with
  | leaf a =>
    obtain ⟨b, -, hb⟩ := bind_eq_ok.1 ht'
    rw [pure_eq_ok.1 hb]
    exact .leaf b
  | term h ih => exact .term (ih ht')
  | intersect hleft all hright ihleft ihright =>
    obtain ⟨left', hl, ht'⟩ := bind_eq_ok.1 ht'
    obtain ⟨right', hr, ht'⟩ := bind_eq_ok.1 ht'
    rw [pure_eq_ok.1 ht']
    exact .intersect (ihleft hl) all (ihright hr)
  | intersections h ih => exact .intersections (ih ht')
  | node hleft hop all hright ihleft ihright =>
    obtain ⟨left', hl, ht'⟩ := bind_eq_ok.1 ht'
    obtain ⟨right', hr, ht'⟩ := bind_eq_ok.1 ht'
    rw [pure_eq_ok.1 ht']
    exact .node (ihleft hl) hop all (ihright hr)

/-- What `f` gives, all leaves have. -/
theorem leaves_mapM {f : α → Except ε β} {P : β → Prop} (hf : ∀ a b, f a = .ok b → P b)
    {t : SetTree α} {t' : SetTree β} (h : t.mapM f = .ok t') :
    P t'.first ∧ ∀ x ∈ t'.steps, P x.right := by
  induction t generalizing t' with
  | leaf a =>
    obtain ⟨b, hb, ht'⟩ := bind_eq_ok.1 h
    rw [pure_eq_ok.1 ht']
    exact ⟨hf a b hb, nofun⟩
  | node left op all right ihleft ihright =>
    obtain ⟨left', hl, h⟩ := bind_eq_ok.1 h
    obtain ⟨right', hr, h⟩ := bind_eq_ok.1 h
    rw [pure_eq_ok.1 h]
    obtain ⟨hfirst, hsteps⟩ := ihleft hl
    obtain ⟨hfirst', hsteps'⟩ := ihright hr
    exact ⟨hfirst, List.forall_mem_append.2 ⟨hsteps, List.forall_mem_cons.2 ⟨hfirst', hsteps'⟩⟩⟩

end SetTree

/-- The texts of the clauses that apply to a whole chain. -/
def modifierTexts (orderBy : List OrderItem) (limit offset : Option Expr) : List String :=
  listClause "ORDER BY" (orderTexts orderBy) ++ clauseText "LIMIT" limit ++
    clauseText "OFFSET" offset

namespace Select

/-- Neither a set operation nor a clause that would apply to one. -/
structure Alone (s : Select) : Prop where
  orderBy : s.orderBy = []
  limit : s.limit = none
  offset : s.offset = none
  setOperation : s.setOperation = none

/-- One flat chain of selections. -/
def link (s : Select) : List (SetStep Select) → Select
  | [] => s
  | ⟨op, all, right⟩ :: rest => { s with setOperation := some ⟨op, all, .select (right.link rest)⟩ }

/-- A chain that is put behind another one goes on with it. -/
theorem append_link {s : Select} {steps : List (SetStep Select)} (hs : s.Alone)
    (hsteps : ∀ x ∈ steps, x.right.Alone) (op : SetOperator) (all : Bool) (b : Select)
    (more : List (SetStep Select)) :
    (s.link steps).append ⟨op, all, .select (b.link more)⟩ =
      .ok (s.link (steps ++ ⟨op, all, b⟩ :: more)) := by
  induction steps generalizing s with
  | nil =>
    obtain ⟨-, -, -, hnone⟩ := hs
    cases s
    cases hnone
    rw [link, append, appendTo]
    rfl
  | cons x steps ih =>
    rw [List.forall_mem_cons] at hsteps
    rw [link, append, appendTo, Query.appendBranch, ih hsteps.1 hsteps.2]
    rfl

theorem overrideWith_link (s : Select) (steps : List (SetStep Select)) (orderBy : List OrderItem)
    (limit offset : Option Expr) :
    (s.link steps).overrideWith orderBy limit offset =
      (s.overrideWith orderBy limit offset).link steps := by
  cases steps <;> rfl

theorem overrideWith_nil (s : Select) : s.overrideWith [] none none = s := by
  obtain ⟨_, _, _, _, _, _, _, _, _ | _, _ | _, _⟩ := s <;> rfl

/-- What stands outside takes the place of what stands inside. -/
theorem overrideWith_overrideWith (s : Select) (orderBy orderBy' : List OrderItem)
    (limit limit' offset offset' : Option Expr) :
    (s.overrideWith orderBy limit offset).overrideWith orderBy' limit' offset' =
      s.overrideWith (if orderBy'.isEmpty then orderBy else orderBy') (limit' <|> limit)
        (offset' <|> offset) := by
  cases orderBy' <;> cases limit' <;> cases offset' <;> rfl

/-- The clauses in front of a set operation. -/
def ownTexts : Select → List String
  | { distinct, projections, sources, joins, filter, groupBy, having, .. } =>
    ["SELECT " ++ distinctSql distinct ++
        (if projections.isEmpty then "*" else commaList (itemTexts projections))] ++
      listClause "FROM" (sourceTexts sources) ++
      joinTexts joins ++
      clauseText "WHERE" filter ++
      listClause "GROUP BY" (exprTexts groupBy) ++
      clauseText "HAVING" having

theorem ownTexts_ne_nil (s : Select) : s.ownTexts ≠ [] := by
  cases s
  exact List.cons_ne_nil _ _

theorem sql_eq_ownTexts (s : Select) :
    s.sql = " ".intercalate (s.ownTexts ++ setOperationText s.setOperation ++
      modifierTexts s.orderBy s.limit s.offset) := by
  cases s
  simp only [Select.sql, ownTexts, modifierTexts, List.append_assoc]

theorem Alone.sql {s : Select} (h : s.Alone) : s.sql = " ".intercalate s.ownTexts := by
  rw [sql_eq_ownTexts, h.orderBy, h.limit, h.offset, h.setOperation]
  simp [setOperationText, modifierTexts, orderTexts, clauseText, listClause]

end Select

/-- An operator and the selection behind it. -/
def SetStep.sql (x : SetStep Select) : String :=
  x.op.sql ++ (if x.all then " ALL" else "") ++ " " ++ x.right.sql

namespace Select

/-- A chain is printed as its selections with the operators between them, and then what applies to
all of it. -/
theorem sql_link {s : Select} {steps : List (SetStep Select)} (hs : s.setOperation = none)
    (hsteps : ∀ x ∈ steps, x.right.Alone) :
    (s.link steps).sql = " ".intercalate (s.ownTexts ++ steps.map SetStep.sql ++
      modifierTexts s.orderBy s.limit s.offset) := by
  induction steps generalizing s with
  | nil =>
    rw [link, sql_eq_ownTexts, hs]
    simp [setOperationText]
  | cons x steps ih =>
    rw [List.forall_mem_cons] at hsteps
    obtain ⟨hx, hsteps⟩ := hsteps
    have hright : (x.right.link steps).sql =
        " ".intercalate (x.right.sql :: steps.map SetStep.sql) := by
      rw [ih hx.setOperation hsteps, hx.orderBy, hx.limit, hx.offset, hx.sql]
      have hmerge := intercalate_merge " " x.right.ownTexts_ne_nil [] (steps.map SetStep.sql)
      simpa [modifierTexts, orderTexts, clauseText, listClause] using hmerge
    have hstep : x.op.sql ++ (if x.all then " ALL" else "") ++ " " ++ (x.right.link steps).sql =
        " ".intercalate ((x :: steps).map SetStep.sql) := by
      rw [hright, ← String.intercalate_cons_append, List.map_cons, SetStep.sql]
    have hown : (s.link (x :: steps)).ownTexts = s.ownTexts := by cases s; rfl
    have hne : (x :: steps).map SetStep.sql ≠ [] := List.cons_ne_nil _ _
    rw [sql_eq_ownTexts, hown, link, setOperationText, Query.sql, hstep,
      ← intercalate_merge " " hne]

/-- The same with clauses that are put behind the chain. -/
theorem sql_overrideWith_link {s : Select} {steps : List (SetStep Select)} (hs : s.Alone)
    (hsteps : ∀ x ∈ steps, x.right.Alone) (orderBy : List OrderItem) (limit offset : Option Expr) :
    ((s.link steps).overrideWith orderBy limit offset).sql =
      " ".intercalate (s.sql :: steps.map SetStep.sql ++ modifierTexts orderBy limit offset) := by
  have hmodifiers : modifierTexts (s.overrideWith orderBy limit offset).orderBy
      (s.overrideWith orderBy limit offset).limit (s.overrideWith orderBy limit offset).offset =
        modifierTexts orderBy limit offset := by
    simp only [overrideWith, hs.orderBy, hs.limit, hs.offset]
    cases orderBy <;> cases limit <;> cases offset <;> rfl
  have hown : (s.overrideWith orderBy limit offset).ownTexts = s.ownTexts := by cases s; rfl
  have hnone : (s.overrideWith orderBy limit offset).setOperation = none := hs.setOperation
  have hmerge := intercalate_merge " " s.ownTexts_ne_nil []
    (steps.map SetStep.sql ++ modifierTexts orderBy limit offset)
  rw [overrideWith_link, sql_link hnone hsteps, hmodifiers, hown, hs.sql]
  simpa only [List.nil_append, List.append_assoc, List.cons_append] using hmerge

end Select

mutual

/-- All set operations that stand anywhere in a query, those of its sub-queries included. -/
def Query.setOperations : Query → List SetOperation
  | .select s => s.setOperations
  | .withCtes _ ctes body => cteSetOperations ctes ++ body.setOperations
  | .raw _ => []

def cteSetOperations : List Cte → List SetOperation
  | [] => []
  | ⟨_, _, query⟩ :: cs => query.setOperations ++ cteSetOperations cs

def Select.setOperations : Select → List SetOperation
  | { projections, sources, joins, filter, groupBy, having, orderBy, limit, offset,
      setOperation, .. } =>
    itemSetOperations projections ++ sourceSetOperations sources ++ joinSetOperations joins ++
      optionSetOperations filter ++ exprSetOperations groupBy ++ optionSetOperations having ++
      orderSetOperations orderBy ++ optionSetOperations limit ++ optionSetOperations offset ++
      chainSetOperations setOperation

def chainSetOperations : Option SetOperation → List SetOperation
  | none => []
  | some ⟨op, all, right⟩ => ⟨op, all, right⟩ :: right.setOperations

def itemSetOperations : List SelectItem → List SetOperation
  | [] => []
  | .expr e _ :: is => e.setOperations ++ itemSetOperations is
  | .wildcard :: is => itemSetOperations is
  | .wildcardOf _ :: is => itemSetOperations is

def sourceSetOperations : List Source → List SetOperation
  | [] => []
  | s :: ss => s.setOperations ++ sourceSetOperations ss

def Source.setOperations : Source → List SetOperation
  | .table _ _ _ => []
  | .subquery query _ => query.setOperations
  | .function _ args _ => exprSetOperations args

def joinSetOperations : List Join → List SetOperation
  | [] => []
  | ⟨_, source, condition⟩ :: js =>
    source.setOperations ++ conditionSetOperations condition ++ joinSetOperations js

def conditionSetOperations : Option JoinCondition → List SetOperation
  | some (.on e) => e.setOperations
  | some (.using _) => []
  | some .natural => []
  | none => []

def orderSetOperations : List OrderItem → List SetOperation
  | [] => []
  | ⟨e, _, _⟩ :: os => e.setOperations ++ orderSetOperations os

def optionSetOperations : Option Expr → List SetOperation
  | none => []
  | some e => e.setOperations

def exprSetOperations : List Expr → List SetOperation
  | [] => []
  | e :: es => e.setOperations ++ exprSetOperations es

def whenSetOperations : List (Expr × Expr) → List SetOperation
  | [] => []
  | (condition, result) :: ws =>
    condition.setOperations ++ result.setOperations ++ whenSetOperations ws

def Expr.setOperations : Expr → List SetOperation
  | .column _ _ => []
  | .literal _ => []
  | .binary left _ right => left.setOperations ++ right.setOperations
  | .unary _ e => e.setOperations
  | .call _ args => exprSetOperations args
  | .function _ args _ => exprSetOperations args
  | .aggregate _ args _ filter => exprSetOperations args ++ optionSetOperations filter
  | .case operand whens otherwise =>
    optionSetOperations operand ++ whenSetOperations whens ++ optionSetOperations otherwise
  | .subquery query => query.setOperations
  | .exists query => query.setOperations
  | .inList e list _ => e.setOperations ++ exprSetOperations list
  | .inSubquery e query _ => e.setOperations ++ query.setOperations
  | .between e low high _ => e.setOperations ++ low.setOperations ++ high.setOperations
  | .isNull e _ => e.setOperations
  | .cast e _ => e.setOperations
  | .wildcard => []
  | .parameter _ => []
  | .nested e => e.setOperations

end

/-- No `WITH`, and no clause that would apply to a whole chain. -/
structure Query.IsOperand (q : Query) : Prop where
  notWith : ∀ recursive ctes body, q ≠ .withCtes recursive ctes body
  plain : ∀ s, q = .select s → s.orderBy = [] ∧ s.limit = none ∧ s.offset = none

theorem Query.IsOperand.raw (text : String) : (Query.raw text).IsOperand := ⟨nofun, nofun⟩

theorem Query.IsOperand.select {s : Select} (horder : s.orderBy = []) (hlimit : s.limit = none)
    (hoffset : s.offset = none) : (Query.select s).IsOperand :=
  ⟨nofun, fun _ h => by cases h; exact ⟨horder, hlimit, hoffset⟩⟩

/-- Behind each of these operations stands an operand. -/
def AreFlat (operations : List SetOperation) : Prop := ∀ o ∈ operations, o.right.IsOperand

theorem AreFlat.nil : AreFlat [] := nofun

theorem AreFlat.append_iff {xs ys : List SetOperation} :
    AreFlat (xs ++ ys) ↔ AreFlat xs ∧ AreFlat ys :=
  List.forall_mem_append

theorem AreFlat.append {xs ys : List SetOperation} (hxs : AreFlat xs) (hys : AreFlat ys) :
    AreFlat (xs ++ ys) :=
  append_iff.2 ⟨hxs, hys⟩

theorem joinSetOperations_append (xs ys : List Join) :
    joinSetOperations (xs ++ ys) = joinSetOperations xs ++ joinSetOperations ys := by
  induction xs with
  | nil => simp only [List.nil_append, joinSetOperations]
  | cons x xs ih =>
    obtain ⟨kind, source, condition⟩ := x
    simp only [List.cons_append, joinSetOperations, ih, List.append_assoc]

theorem exprSetOperations_append (xs ys : List Expr) :
    exprSetOperations (xs ++ ys) = exprSetOperations xs ++ exprSetOperations ys := by
  induction xs with
  | nil => simp only [List.nil_append, exprSetOperations]
  | cons x xs ih => simp only [List.cons_append, exprSetOperations, ih, List.append_assoc]

theorem exprSetOperations_toList (e : Option Expr) :
    exprSetOperations e.toList = optionSetOperations e := by
  cases e <;> simp [exprSetOperations, optionSetOperations]

mutual

/-- What is put behind a chain of operands leaves it one. -/
theorem Select.append_flat {new : SetOperation} (hnew : AreFlat (chainSetOperations (some new))) :
    ∀ {s s' : Select}, AreFlat s.setOperations → s.append new = .ok s' →
      AreFlat s'.setOperations ∧ s'.orderBy = s.orderBy ∧ s'.limit = s.limit ∧ s'.offset = s.offset
  | ⟨distinct, projections, sources, joins, filter, groupBy, having, orderBy, limit, offset,
      setOperation⟩, s', hs, h => by
    rw [Select.append] at h
    obtain ⟨o, ho, h⟩ := bind_eq_ok.1 h
    rw [pure_eq_ok.1 h]
    rw [Select.setOperations] at hs
    obtain ⟨hparts, hchain⟩ := List.forall_mem_append.1 hs
    refine ⟨?_, rfl, rfl, rfl⟩
    rw [Select.setOperations]
    exact AreFlat.append hparts (appendTo_flat hnew hchain ho)

theorem appendTo_flat {new : SetOperation} (hnew : AreFlat (chainSetOperations (some new))) :
    ∀ {o : Option SetOperation} {o' : SetOperation}, AreFlat (chainSetOperations o) →
      appendTo new o = .ok o' → AreFlat (chainSetOperations (some o'))
  | none, o', _, h => by
    rw [appendTo] at h
    rw [pure_eq_ok.1 h]
    exact hnew
  | some ⟨op, all, right⟩, o', ho, h => by
    rw [appendTo] at h
    obtain ⟨right', hright', h⟩ := bind_eq_ok.1 h
    rw [pure_eq_ok.1 h, chainSetOperations]
    rw [chainSetOperations] at ho
    obtain ⟨hright, hflat⟩ := List.forall_mem_cons.1 ho
    exact List.forall_mem_cons.2 (Query.appendBranch_flat hnew hright hflat hright')

theorem Query.appendBranch_flat {new : SetOperation}
    (hnew : AreFlat (chainSetOperations (some new))) :
    ∀ {q q' : Query}, q.IsOperand → AreFlat q.setOperations → q.appendBranch new = .ok q' →
      q'.IsOperand ∧ AreFlat q'.setOperations
  | .select s, q', hq, hflat, h => by
    rw [Query.appendBranch] at h
    obtain ⟨s', hs', h⟩ := bind_eq_ok.1 h
    rw [Query.setOperations] at hflat
    obtain ⟨hflat', horder, hlimit, hoffset⟩ := Select.append_flat hnew hflat hs'
    obtain ⟨horderBy, hnoLimit, hnoOffset⟩ := hq.plain s rfl
    rw [pure_eq_ok.1 h, Query.setOperations]
    exact ⟨.select (horder.trans horderBy) (hlimit.trans hnoLimit) (hoffset.trans hnoOffset),
      hflat'⟩
  | .withCtes _ _ _, _, hq, _, _ => absurd rfl (hq.notWith _ _ _)
  | .raw _, _, _, _, h => by
    rw [Query.appendBranch] at h
    · cases h
    · nofun

end

/-- Two operands give one. -/
theorem Query.combine_flat {left right q : Query} {op : SetOperator} {all : Bool}
    (hleft : left.IsOperand) (hleftFlat : AreFlat left.setOperations) (hright : right.IsOperand)
    (hrightFlat : AreFlat right.setOperations) (h : left.combine op all right = .ok q) :
    q.IsOperand ∧ AreFlat q.setOperations := by
  have hnew : AreFlat (chainSetOperations (some ⟨op, all, right⟩)) := by
    rw [chainSetOperations]
    exact List.forall_mem_cons.2 ⟨hright, hrightFlat⟩
  cases left with
  | select s => exact Query.appendBranch_flat hnew hleft hleftFlat h
  | withCtes => cases h
  | raw => cases h

end LogicalSql
