import LogicalSql.Query.Scope

/-! Measures of queries: their nodes, the `SELECT`s that rows come from, and how
`ISNULL` nests. -/
namespace LogicalSql

mutual

/-- The number of nodes in the syntax of a query. Names and literals count with their node. -/
def Query.size : Query → Nat
  | .select s => s.size + 1
  | .withCtes _ ctes body => cteSizes ctes + body.size + 1
  | .raw _ => 1

def cteSizes : List Cte → Nat
  | [] => 0
  | ⟨_, _, query⟩ :: cs => query.size + 1 + cteSizes cs

def Select.size : Select → Nat
  | ⟨_, projections, sources, joins, filter, groupBy, having, orderBy, limit, offset,
      setOperation⟩ =>
    itemSizes projections + sourceSizes sources + joinSizes joins + optionSize filter +
      exprSizes groupBy + optionSize having + orderSizes orderBy + optionSize limit +
      optionSize offset + setOperationSize setOperation + 1

def setOperationSize : Option SetOperation → Nat
  | none => 0
  | some ⟨_, _, right⟩ => right.size + 1

def sourceSizes : List Source → Nat
  | [] => 0
  | s :: ss => s.size + sourceSizes ss

def Source.size : Source → Nat
  | .table _ _ _ => 1
  | .subquery query _ => query.size + 1
  | .function _ args _ => exprSizes args + 1

def joinSizes : List Join → Nat
  | [] => 0
  | ⟨_, source, condition⟩ :: js => source.size + conditionSize condition + 1 + joinSizes js

def conditionSize : Option JoinCondition → Nat
  | none => 0
  | some (.on e) => e.size + 1
  | some (.using _) => 1
  | some .natural => 1

def itemSizes : List SelectItem → Nat
  | [] => 0
  | i :: is => i.size + itemSizes is

def SelectItem.size : SelectItem → Nat
  | .wildcard => 1
  | .wildcardOf _ => 1
  | .expr e _ => e.size + 1

def orderSizes : List OrderItem → Nat
  | [] => 0
  | ⟨e, _, _⟩ :: os => e.size + 1 + orderSizes os

def optionSize : Option Expr → Nat
  | none => 0
  | some e => e.size

def exprSizes : List Expr → Nat
  | [] => 0
  | e :: es => e.size + exprSizes es

def whenSizes : List (Expr × Expr) → Nat
  | [] => 0
  | (condition, result) :: ws => condition.size + result.size + whenSizes ws

def Expr.size : Expr → Nat
  | .column _ _ => 1
  | .literal _ => 1
  | .binary left _ right => left.size + right.size + 1
  | .unary _ e => e.size + 1
  | .call _ args => exprSizes args + 1
  | .function _ args _ => exprSizes args + 1
  | .aggregate _ args _ filter => exprSizes args + optionSize filter + 1
  | .case operand whens otherwise =>
    optionSize operand + whenSizes whens + optionSize otherwise + 1
  | .subquery query => query.size + 1
  | .exists query => query.size + 1
  | .inList e list _ => e.size + exprSizes list + 1
  | .inSubquery e query _ => e.size + query.size + 1
  | .between e low high _ => e.size + low.size + high.size + 1
  | .isNull e _ => e.size + 1
  | .cast e _ => e.size + 1
  | .wildcard => 1
  | .parameter _ => 1
  | .nested e => e.size + 1

end

mutual

/-- The number of `SELECT`s that the rows of a query come from, directly or through derived
tables. -/
def Query.reach : Query → Nat
  | .select s => s.reach
  | .withCtes _ _ body => body.reach
  | .raw _ => 0

def Select.reach : Select → Nat
  | { sources, joins, setOperation, .. } =>
    sourceReach sources + joinReach joins + setOperationReach setOperation + 1

def setOperationReach : Option SetOperation → Nat
  | none => 0
  | some ⟨_, _, right⟩ => right.reach

def sourceReach : List Source → Nat
  | [] => 0
  | s :: ss => s.reach + sourceReach ss

def Source.reach : Source → Nat
  | .table _ _ _ => 0
  | .subquery query _ => query.reach
  | .function _ _ _ => 0

def joinReach : List Join → Nat
  | [] => 0
  | ⟨_, source, _⟩ :: js => source.reach + joinReach js

end

mutual

/-- How often a part of a query is doubled: the greatest number of calls of `ISNULL` that stand each
in the first argument of the one before, at any depth. The arguments of table functions are left
out. -/
def Query.doublings : Query → Nat
  | .select s => s.doublings
  | .withCtes _ ctes body => max (cteDoublings ctes) body.doublings
  | .raw _ => 0

def cteDoublings : List Cte → Nat
  | [] => 0
  | ⟨_, _, query⟩ :: cs => max query.doublings (cteDoublings cs)

def Select.doublings : Select → Nat
  | ⟨_, projections, sources, joins, filter, groupBy, having, orderBy, limit, offset,
      setOperation⟩ =>
    max (itemDoublings projections) <| max (sourceDoublings sources) <| max (joinDoublings joins) <|
    max (optionDoublings filter) <| max (exprDoublings groupBy) <| max (optionDoublings having) <|
    max (orderDoublings orderBy) <| max (optionDoublings limit) <| max (optionDoublings offset) <|
    setOperationDoublings setOperation

def setOperationDoublings : Option SetOperation → Nat
  | none => 0
  | some ⟨_, _, right⟩ => right.doublings

def sourceDoublings : List Source → Nat
  | [] => 0
  | s :: ss => max s.doublings (sourceDoublings ss)

def Source.doublings : Source → Nat
  | .table _ _ _ => 0
  | .subquery query _ => query.doublings
  | .function _ _ _ => 0

def joinDoublings : List Join → Nat
  | [] => 0
  | ⟨_, source, condition⟩ :: js =>
    max source.doublings (max (conditionDoublings condition) (joinDoublings js))

def conditionDoublings : Option JoinCondition → Nat
  | some (.on e) => e.doublings
  | _ => 0

def itemDoublings : List SelectItem → Nat
  | [] => 0
  | i :: is => max i.doublings (itemDoublings is)

def SelectItem.doublings : SelectItem → Nat
  | .expr e _ => e.doublings
  | _ => 0

def orderDoublings : List OrderItem → Nat
  | [] => 0
  | ⟨e, _, _⟩ :: os => max e.doublings (orderDoublings os)

def optionDoublings : Option Expr → Nat
  | none => 0
  | some e => e.doublings

def exprDoublings : List Expr → Nat
  | [] => 0
  | e :: es => max e.doublings (exprDoublings es)

/-- One more in the first argument of `ISNULL`. -/
def argumentDoublings (function : LogicalFunction) : List Expr → Nat
  | [] => 0
  | e :: es =>
    max (e.doublings + if function = .isNull then 1 else 0) (exprDoublings es)

def whenDoublings : List (Expr × Expr) → Nat
  | [] => 0
  | (condition, result) :: ws =>
    max condition.doublings (max result.doublings (whenDoublings ws))

def Expr.doublings : Expr → Nat
  | .column _ _ => 0
  | .literal _ => 0
  | .binary left _ right => max left.doublings right.doublings
  | .unary _ e => e.doublings
  | .call function args => argumentDoublings function args
  | .function _ args _ => exprDoublings args
  | .aggregate _ args _ filter => max (exprDoublings args) (optionDoublings filter)
  | .case operand whens otherwise =>
    max (optionDoublings operand) (max (whenDoublings whens) (optionDoublings otherwise))
  | .subquery query => query.doublings
  | .exists query => query.doublings
  | .inList e list _ => max e.doublings (exprDoublings list)
  | .inSubquery e query _ => max e.doublings query.doublings
  | .between e low high _ => max e.doublings (max low.doublings high.doublings)
  | .isNull e _ => e.doublings
  | .cast e _ => e.doublings
  | .wildcard => 0
  | .parameter _ => 0
  | .nested e => e.doublings

end

/-- Conditions with the nodes of their joins. -/
def conditionSizes : List (Option JoinCondition) → Nat
  | [] => 0
  | c :: cs => conditionSize c + 1 + conditionSizes cs

theorem sourceSizes_append (xs ys : List Source) :
    sourceSizes (xs ++ ys) = sourceSizes xs + sourceSizes ys := by
  induction xs with
  | nil => simp only [List.nil_append, sourceSizes, Nat.zero_add]
  | cons x xs ih => simp only [List.cons_append, sourceSizes, ih, Nat.add_assoc]

theorem sourceReach_append (xs ys : List Source) :
    sourceReach (xs ++ ys) = sourceReach xs + sourceReach ys := by
  induction xs with
  | nil => simp only [List.nil_append, sourceReach, Nat.zero_add]
  | cons x xs ih => simp only [List.cons_append, sourceReach, ih, Nat.add_assoc]

theorem itemSizes_append (xs ys : List SelectItem) :
    itemSizes (xs ++ ys) = itemSizes xs + itemSizes ys := by
  induction xs with
  | nil => simp only [List.nil_append, itemSizes, Nat.zero_add]
  | cons x xs ih => simp only [List.cons_append, itemSizes, ih, Nat.add_assoc]

theorem joinSizes_eq (joins : List Join) :
    joinSizes joins =
      sourceSizes (joins.map Join.source) + conditionSizes (joins.map Join.condition) := by
  induction joins with
  | nil => simp only [joinSizes, List.map_nil, sourceSizes, conditionSizes]
  | cons j joins ih =>
    obtain ⟨kind, source, condition⟩ := j
    simp only [joinSizes, List.map_cons, sourceSizes, conditionSizes, ih]
    omega

theorem joinReach_eq (joins : List Join) :
    joinReach joins = sourceReach (joins.map Join.source) := by
  induction joins with
  | nil => simp only [joinReach, List.map_nil, sourceReach]
  | cons j joins ih =>
    obtain ⟨kind, source, condition⟩ := j
    simp only [joinReach, List.map_cons, sourceReach, ih]

namespace Scope

def size (s : Scope) : Nat := sourceSizes s.all

def reach (s : Scope) : Nat := sourceReach s.all

theorem size_eq (s : Scope) : s.size = sourceSizes s.sources + sourceSizes s.joined :=
  sourceSizes_append s.sources s.joined

theorem reach_eq (s : Scope) : s.reach = sourceReach s.sources + sourceReach s.joined :=
  sourceReach_append s.sources s.joined

end Scope

mutual

theorem Query.reach_le_size : ∀ q : Query, q.reach ≤ q.size
  | .select s => by
    have := Select.reach_le_size s
    simp only [Query.reach, Query.size]
    omega
  | .withCtes _ ctes body => by
    have := Query.reach_le_size body
    simp only [Query.reach, Query.size]
    omega
  | .raw _ => by
    simp only [Query.reach, Query.size]
    omega

theorem Select.reach_le_size : ∀ s : Select, s.reach ≤ s.size
  | ⟨_, projections, sources, joins, _, _, _, _, _, _, setOperation⟩ => by
    have := sourceReach_le sources
    have := joinReach_le joins
    have := setOperationReach_le setOperation
    simp only [Select.reach, Select.size]
    omega

theorem setOperationReach_le : ∀ o : Option SetOperation, setOperationReach o ≤ setOperationSize o
  | none => by simp only [setOperationReach, setOperationSize, Nat.le_refl]
  | some ⟨_, _, right⟩ => by
    have := Query.reach_le_size right
    simp only [setOperationReach, setOperationSize]
    omega

theorem sourceReach_le : ∀ sources : List Source, sourceReach sources ≤ sourceSizes sources
  | [] => by simp only [sourceReach, sourceSizes, Nat.le_refl]
  | s :: ss => by
    have := Source.reach_le_size s
    have := sourceReach_le ss
    simp only [sourceReach, sourceSizes]
    omega

theorem Source.reach_le_size : ∀ s : Source, s.reach ≤ s.size
  | .table _ _ _ => by simp only [Source.reach, Source.size, Nat.zero_le]
  | .subquery query _ => by
    have := Query.reach_le_size query
    simp only [Source.reach, Source.size]
    omega
  | .function _ _ _ => by simp only [Source.reach, Source.size, Nat.zero_le]

theorem joinReach_le : ∀ joins : List Join, joinReach joins ≤ joinSizes joins
  | [] => by simp only [joinReach, joinSizes, Nat.le_refl]
  | ⟨_, source, _⟩ :: js => by
    have := Source.reach_le_size source
    have := joinReach_le js
    simp only [joinReach, joinSizes]
    omega

end

end LogicalSql
