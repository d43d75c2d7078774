import LogicalSql.Query.Basic

/-! When operators need no parentheses other than those the tree holds. -/
namespace LogicalSql

/-- How calls are read: as they stand, or as what lowering makes of them. -/
inductive Reading where
  | written
  | lowered
  deriving DecidableEq

/-! How tightly operators bind, the loosest first. -/
namespace Binding

def disjunction : Nat := 1
def conjunction : Nat := 2
def negation : Nat := 3
def nullTest : Nat := 4
def comparison : Nat := 5
/-- Of `LIKE`, `BETWEEN` and `IN`. -/
def membership : Nat := 6
def concatenation : Nat := 7
def sum : Nat := 8
def product : Nat := 9
def sign : Nat := 10
def atom : Nat := 11

end Binding

def BinaryOp.binding : BinaryOp → Nat
  | .or => Binding.disjunction
  | .and => Binding.conjunction
  | .eq | .notEq | .lt | .ltEq | .gt | .gtEq => Binding.comparison
  | .like | .iLike | .notLike | .notILike => Binding.membership
  | .concat => Binding.concatenation
  | .plus | .minus => Binding.sum
  | .multiply | .divide | .modulo => Binding.product

def UnaryOp.binding : UnaryOp → Nat
  | .not => Binding.negation
  | .minus | .plus => Binding.sign

mutual

/-- Lowering leaves the argument of `PRESENTATION` in its place. -/
def Expr.binding (r : Reading) : Expr → Nat
  | .column _ _ => Binding.atom
  | .literal _ => Binding.atom
  | .binary _ op _ => op.binding
  | .unary op _ => op.binding
  | .call f args =>
    if r = .lowered ∧ f = .presentation then headBinding r args else Binding.atom
  | .function _ _ _ => Binding.atom
  | .aggregate _ _ _ _ => Binding.atom
  | .case _ _ _ => Binding.atom
  | .subquery _ => Binding.atom
  | .exists _ => Binding.atom
  | .inList _ _ _ => Binding.membership
  | .inSubquery _ _ _ => Binding.membership
  | .between _ _ _ _ => Binding.membership
  | .isNull _ _ => Binding.nullTest
  | .cast _ _ => Binding.atom
  | .wildcard => Binding.atom
  | .parameter _ => Binding.atom
  | .nested _ => Binding.atom

def headBinding (r : Reading) : List Expr → Nat
  | [] => Binding.atom
  | e :: _ => e.binding r

end

mutual

/-- In every expression a left operand binds at least as tightly as its operator, and so does the
operand of a sign, of `NOT` and of `IS NULL`. A right operand binds more tightly. -/
def Query.grouped (r : Reading) : Query → Bool
  | .select s => s.grouped r
  | .withCtes _ ctes body => groupedCtes r ctes && body.grouped r
  | .raw _ => true

def groupedCtes (r : Reading) : List Cte → Bool
  | [] => true
  | ⟨_, _, query⟩ :: cs => query.grouped r && groupedCtes r cs

def Select.grouped (r : Reading) : Select → Bool
  | { projections, sources, joins, filter, groupBy, having, orderBy, limit, offset,
      setOperation, .. } =>
    groupedItems r projections && groupedSources r sources && groupedJoins r joins &&
      groupedOption r filter && groupedExprs r groupBy && groupedOption r having &&
      groupedOrder r orderBy && groupedOption r limit && groupedOption r offset &&
      groupedRest r setOperation

def groupedRest (r : Reading) : Option SetOperation → Bool
  | none => true
  | some ⟨_, _, right⟩ => right.grouped r

def groupedSources (r : Reading) : List Source → Bool
  | [] => true
  | s :: ss => s.grouped r && groupedSources r ss

/-- The arguments of a table function are left as they are written. -/
def Source.grouped (r : Reading) : Source → Bool
  | .table _ _ _ => true
  | .subquery query _ => query.grouped r
  | .function _ args _ => groupedExprs .written args

def groupedJoins (r : Reading) : List Join → Bool
  | [] => true
  | ⟨_, source, condition⟩ :: js =>
    source.grouped r && groupedCondition r condition && groupedJoins r js

def groupedCondition (r : Reading) : Option JoinCondition → Bool
  | some (.on e) => e.grouped r
  | some (.using _) => true
  | some .natural => true
  | none => true

def groupedItems (r : Reading) : List SelectItem → Bool
  | [] => true
  | i :: is => i.grouped r && groupedItems r is

def SelectItem.grouped (r : Reading) : SelectItem → Bool
  | .wildcard => true
  | .wildcardOf _ => true
  | .expr e _ => e.grouped r

def groupedOrder (r : Reading) : List OrderItem → Bool
  | [] => true
  | ⟨e, _, _⟩ :: os => e.grouped r && groupedOrder r os

def groupedOption (r : Reading) : Option Expr → Bool
  | none => true
  | some e => e.grouped r

def groupedExprs (r : Reading) : List Expr → Bool
  | [] => true
  | e :: es => e.grouped r && groupedExprs r es

def groupedWhens (r : Reading) : List (Expr × Expr) → Bool
  | [] => true
  | (condition, result) :: ws => condition.grouped r && result.grouped r && groupedWhens r ws

/-- Lowering makes the first argument of `ISNULL` an operand of `IS NULL`. -/
def Expr.grouped (r : Reading) : Expr → Bool
  | .column _ _ => true
  | .literal _ => true
  | .binary left op right =>
    left.grouped r && right.grouped r && decide (op.binding ≤ left.binding r) &&
      decide (op.binding < right.binding r)
  | .unary op e => e.grouped r && decide (op.binding ≤ e.binding r)
  | .call f args =>
    groupedExprs r args &&
      decide (r = .lowered ∧ f = .isNull → Binding.nullTest ≤ headBinding r args)
  | .function _ args _ => groupedExprs r args
  | .aggregate _ args _ filter => groupedExprs r args && groupedOption r filter
  | .case operand whens otherwise =>
    groupedOption r operand && groupedWhens r whens && groupedOption r otherwise
  | .subquery query => query.grouped r
  | .exists query => query.grouped r
  | .inList e list _ =>
    e.grouped r && decide (Binding.membership ≤ e.binding r) && groupedExprs r list
  | .inSubquery e query _ =>
    e.grouped r && decide (Binding.membership ≤ e.binding r) && query.grouped r
  | .between e low high _ =>
    e.grouped r && low.grouped r && high.grouped r && decide (Binding.membership ≤ e.binding r) &&
      decide (Binding.membership < low.binding r) && decide (Binding.membership < high.binding r)
  | .isNull e _ => e.grouped r && decide (Binding.nullTest ≤ e.binding r)
  | .cast e _ => e.grouped r
  | .wildcard => true
  | .parameter _ => true
  | .nested e => e.grouped r

end

theorem groupedItems_append (r : Reading) (xs ys : List SelectItem) :
    groupedItems r (xs ++ ys) = (groupedItems r xs && groupedItems r ys) := by
  induction xs with
  | nil => simp only [List.nil_append, groupedItems, Bool.true_and]
  | cons x xs ih => simp only [List.cons_append, groupedItems, ih, Bool.and_assoc]

theorem groupedExprs_eq_true {r : Reading} {es : List Expr} :
    groupedExprs r es = true ↔ ∀ e ∈ es, e.grouped r = true := by
  induction es with
  | nil => simp [groupedExprs]
  | cons e es ih => rw [groupedExprs, Bool.and_eq_true, ih, List.forall_mem_cons]

theorem groupedWhens_eq_true {r : Reading} {ws : List (Expr × Expr)} :
    groupedWhens r ws = true ↔ ∀ w ∈ ws, w.1.grouped r = true ∧ w.2.grouped r = true := by
  induction ws with
  | nil => simp [groupedWhens]
  | cons w ws ih =>
    rw [groupedWhens, Bool.and_eq_true, Bool.and_eq_true, ih, List.forall_mem_cons]

theorem groupedOption_eq_true {r : Reading} {o : Option Expr} :
    groupedOption r o = true ↔ ∀ e ∈ o, e.grouped r = true := by
  cases o <;> simp [groupedOption]

end LogicalSql
