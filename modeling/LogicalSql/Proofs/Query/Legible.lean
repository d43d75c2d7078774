import LogicalSql.Proofs.Surface.Types
import LogicalSql.Surface.Interpret

/-! Queries whose text says all that they hold, and how deep they nest. Names that stand in the text
without quotes must be words that mean nothing else where they stand. Columns of `USING`, tables in
front of a star, tables of three or more parts, functions and types keep their quotes. -/
namespace LogicalSql

open Surface

/-- A name by itself, or behind a qualifier. A word behind a point is always a name. -/
def isQualifiedName (isAlone isFirst : String → Bool) : Option String → String → Bool
  | none, name => isAlone name
  | some qualifier, name => isFirst qualifier && isWord name

/-- A floating-point number whose text is read as the same number. -/
def isReadFloat (x : Float) : Bool :=
  isNumber (Decimal.floatText x) &&
    match interpretNumber (Decimal.floatText x) with
    | .ok (.literal (.float y)) => x.toBits == y.toBits
    | _ => false

/-- Constants other than bytes. -/
def Literal.legible : Literal → Bool
  | .null | .boolean _ | .string _ => true
  | .integer n => 0 ≤ n && n < 0x8000000000000000
  | .float x => isReadFloat x
  | .binary _ => false

def Query.isSelect : Query → Bool
  | .select _ => true
  | _ => false

/-- A selection without clauses that would apply to all of a chain. -/
def Query.isOperand : Query → Bool
  | .select s => s.orderBy.isEmpty && s.limit.isNone && s.offset.isNone
  | _ => false

/-- The word `RECURSIVE` behind `WITH` is no name. -/
def Cte.isRecursiveWord (c : Cte) : Bool := Text.upper c.name == "RECURSIVE"

def Expr.isWildcard : Expr → Bool
  | .wildcard => true
  | _ => false

def Expr.isExists : Expr → Bool
  | .exists _ => true
  | _ => false

/-- The operand that comes first in the text. -/
def Expr.leftmost : Expr → Expr
  | .binary left _ _ => left.leftmost
  | .inList e _ _ => e.leftmost
  | .inSubquery e _ _ => e.leftmost
  | .between e _ _ _ => e.leftmost
  | .isNull e _ => e.leftmost
  | e => e

/-- `NOT` takes `EXISTS` right behind it for itself. -/
def UnaryOp.takes (op : UnaryOp) (e : Expr) : Bool :=
  op != .not || e.isExists || !e.leftmost.isExists

/-- Functions that are read by the name they are printed with. -/
def LogicalFunction.isReadBack (f : LogicalFunction) : Bool := f != .dateTrunc && f != .datePart

mutual

def Query.legible : Query → Bool
  | .select s => s.legible
  | .withCtes recursive ctes body =>
    !ctes.isEmpty && (recursive || !ctes.head?.any Cte.isRecursiveWord) && legibleCtes ctes &&
      body.isSelect && body.legible
  | .raw _ => false

def legibleCtes : List Cte → Bool
  | [] => true
  | ⟨name, columns, query⟩ :: cs =>
    isWord name && columns.all isWord && query.legible && legibleCtes cs

def Select.legible : Select → Bool
  | { projections, sources, joins, filter, groupBy, having, orderBy, limit, offset,
      setOperation, .. } =>
    !projections.isEmpty && legibleItems projections && legibleSources sources &&
      (joins.isEmpty || !sources.isEmpty) && legibleJoins joins && legibleOption filter &&
      legibleExprs groupBy && legibleOption having && legibleOrder orderBy && legibleOption limit &&
      legibleOption offset && legibleRest setOperation

def legibleRest : Option SetOperation → Bool
  | none => true
  | some ⟨_, _, right⟩ => right.isOperand && right.legible

def legibleItems : List SelectItem → Bool
  | [] => true
  | i :: is => i.legible && legibleItems is

def SelectItem.legible : SelectItem → Bool
  | .wildcard => true
  | .wildcardOf table => isWildcardName table
  | .expr e a => e.legible && a.all isWord

def legibleOrder : List OrderItem → Bool
  | [] => true
  | ⟨e, _, _⟩ :: os => e.legible && legibleOrder os

def legibleSources : List Source → Bool
  | [] => true
  | s :: ss => s.legible && legibleSources ss

def Source.legible : Source → Bool
  | .table schema name a => isQualifiedName isTableText isTableName schema name && a.all isWord
  | .subquery query a => query.legible && isWord a
  | .function name args a => isTableFunctionName name && legibleArguments args && a.all isWord

def legibleJoins : List Join → Bool
  | [] => true
  | ⟨kind, source, condition⟩ :: js =>
    source.legible && (kind != .cross || condition.isNone) && legibleCondition condition &&
      legibleJoins js

def legibleCondition : Option JoinCondition → Bool
  | none => true
  | some (.on e) => e.legible
  | some (.using columns) => !columns.isEmpty && columns.all isPartName
  | some .natural => true

def legibleOption : Option Expr → Bool
  | none => true
  | some e => e.legible

def legibleExprs : List Expr → Bool
  | [] => true
  | e :: es => e.legible && legibleExprs es

/-- A star may stand for an argument. -/
def legibleArguments : List Expr → Bool
  | [] => true
  | e :: es => (e.isWildcard || e.legible) && legibleArguments es

def legibleWhens : List (Expr × Expr) → Bool
  | [] => true
  | (condition, result) :: ws => condition.legible && result.legible && legibleWhens ws

def Expr.legible : Expr → Bool
  | .column table name => isQualifiedName isColumnName isOperandName table name
  | .literal value => value.legible
  | .binary left _ right => left.legible && right.legible
  | .unary op e => e.legible && op.takes e
  | .call .substring args => 1 ≤ args.length && args.length ≤ 3 && legibleExprs args
  | .call f args => f.isReadBack && legibleArguments args
  | .function name args distinct =>
    isFunctionName name && Text.upper name == name && !isAggregate name &&
      (LogicalFunction.ofName? name).isNone && (!distinct || !args.isEmpty) && legibleArguments args
  | .aggregate name args distinct filter =>
    isAggregate name &&
      (!distinct || !args.isEmpty) && legibleArguments args && legibleOption filter
  | .case operand whens otherwise =>
    !whens.isEmpty && legibleOption operand && legibleWhens whens && legibleOption otherwise
  | .subquery query => query.legible
  | .exists query => query.legible
  | .inList e list _ => !list.isEmpty && e.legible && legibleExprs list
  | .inSubquery e query _ => e.legible && query.legible
  | .between e low high _ => e.legible && low.legible && high.legible
  | .isNull e _ => e.legible
  | .cast e dataType => e.legible && isTypeText dataType
  | .wildcard => false
  | .parameter index => index < UInt64.size
  | .nested e => e.legible

end

theorem legibleExprs_eq_true {es : List Expr} :
    legibleExprs es = true ↔ ∀ e ∈ es, e.legible = true := by
  induction es with
  | nil => simp [legibleExprs]
  | cons e es ih => rw [legibleExprs, Bool.and_eq_true, ih, List.forall_mem_cons]

theorem legibleArguments_eq_true {es : List Expr} :
    legibleArguments es = true ↔ ∀ e ∈ es, e = .wildcard ∨ e.legible = true := by
  induction es with
  | nil => simp [legibleArguments]
  | cons e es ih =>
    have hwildcard : e.isWildcard = true ↔ e = .wildcard := by cases e <;> simp [Expr.isWildcard]
    rw [legibleArguments, Bool.and_eq_true, Bool.or_eq_true, hwildcard, ih, List.forall_mem_cons]

theorem legibleArguments_of_legibleExprs {es : List Expr} (h : legibleExprs es = true) :
    legibleArguments es = true :=
  legibleArguments_eq_true.2 fun e he => .inr (legibleExprs_eq_true.1 h e he)

theorem legibleWhens_eq_true {whens : List (Expr × Expr)} :
    legibleWhens whens = true ↔ ∀ w ∈ whens, w.1.legible = true ∧ w.2.legible = true := by
  induction whens with
  | nil => simp [legibleWhens]
  | cons w ws ih => rw [legibleWhens, Bool.and_eq_true, Bool.and_eq_true, ih, List.forall_mem_cons]

theorem legibleOption_eq_true {o : Option Expr} :
    legibleOption o = true ↔ ∀ e ∈ o, e.legible = true := by
  cases o <;> simp [legibleOption]

/-! Levels. An operand on the left and the selections of a chain are no level further down than the
whole, any other part is. -/

mutual

def Query.depth : Query → Nat
  | .select s => s.depth + 1
  | .withCtes _ ctes body => max (cteDepths ctes + 1) body.depth
  | .raw _ => 1

def cteDepths : List Cte → Nat
  | [] => 0
  | ⟨_, _, query⟩ :: cs => max query.depth (cteDepths cs)

/-- The levels of what a selection holds. -/
def Select.depth : Select → Nat
  | { projections, sources, joins, filter, groupBy, having, orderBy, limit, offset,
      setOperation, .. } =>
    [itemDepths projections, sourceDepths sources, joinDepths joins, optionDepth filter,
      exprDepths groupBy, optionDepth having, orderDepths orderBy, optionDepth limit,
      optionDepth offset, restDepth setOperation].foldr max 0

def restDepth : Option SetOperation → Nat
  | none => 0
  | some ⟨_, _, right⟩ => right.depth - 1

def itemDepths : List SelectItem → Nat
  | [] => 0
  | i :: is => max i.depth (itemDepths is)

def SelectItem.depth : SelectItem → Nat
  | .wildcard => 0
  | .wildcardOf _ => 0
  | .expr e _ => e.depth

def orderDepths : List OrderItem → Nat
  | [] => 0
  | ⟨e, _, _⟩ :: os => max e.depth (orderDepths os)

def sourceDepths : List Source → Nat
  | [] => 0
  | s :: ss => max s.depth (sourceDepths ss)

def Source.depth : Source → Nat
  | .table _ _ _ => 0
  | .subquery query _ => query.depth
  | .function _ args _ => exprDepths args

def joinDepths : List Join → Nat
  | [] => 0
  | ⟨_, source, condition⟩ :: js =>
    max source.depth (max (conditionDepth condition) (joinDepths js))

def conditionDepth : Option JoinCondition → Nat
  | some (.on e) => e.depth
  | some (.using _) => 0
  | some .natural => 0
  | none => 0

def optionDepth : Option Expr → Nat
  | none => 0
  | some e => e.depth

def exprDepths : List Expr → Nat
  | [] => 0
  | e :: es => max e.depth (exprDepths es)

def whenDepths : List (Expr × Expr) → Nat
  | [] => 0
  | (condition, result) :: ws => max condition.depth (max result.depth (whenDepths ws))

def Expr.depth : Expr → Nat
  | .column _ _ => 1
  | .literal _ => 1
  | .binary left _ right => max left.depth (right.depth + 1)
  | .unary _ e => e.depth + 1
  | .call _ args => exprDepths args + 1
  | .function _ args _ => exprDepths args + 1
  | .aggregate _ args _ filter => max (exprDepths args) (optionDepth filter) + 1
  | .case operand whens otherwise =>
    max (optionDepth operand) (max (whenDepths whens) (optionDepth otherwise)) + 1
  | .subquery query => query.depth + 1
  | .exists query => query.depth + 1
  | .inList e list _ => max e.depth (exprDepths list + 1)
  | .inSubquery e query _ => max e.depth (query.depth + 1)
  | .between e low high _ => max e.depth (max low.depth high.depth + 1)
  | .isNull e _ => e.depth
  | .cast e _ => e.depth + 1
  | .wildcard => 1
  | .parameter _ => 1
  | .nested e => e.depth + 1

end

end LogicalSql
