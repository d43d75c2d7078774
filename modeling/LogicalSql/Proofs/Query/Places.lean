import LogicalSql.Query.Trace

/-! The places in a query: what stands at the end of a way through its clauses and expressions. -/
namespace LogicalSql

/-- One step into a query or an expression. The arguments of table functions are out of reach. -/
inductive Step where
  | cte (i : Nat)
  /-- The query that common table expressions are declared for. -/
  | body
  | source (i : Nat)
  | joined (i : Nat)
  | item (i : Nat)
  | condition (i : Nat)
  | filter
  | groupBy (i : Nat)
  | having
  | orderBy (i : Nat)
  | limit
  | offset
  /-- What follows in a chain of set operations. -/
  | right
  | argument (i : Nat)
  | part (i : Nat)
  deriving DecidableEq, Repr

/-- The steps that lead there, the first one first. -/
abbrev Place := List Step

/-- What stands at a place: a query, or an expression over the sources of its `SELECT`. -/
inductive Node where
  | query (query : Query)
  | expr (scope : Scope) (expr : Expr)

def Source.node? : Source → Option Node
  | .subquery query _ => some (.query query)
  | _ => none

def SelectItem.node? (scope : Scope) : SelectItem → Option Node
  | .expr e _ => some (.expr scope e)
  | _ => none

def JoinCondition.node? (scope : Scope) : JoinCondition → Option Node
  | .on e => some (.expr scope e)
  | _ => none

def Select.scope (s : Select) : Scope := ⟨s.sources, s.joins.map Join.source⟩

def Select.child (s : Select) : Step → Option Node
  | .source i => s.sources[i]?.bind Source.node?
  | .joined i => s.joins[i]?.bind (·.source.node?)
  | .item i => s.projections[i]?.bind (·.node? s.scope)
  | .condition i => s.joins[i]?.bind (·.condition.bind (·.node? s.scope))
  | .filter => s.filter.map (.expr s.scope)
  | .groupBy i => s.groupBy[i]?.map (.expr s.scope)
  | .having => s.having.map (.expr s.scope)
  | .orderBy i => s.orderBy[i]?.map (.expr s.scope ·.expr)
  | .limit => s.limit.map (.expr s.scope)
  | .offset => s.offset.map (.expr s.scope)
  | .right => s.setOperation.map (.query ·.right)
  | _ => none

/-- The arguments of a call of a logical function. -/
def Expr.arguments : Expr → List Expr
  | .call _ args => args
  | _ => []

/-- The parts of any other expression. Queries in it do not see the sources around them. -/
def Expr.parts (scope : Scope) : Expr → List Node
  | .column _ _ => []
  | .literal _ => []
  | .binary left _ right => [.expr scope left, .expr scope right]
  | .unary _ e => [.expr scope e]
  | .call _ _ => []
  | .function _ args _ => args.map (.expr scope)
  | .aggregate _ args _ filter => (args ++ filter.toList).map (.expr scope)
  | .case operand whens otherwise =>
    (operand.toList ++ whens.flatMap (fun w => [w.1, w.2]) ++ otherwise.toList).map (.expr scope)
  | .subquery query => [.query query]
  | .exists query => [.query query]
  | .inList e list _ => (e :: list).map (.expr scope)
  | .inSubquery e query _ => [.expr scope e, .query query]
  | .between e low high _ => [.expr scope e, .expr scope low, .expr scope high]
  | .isNull e _ => [.expr scope e]
  | .cast e _ => [.expr scope e]
  | .wildcard => []
  | .parameter _ => []
  | .nested e => [.expr scope e]

namespace Node

def child : Node → Step → Option Node
  | .query (.withCtes _ ctes _), .cte i => ctes[i]?.map (.query ·.query)
  | .query (.withCtes _ _ body), .body => some (.query body)
  | .query (.select s), step => s.child step
  | .expr scope e, .argument i => e.arguments[i]?.map (.expr scope)
  | .expr scope e, .part i => (e.parts scope)[i]?
  | _, _ => none

def at? : Node → Place → Option Node
  | n, [] => some n
  | n, step :: p => (n.child step).bind (·.at? p)

/-- A call as a walk that replaces nothing comes by it. -/
def visit? : Node → Option Visit
  | .expr scope (.call function args) => some (.of function args scope)
  | _ => none

def visitAt? (n : Node) (p : Place) : Option Visit := (n.at? p).bind visit?

@[simp] theorem at?_nil (n : Node) : n.at? [] = some n := rfl

@[simp] theorem at?_cons (n : Node) (step : Step) (p : Place) :
    n.at? (step :: p) = (n.child step).bind (·.at? p) := rfl

theorem at?_append (n : Node) (p p' : Place) : n.at? (p ++ p') = (n.at? p).bind (·.at? p') := by
  induction p generalizing n with
  | nil => rfl
  | cons step p ih =>
    rw [List.cons_append, at?_cons, at?_cons, Option.bind_assoc]
    exact congrArg _ (funext fun m => ih m)

end Node

/-- The call at a place, as a walk that replaces nothing comes by it. -/
def Query.visitAt? (q : Query) (p : Place) : Option Visit := (Node.query q).visitAt? p

end LogicalSql
