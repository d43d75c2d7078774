import LogicalSql.Query.Scope

/-! A walk over a query that replaces each call of a logical function, innermost calls first. -/
namespace LogicalSql

/-- Gives what a call with walked arguments becomes. It may change the sources in scope. -/
abbrev Hook (m : Type → Type) := LogicalFunction → List Expr → Scope → m (Expr × Scope)

/-- Puts walked sources back into their joins, and each condition to its own join. -/
def rejoin : List JoinKind → List Source → List (Option JoinCondition) → List Join
  | kind :: kinds, source :: sources, condition :: conditions =>
    ⟨kind, source, condition⟩ :: rejoin kinds sources conditions
  | _, _, _ => []

variable {m : Type → Type} [Monad m]

mutual

def Query.walk (hook : Hook m) : Query → m Query
  | .select s => return .select (← s.walk hook)
  | .withCtes recursive ctes body => do
    let ctes ← walkCtes hook ctes
    return .withCtes recursive ctes (← body.walk hook)
  | .raw text => return .raw text

def walkCtes (hook : Hook m) : List Cte → m (List Cte)
  | [] => return []
  | ⟨name, columns, query⟩ :: cs => do
    let query ← query.walk hook
    return ⟨name, columns, query⟩ :: (← walkCtes hook cs)

/-- Derived tables come first, then the clauses in the order of the text, a join's condition
counting as a clause, and the rest of a chain of set operations last. -/
def Select.walk (hook : Hook m) : Select → m Select
  | { distinct, projections, sources, joins, filter, groupBy, having, orderBy, limit, offset,
      setOperation } => do
    let sources ← walkSources hook sources
    let joined ← walkJoinSources hook joins
    let clauses : StateT Scope m _ := do
      let projections ← walkItems hook projections
      let conditions ← walkConditions hook joins
      let filter ← walkOption hook filter
      let groupBy ← walkExprs hook groupBy
      let having ← walkOption hook having
      let orderBy ← walkOrder hook orderBy
      let limit ← walkOption hook limit
      let offset ← walkOption hook offset
      return (projections, conditions, filter, groupBy, having, orderBy, limit, offset)
    let ((projections, conditions, filter, groupBy, having, orderBy, limit, offset), scope) ←
      clauses.run ⟨sources, joined⟩
    let setOperation ← walkSetOperation hook setOperation
    return {
      distinct, projections, filter, groupBy, having, orderBy, limit, offset, setOperation
      sources := scope.sources
      joins := rejoin (joins.map Join.kind) scope.joined conditions }

def walkSetOperation (hook : Hook m) : Option SetOperation → m (Option SetOperation)
  | none => return none
  | some ⟨op, all, right⟩ => return some ⟨op, all, ← right.walk hook⟩

def walkSources (hook : Hook m) : List Source → m (List Source)
  | [] => return []
  | s :: ss => do
    let s ← s.walk hook
    return s :: (← walkSources hook ss)

/-- The arguments of a table function are not walked. -/
def Source.walk (hook : Hook m) : Source → m Source
  | .table schema name a => return .table schema name a
  | .subquery query a => return .subquery (← query.walk hook) a
  | .function name args a => return .function name args a

def walkJoinSources (hook : Hook m) : List Join → m (List Source)
  | [] => return []
  | ⟨_, source, _⟩ :: js => do
    let source ← source.walk hook
    return source :: (← walkJoinSources hook js)

def walkConditions (hook : Hook m) : List Join → StateT Scope m (List (Option JoinCondition))
  | [] => return []
  | ⟨_, _, none⟩ :: js => return none :: (← walkConditions hook js)
  | ⟨_, _, some condition⟩ :: js => do
    let condition ← condition.walk hook
    return some condition :: (← walkConditions hook js)

def JoinCondition.walk (hook : Hook m) : JoinCondition → StateT Scope m JoinCondition
  | .on e => return .on (← e.walk hook)
  | .using columns => return .using columns
  | .natural => return .natural

def walkItems (hook : Hook m) : List SelectItem → StateT Scope m (List SelectItem)
  | [] => return []
  | i :: is => do
    let i ← i.walk hook
    return i :: (← walkItems hook is)

def SelectItem.walk (hook : Hook m) : SelectItem → StateT Scope m SelectItem
  | .wildcard => return .wildcard
  | .wildcardOf table => return .wildcardOf table
  | .expr e a => return .expr (← e.walk hook) a

def walkOrder (hook : Hook m) : List OrderItem → StateT Scope m (List OrderItem)
  | [] => return []
  | ⟨e, ascending, nullsFirst⟩ :: os => do
    let e ← e.walk hook
    return ⟨e, ascending, nullsFirst⟩ :: (← walkOrder hook os)

def walkOption (hook : Hook m) : Option Expr → StateT Scope m (Option Expr)
  | none => return none
  | some e => return some (← e.walk hook)

def walkExprs (hook : Hook m) : List Expr → StateT Scope m (List Expr)
  | [] => return []
  | e :: es => do
    let e ← e.walk hook
    return e :: (← walkExprs hook es)

def walkWhens (hook : Hook m) : List (Expr × Expr) → StateT Scope m (List (Expr × Expr))
  | [] => return []
  | (condition, result) :: ws => do
    let condition ← condition.walk hook
    let result ← result.walk hook
    return (condition, result) :: (← walkWhens hook ws)

def Expr.walk (hook : Hook m) : Expr → StateT Scope m Expr
  | .column table name => return .column table name
  | .literal value => return .literal value
  | .binary left op right => do
    let left ← left.walk hook
    return .binary left op (← right.walk hook)
  | .unary op e => return .unary op (← e.walk hook)
  | .call function args => do
    let args ← walkExprs hook args
    let (e, scope) ← hook function args (← get)
    set scope
    return e
  | .function name args distinct => return .function name (← walkExprs hook args) distinct
  | .aggregate name args distinct filter => do
    let args ← walkExprs hook args
    return .aggregate name args distinct (← walkOption hook filter)
  | .case operand whens otherwise => do
    let operand ← walkOption hook operand
    let whens ← walkWhens hook whens
    return .case operand whens (← walkOption hook otherwise)
  | .subquery query => return .subquery (← query.walk hook)
  | .exists query => return .exists (← query.walk hook)
  | .inList e list negated => do
    let e ← e.walk hook
    return .inList e (← walkExprs hook list) negated
  | .inSubquery e query negated => do
    let e ← e.walk hook
    return .inSubquery e (← query.walk hook) negated
  | .between e low high negated => do
    let e ← e.walk hook
    let low ← low.walk hook
    return .between e low (← high.walk hook) negated
  | .isNull e negated => return .isNull (← e.walk hook) negated
  | .cast e dataType => return .cast (← e.walk hook) dataType
  | .wildcard => return .wildcard
  | .parameter index => return .parameter index
  | .nested e => return .nested (← e.walk hook)

end

end LogicalSql
