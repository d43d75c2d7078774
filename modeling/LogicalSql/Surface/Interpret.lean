import LogicalSql.Query.Chain
import LogicalSql.Surface.Outline
import LogicalSql.Text.Digits

/-! The query that a written statement stands for. Faults are found in the order of the parts. -/
namespace LogicalSql.Surface

/-- Functions that make one value of many rows. -/
def aggregateNames : List String := [
  "COUNT", "SUM", "AVG", "MIN", "MAX", "ARRAY_AGG", "STRING_AGG", "BOOL_AND", "BOOL_OR"]

def isAggregate (name : String) : Bool := aggregateNames.contains name

/-- A whole number of 64 bits where the digits are one, and a floating point number otherwise. -/
def interpretNumber (digits : String) : Except ParseError LogicalSql.Expr :=
  match Text.readNat? digits.toList with
  | some n =>
    if n < 0x8000000000000000 then return .integer n else float
  | none => float
where
  float : Except ParseError LogicalSql.Expr :=
    match Decimal.readFloat? digits with
    | some x => return .literal (.float x)
    | none => throw (.numericLiteral digits)

/-- The number behind a dollar sign, if it fits 64 bits. -/
def placeholderIndex? (text : String) : Option Nat := do
  match text.toList with
  | '$' :: digits =>
    let n ← Text.readNat? digits
    if n < UInt64.size then some n else none
  | _ => none

def Constant.interpret (value : Constant) : Except ParseError LogicalSql.Expr :=
  match value with
  | .null => return .literal .null
  | .boolean b => return .literal (.boolean b)
  | .number digits _ => interpretNumber digits
  | .string text => return .string text
  | .placeholder text =>
    match placeholderIndex? text with
    | some n => return .parameter n
    | none => throw (.placeholder text)
  | .styled _ _ | .doubleQuoted _ => throw (.literal value.show)

def Operator.interpret : Operator → Except ParseError BinaryOp
  | .known op => return op
  | op => throw (.binaryOperator op.outline)

def SignOperator.interpret : SignOperator → Except ParseError UnaryOp
  | .known op => return op
  | .before _ name | .after _ name => throw (.unaryOperator name)

/-- The kind of a join with this constraint. -/
def JoinOperator.interpret (constraint : Constraint) : JoinOperator → Except ParseError JoinKind
  | .known kind => return kind
  | operator => throw (.joinOperator (operator.outline constraint.outline))

def SetQuantifier.isAll : SetQuantifier → Bool
  | .all | .allByName => true
  | _ => false

/-- Two parts are a qualifier and a name. Any other number of parts is one name. -/
def interpretParts : List Ident → LogicalSql.Expr
  | [table, name] => .column (some table.text) name.text
  | parts => .column none (".".intercalate (parts.map (·.text)))

/-- A table by its name. Three or more parts are one name, as written. -/
def interpretTable (name : ObjectName) (a : Option String) : LogicalSql.Source :=
  match name with
  | [table] => .table none table.text a
  | [schema, table] => .table (some schema.text) table.text a
  | _ => .table none (showName name) a

def aliasName (a : Option TableAlias) : Option String := a.map (·.name.text)

/-- The function of this name, logical functions first. -/
def applyFunction (name : String) (args : List LogicalSql.Expr) (distinct : Bool)
    (filter : Option LogicalSql.Expr) : Except ParseError LogicalSql.Expr :=
  if filter.isSome && !isAggregate name then throw (.filterOutsideAggregate name)
  else match LogicalFunction.ofName? name with
    | some f => return .call f args
    | none =>
      if isAggregate name then return .aggregate name args distinct filter
      else return .function name args distinct

def likeOperator (ignoreCase negated : Bool) : BinaryOp :=
  match ignoreCase, negated with
  | false, false => .like
  | false, true => .notLike
  | true, false => .iLike
  | true, true => .notILike

mutual

def Query.interpret : Query → Except ParseError LogicalSql.Query
  | ⟨withClause, body, orderBy, limit, offset, _, _, _, _⟩ => do
    let ctes ← interpretWith withClause
    let body ← match ← body.interpret false with
      | .select s => do
        let orderBy ← interpretOrder orderBy
        let limit ← interpretOption limit
        let offset ← interpretOption offset
        pure (.select (s.overrideWith orderBy limit offset))
      | other => pure other
    return match ctes with
      | some (recursive, ctes) => .withCtes recursive ctes body
      | none => body

def interpretWith : Option WithClause → Except ParseError (Option (Bool × List LogicalSql.Cte))
  | none => return none
  | some ⟨_, recursive, ctes⟩ => return some (recursive, ← interpretCtes ctes)

def interpretCtes : List Cte → Except ParseError (List LogicalSql.Cte)
  | [] => return []
  | ⟨⟨name, columns⟩, _, query, _, _⟩ :: cs => do
    let query ← query.interpret
    return ⟨name.text, columns.map (·.1.text), query⟩ :: (← interpretCtes cs)

def Body.interpret (isOperand : Bool) : Body → Except ParseError LogicalSql.Query
  | .select s => return .select (← s.interpret)
  | .query q => if isOperand then q.interpretOperand else q.interpret
  | .setOperation left op quantifier right => do
    let left ← left.interpret true
    let right ← right.interpret true
    left.combine op quantifier.isAll right
  | .other shown => return .raw shown.text

/-- An operand of a set operation may stand in parentheses only if it is a plain selection. -/
def Query.interpretOperand : Query → Except ParseError LogicalSql.Query
  | ⟨none, .select s, [], none, none, _, none, _, _⟩ => return .select (← s.interpret)
  | q => throw (.parenthesizedBranch q.show)

def Select.interpret : Select → Except ParseError LogicalSql.Select
  | ⟨_, distinct, _, projection, _, sources, _, filter, _, groupBy, _, _, _, having, _, _, _⟩ => do
    let projections ← interpretItems projection
    let (sources, joins) ← interpretTableItems sources
    let filter ← interpretOption filter
    let groupBy ← interpretExprs groupBy
    let having ← interpretOption having
    return { distinct := distinct.isSome, projections, sources, joins, filter, groupBy, having }

def interpretItems : List Item → Except ParseError (List SelectItem)
  | [] => return []
  | .wildcard _ :: is => return .wildcard :: (← interpretItems is)
  | .wildcardOf name _ :: is => return .wildcardOf (showName name) :: (← interpretItems is)
  | .expr e a :: is => do
    let e ← e.interpret
    return .expr e (a.map (·.text)) :: (← interpretItems is)

def interpretOrder : List OrderItem → Except ParseError (List LogicalSql.OrderItem)
  | [] => return []
  | ⟨e, ascending, nullsFirst⟩ :: os => do
    let e ← e.interpret
    return ⟨e, ascending, nullsFirst⟩ :: (← interpretOrder os)

/-- All sources, and all joins behind them. -/
def interpretTableItems : List TableItem → Except ParseError (List Source × List LogicalSql.Join)
  | [] => return ([], [])
  | ⟨factor, joins⟩ :: ts => do
    let source ← factor.interpret
    let joins ← interpretJoins joins
    let (sources, more) ← interpretTableItems ts
    return (source :: sources, joins ++ more)

def TableFactor.interpret : TableFactor → Except ParseError Source
  | .table name none _ a _ => return interpretTable name (aliasName a)
  | .table name (some args) _ a _ =>
    return .function (showName name) (← interpretArguments args) (aliasName a)
  | .derived _ query (some a) => return .subquery (← query.interpret) a.name.text
  | .derived _ _ none => throw .derivedTableAlias
  | .function e a => return .function e.show [] (aliasName a)
  | .nestedJoin item a => throw (.tableFactor (TableFactor.nestedJoin item a).show)
  | .other shown => throw (.tableFactor shown.text)

def interpretJoins : List Join → Except ParseError (List LogicalSql.Join)
  | [] => return []
  | ⟨_, operator, factor, constraint⟩ :: js => do
    let kind ← operator.interpret constraint
    let condition ← constraint.interpret
    let source ← factor.interpret
    return ⟨kind, source, condition⟩ :: (← interpretJoins js)

def Constraint.interpret : Constraint → Except ParseError (Option JoinCondition)
  | .none => return none
  | .natural => return some .natural
  | .on e => return some (.on (← e.interpret))
  | .using columns => return some (.using (columns.map Ident.show))

def interpretOption : Option Expr → Except ParseError (Option LogicalSql.Expr)
  | none => return none
  | some e => return some (← e.interpret)

def interpretExprs : List Expr → Except ParseError (List LogicalSql.Expr)
  | [] => return []
  | e :: es => do
    let e ← e.interpret
    return e :: (← interpretExprs es)

def interpretWhens : List (Expr × Expr) → Except ParseError (List (LogicalSql.Expr × LogicalSql.Expr))
  | [] => return []
  | (condition, result) :: ws => do
    let condition ← condition.interpret
    let result ← result.interpret
    return (condition, result) :: (← interpretWhens ws)

def Expr.interpret : Expr → Except ParseError LogicalSql.Expr
  | .identifier i => return .column none i.text
  | .compound parts => return interpretParts parts
  | .constant value => value.interpret
  | .binary left op right => do
    let left ← left.interpret
    let op ← op.interpret
    return .binary left op (← right.interpret)
  | .unary op e => do
    let op ← op.interpret
    return .unary op (← e.interpret)
  | .function ⟨name, _, args, _, filter, _, window⟩ => do
    let name := Text.upper (showName name)
    if window.isSome then throw (.windowFunction name)
    let filter ← interpretOption filter
    let (args, distinct) ← args.interpret
    applyFunction name args distinct filter
  | .substring e start length _ => do
    let e ← e.interpret
    let start ← interpretOption start
    let length ← interpretOption length
    return .call .substring (e :: start.toList ++ length.toList)
  | .case operand whens otherwise => do
    let whens ← interpretWhens whens
    let operand ← interpretOption operand
    return .case operand whens (← interpretOption otherwise)
  | .subquery query => return .subquery (← query.interpret)
  | .exists query negated => do
    let e := LogicalSql.Expr.exists (← query.interpret)
    return if negated then .unary .not e else e
  | .inList e list negated => do
    let e ← e.interpret
    return .inList e (← interpretExprs list) negated
  | .inSubquery e query negated => do
    let e ← e.interpret
    return .inSubquery e (← query.interpret) negated
  | .between e low high negated => do
    let e ← e.interpret
    let low ← low.interpret
    return .between e low (← high.interpret) negated
  | .isNull e negated => return .isNull (← e.interpret) negated
  | .cast _ e dataType _ => return .cast (← e.interpret) dataType.show
  | .nested e => return .nested (← e.interpret)
  | .like e pattern ignoreCase negated _ _ => do
    let e ← e.interpret
    return .binary e (likeOperator ignoreCase negated) (← pattern.interpret)
  | .wildcardOf name _ => throw (.expression (showName name ++ ".*"))
  | .other shown => throw (.expression shown.text)

/-- The arguments, and whether only distinct ones count. -/
def Arguments.interpret : Arguments → Except ParseError (List LogicalSql.Expr × Bool)
  | .none => return ([], false)
  | .list distinct args _ => return (← interpretArguments args, distinct == some true)
  | .subquery query => return ([.subquery (← query.interpret)], false)

/-- Named arguments and the stars of tables are dropped. -/
def interpretArguments : List Argument → Except ParseError (List LogicalSql.Expr)
  | [] => return []
  | .expr e :: as => do
    let e ← e.interpret
    return e :: (← interpretArguments as)
  | .wildcard _ :: as => return .wildcard :: (← interpretArguments as)
  | .wildcardOf _ _ :: as => interpretArguments as
  | .named _ _ _ _ :: as => interpretArguments as

end

def Statement.interpret : Statement → Except ParseError LogicalSql.Query
  | .query q => q.interpret
  | .other text => return .raw text

end LogicalSql.Surface
