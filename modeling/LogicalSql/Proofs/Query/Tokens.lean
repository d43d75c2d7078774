import LogicalSql.Proofs.Surface.Types

/-! The tokens of a query, beside its text. Most names stand in them without quotes, as they do in
the text. -/
namespace LogicalSql

open Surface (Token shownTokens typeTokens)

open Surface.Token (commas)

/-- A list behind its keywords, which is left out when it is empty. -/
def Surface.Token.clause (before : List Token) : List (List Token) → List Token
  | [] => []
  | parts => before ++ commas parts

open Surface.Token (clause)

def BinaryOp.tokens : BinaryOp → List Token
  | .and => [.keyword "AND"]
  | .or => [.keyword "OR"]
  | .like => [.keyword "LIKE"]
  | .iLike => [.keyword "ILIKE"]
  | .notLike => [.keyword "NOT", .keyword "LIKE"]
  | .notILike => [.keyword "NOT", .keyword "ILIKE"]
  | op => [.symbol op.sql]

def UnaryOp.token : UnaryOp → Token
  | .not => .keyword "NOT"
  | op => .symbol op.sql

def JoinKind.tokens : JoinKind → List Token
  | .inner => [.keyword "JOIN"]
  | .left => [.keyword "LEFT", .keyword "JOIN"]
  | .right => [.keyword "RIGHT", .keyword "JOIN"]
  | .full => [.keyword "FULL", .keyword "JOIN"]
  | .cross => [.keyword "CROSS", .keyword "JOIN"]

/-- Bytes have none. -/
def Literal.tokens : Literal → List Token
  | .null => [.keyword "NULL"]
  | .boolean true => [.keyword "TRUE"]
  | .boolean false => [.keyword "FALSE"]
  | .integer n => [.number (toString n) false]
  | .float x => [.number (Decimal.floatText x) false]
  | .string s => [.string s]
  | .binary _ => []

def notTokens (negated : Bool) : List Token := if negated then [.keyword "NOT"] else []

def distinctTokens (distinct : Bool) : List Token := if distinct then [.keyword "DISTINCT"] else []

def aliasTokens : Option String → List Token
  | none => []
  | some a => [.keyword "AS", .word a none]

def sortTokens (ascending nullsFirst : Option Bool) : List Token :=
  (match ascending with
    | some true => [.keyword "ASC"]
    | some false => [.keyword "DESC"]
    | none => []) ++
  match nullsFirst with
    | some true => [.keyword "NULLS", .keyword "FIRST"]
    | some false => [.keyword "NULLS", .keyword "LAST"]
    | none => []

def qualifiedTokens : Option String → String → List Token
  | some q, name => [.word q none, .symbol ".", .word name none]
  | none, name => shownTokens name

def nameTokens (names : List String) : List Token :=
  commas (names.map fun name => [.word name none])

/-- Names in parentheses, or nothing where there are none. -/
def columnTokens : List String → List Token
  | [] => []
  | columns => .symbol "(" :: (nameTokens columns ++ [.symbol ")"])

mutual

def Query.tokens : Query → List Token
  | .select s => s.tokens
  | .withCtes recursive ctes body =>
    .keyword "WITH" :: ((if recursive then [.keyword "RECURSIVE"] else []) ++
      (commas (cteTokens ctes) ++ body.tokens))
  | .raw _ => []

def cteTokens : List Cte → List (List Token)
  | [] => []
  | c :: cs => c.tokens :: cteTokens cs

def Cte.tokens : Cte → List Token
  | ⟨name, columns, query⟩ =>
    .word name none :: (columnTokens columns ++
      .keyword "AS" :: .symbol "(" :: (query.tokens ++ [.symbol ")"]))

def Select.tokens : Select → List Token
  | { distinct, projections, sources, joins, filter, groupBy, having, orderBy, limit, offset,
      setOperation } =>
    .keyword "SELECT" :: (distinctTokens distinct ++ (commas (itemTokens projections) ++
      (clause [.keyword "FROM"] (sourceTokens sources) ++ (joinTokens joins ++
      (optionTokens [.keyword "WHERE"] filter ++
      (clause [.keyword "GROUP", .keyword "BY"] (exprTokens groupBy) ++
      (optionTokens [.keyword "HAVING"] having ++ (setOperationTokens setOperation ++
      (clause [.keyword "ORDER", .keyword "BY"] (orderTokens orderBy) ++
      (optionTokens [.keyword "LIMIT"] limit ++ optionTokens [.keyword "OFFSET"] offset))))))))))

def setOperationTokens : Option SetOperation → List Token
  | none => []
  | some ⟨op, all, right⟩ =>
    .keyword op.sql :: ((if all then [.keyword "ALL"] else []) ++ right.tokens)

def itemTokens : List SelectItem → List (List Token)
  | [] => []
  | i :: is => i.tokens :: itemTokens is

def SelectItem.tokens : SelectItem → List Token
  | .wildcard => [.symbol "*"]
  | .wildcardOf table => shownTokens table ++ [.symbol ".", .symbol "*"]
  | .expr e a => e.tokens ++ aliasTokens a

def orderTokens : List OrderItem → List (List Token)
  | [] => []
  | ⟨e, ascending, nullsFirst⟩ :: os =>
    (e.tokens ++ sortTokens ascending nullsFirst) :: orderTokens os

def sourceTokens : List Source → List (List Token)
  | [] => []
  | s :: ss => s.tokens :: sourceTokens ss

def Source.tokens : Source → List Token
  | .table schema name a => qualifiedTokens schema name ++ aliasTokens a
  | .subquery query a =>
    .symbol "(" :: (query.tokens ++ .symbol ")" :: aliasTokens (some a))
  | .function name args a =>
    shownTokens name ++ .symbol "(" :: (commas (exprTokens args) ++ .symbol ")" :: aliasTokens a)

def joinTokens : List Join → List Token
  | [] => []
  | j :: js => j.tokens ++ joinTokens js

def Join.tokens : Join → List Token
  | ⟨kind, source, none⟩ => kind.tokens ++ source.tokens
  | ⟨kind, source, some condition⟩ => condition.tokens (kind.tokens ++ source.tokens)

def JoinCondition.tokens (join : List Token) : JoinCondition → List Token
  | .on e => join ++ .keyword "ON" :: e.tokens
  | .using columns =>
    join ++ .keyword "USING" :: .symbol "(" :: (commas (columns.map shownTokens) ++ [.symbol ")"])
  | .natural => .keyword "NATURAL" :: join

def exprTokens : List Expr → List (List Token)
  | [] => []
  | e :: es => e.tokens :: exprTokens es

def whenTokens : List (Expr × Expr) → List Token
  | [] => []
  | (condition, result) :: ws =>
    .keyword "WHEN" :: (condition.tokens ++ .keyword "THEN" :: (result.tokens ++ whenTokens ws))

def optionTokens (before : List Token) : Option Expr → List Token
  | none => []
  | some e => before ++ e.tokens

def filterTokens : Option Expr → List Token
  | none => []
  | some e => .keyword "FILTER" :: .symbol "(" :: .keyword "WHERE" :: (e.tokens ++ [.symbol ")"])

def Expr.tokens : Expr → List Token
  | .column table name => qualifiedTokens table name
  | .literal value => value.tokens
  | .binary left op right => left.tokens ++ (op.tokens ++ right.tokens)
  | .unary op e => op.token :: e.tokens
  | .call function args =>
    .word function.sqlName none :: .symbol "(" :: (commas (exprTokens args) ++ [.symbol ")"])
  | .function name args distinct =>
    shownTokens name ++ .symbol "(" ::
      (distinctTokens distinct ++ (commas (exprTokens args) ++ [.symbol ")"]))
  | .aggregate name args distinct filter =>
    .word name none :: .symbol "(" ::
      (distinctTokens distinct ++ (commas (exprTokens args) ++ .symbol ")" :: filterTokens filter))
  | .case operand whens otherwise =>
    .keyword "CASE" :: (optionTokens [] operand ++ (whenTokens whens ++
      (optionTokens [.keyword "ELSE"] otherwise ++ [.keyword "END"])))
  | .subquery query => .symbol "(" :: (query.tokens ++ [.symbol ")"])
  | .exists query => .keyword "EXISTS" :: .symbol "(" :: (query.tokens ++ [.symbol ")"])
  | .inList e list negated =>
    e.tokens ++ (notTokens negated ++
      .keyword "IN" :: .symbol "(" :: (commas (exprTokens list) ++ [.symbol ")"]))
  | .inSubquery e query negated =>
    e.tokens ++ (notTokens negated ++
      .keyword "IN" :: .symbol "(" :: (query.tokens ++ [.symbol ")"]))
  | .between e low high negated =>
    e.tokens ++ (notTokens negated ++
      .keyword "BETWEEN" :: (low.tokens ++ .keyword "AND" :: high.tokens))
  | .isNull e negated =>
    e.tokens ++ .keyword "IS" :: (notTokens negated ++ [.keyword "NULL"])
  | .cast e dataType =>
    .keyword "CAST" :: .symbol "(" ::
      (e.tokens ++ .keyword "AS" :: (typeTokens dataType ++ [.symbol ")"]))
  | .wildcard => [.symbol "*"]
  | .parameter index => [.placeholder ("$" ++ toString index)]
  | .nested e => .symbol "(" :: (e.tokens ++ [.symbol ")"])

end

/-- The tokens between the fields and a set operation. -/
def Select.clauseTokens (s : Select) : List Token :=
  clause [.keyword "FROM"] (sourceTokens s.sources) ++ joinTokens s.joins ++
    (optionTokens [.keyword "WHERE"] s.filter ++
    (clause [.keyword "GROUP", .keyword "BY"] (exprTokens s.groupBy) ++
    optionTokens [.keyword "HAVING"] s.having))

/-- The tokens in front of a set operation. -/
def Select.ownTokens (s : Select) : List Token :=
  .keyword "SELECT" ::
    (distinctTokens s.distinct ++ (commas (itemTokens s.projections) ++ s.clauseTokens))

/-- The tokens of the clauses that apply to a whole chain. -/
def Select.modifierTokens (s : Select) : List Token :=
  clause [.keyword "ORDER", .keyword "BY"] (orderTokens s.orderBy) ++
    (optionTokens [.keyword "LIMIT"] s.limit ++ optionTokens [.keyword "OFFSET"] s.offset)

theorem Select.tokens_eq (s : Select) :
    s.tokens = s.ownTokens ++ (setOperationTokens s.setOperation ++ s.modifierTokens) := by
  obtain ⟨distinct, projections⟩ := s
  simp [Select.tokens, Select.ownTokens, Select.clauseTokens, Select.modifierTokens]

end LogicalSql
