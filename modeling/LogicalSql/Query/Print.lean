import LogicalSql.Decimal.Floating
import LogicalSql.Query.Basic
import LogicalSql.Text.Digits
import LogicalSql.Text.Quoted

/-! Queries as SQL text. Operators get no parentheses other than those the tree holds. -/
namespace LogicalSql

def commaList (items : List String) : String := ", ".intercalate items

def BinaryOp.sql : BinaryOp → String
  | .eq => "="
  | .notEq => "<>"
  | .lt => "<"
  | .ltEq => "<="
  | .gt => ">"
  | .gtEq => ">="
  | .and => "AND"
  | .or => "OR"
  | .plus => "+"
  | .minus => "-"
  | .multiply => "*"
  | .divide => "/"
  | .modulo => "%"
  | .like => "LIKE"
  | .iLike => "ILIKE"
  | .notLike => "NOT LIKE"
  | .notILike => "NOT ILIKE"
  | .concat => "||"

def UnaryOp.sql : UnaryOp → String
  | .not => "NOT"
  | .minus => "-"
  | .plus => "+"

def JoinKind.sql : JoinKind → String
  | .inner => "JOIN"
  | .left => "LEFT JOIN"
  | .right => "RIGHT JOIN"
  | .full => "FULL JOIN"
  | .cross => "CROSS JOIN"

def SetOperator.sql : SetOperator → String
  | .union => "UNION"
  | .intersect => "INTERSECT"
  | .except => "EXCEPT"

def Literal.sql : Literal → String
  | .null => "NULL"
  | .boolean true => "TRUE"
  | .boolean false => "FALSE"
  | .integer n => toString n
  | .float x => Decimal.floatText x
  | .string s => Text.quoted '\'' s
  | .binary bytes => "'\\x" ++ Text.hexBytes bytes ++ "'::bytea"

def aliasSql : Option String → String
  | none => ""
  | some a => " AS " ++ a

def distinctSql (distinct : Bool) : String := if distinct then "DISTINCT " else ""

def notSql (negated : Bool) : String := if negated then "NOT " else ""

def sortSql (ascending nullsFirst : Option Bool) : String :=
  (match ascending with
    | some true => " ASC"
    | some false => " DESC"
    | none => "") ++
  match nullsFirst with
    | some true => " NULLS FIRST"
    | some false => " NULLS LAST"
    | none => ""

/-- A clause that is left out when its list is empty. -/
def listClause (keyword : String) : List String → List String
  | [] => []
  | items => [keyword ++ " " ++ commaList items]

def qualifiedSql (qualifier : Option String) (name : String) : String :=
  match qualifier with
  | some q => q ++ "." ++ name
  | none => name

mutual

def Query.sql : Query → String
  | .select s => s.sql
  | .withCtes recursive ctes body =>
    "WITH " ++ (if recursive then "RECURSIVE " else "") ++ commaList (cteTexts ctes) ++ " " ++ body.sql
  | .raw text => text

def cteTexts : List Cte → List String
  | [] => []
  | c :: cs => c.sql :: cteTexts cs

def Cte.sql : Cte → String
  | ⟨name, columns, query⟩ =>
    name ++ (if columns.isEmpty then "" else "(" ++ commaList columns ++ ")") ++
      " AS (" ++ query.sql ++ ")"

def Select.sql : Select → String
  | { distinct, projections, sources, joins, filter, groupBy, having, orderBy, limit, offset,
      setOperation } =>
    " ".intercalate <|
      ["SELECT " ++ distinctSql distinct ++
        (if projections.isEmpty then "*" else commaList (itemTexts projections))] ++
      listClause "FROM" (sourceTexts sources) ++
      joinTexts joins ++
      clauseText "WHERE" filter ++
      listClause "GROUP BY" (exprTexts groupBy) ++
      clauseText "HAVING" having ++
      setOperationText setOperation ++
      listClause "ORDER BY" (orderTexts orderBy) ++
      clauseText "LIMIT" limit ++
      clauseText "OFFSET" offset

def setOperationText : Option SetOperation → List String
  | none => []
  | some ⟨op, all, right⟩ => [op.sql ++ (if all then " ALL" else "") ++ " " ++ right.sql]

def clauseText (keyword : String) : Option Expr → List String
  | none => []
  | some e => [keyword ++ " " ++ e.sql]

def itemTexts : List SelectItem → List String
  | [] => []
  | i :: is => i.sql :: itemTexts is

def SelectItem.sql : SelectItem → String
  | .wildcard => "*"
  | .wildcardOf table => table ++ ".*"
  | .expr e a => e.sql ++ aliasSql a

def orderTexts : List OrderItem → List String
  | [] => []
  | ⟨e, ascending, nullsFirst⟩ :: os => (e.sql ++ sortSql ascending nullsFirst) :: orderTexts os

def sourceTexts : List Source → List String
  | [] => []
  | s :: ss => s.sql :: sourceTexts ss

def Source.sql : Source → String
  | .table schema name a => qualifiedSql schema name ++ aliasSql a
  | .subquery query a => "(" ++ query.sql ++ ")" ++ aliasSql (some a)
  | .function name args a => name ++ "(" ++ commaList (exprTexts args) ++ ")" ++ aliasSql a

def joinTexts : List Join → List String
  | [] => []
  | j :: js => j.sql :: joinTexts js

def Join.sql : Join → String
  | ⟨kind, source, none⟩ => kind.sql ++ " " ++ source.sql
  | ⟨kind, source, some condition⟩ => condition.sql (kind.sql ++ " " ++ source.sql)

/-- The condition around the text of a join. -/
def JoinCondition.sql (join : String) : JoinCondition → String
  | .on e => join ++ " ON " ++ e.sql
  | .using columns => join ++ " USING (" ++ commaList columns ++ ")"
  | .natural => "NATURAL " ++ join

def exprTexts : List Expr → List String
  | [] => []
  | e :: es => e.sql :: exprTexts es

def whenTexts : List (Expr × Expr) → String
  | [] => ""
  | (condition, result) :: ws =>
    " WHEN " ++ condition.sql ++ " THEN " ++ result.sql ++ whenTexts ws

/-- An optional expression between two fixed texts, or nothing. -/
def optionText (before : String) (after : String) : Option Expr → String
  | none => ""
  | some e => before ++ e.sql ++ after

def Expr.sql : Expr → String
  | .column table name => qualifiedSql table name
  | .literal value => value.sql
  | .binary left op right => left.sql ++ " " ++ op.sql ++ " " ++ right.sql
  | .unary op e => op.sql ++ " " ++ e.sql
  | .call function args => function.sqlName ++ "(" ++ commaList (exprTexts args) ++ ")"
  | .function name args distinct =>
    name ++ "(" ++ distinctSql distinct ++ commaList (exprTexts args) ++ ")"
  | .aggregate name args distinct filter =>
    name ++ "(" ++ distinctSql distinct ++ commaList (exprTexts args) ++ ")" ++
      optionText " FILTER (WHERE " ")" filter
  | .case operand whens otherwise =>
    "CASE" ++ optionText " " "" operand ++ whenTexts whens ++ optionText " ELSE " "" otherwise ++
      " END"
  | .subquery query => "(" ++ query.sql ++ ")"
  | .exists query => "EXISTS (" ++ query.sql ++ ")"
  | .inList e list negated =>
    e.sql ++ " " ++ notSql negated ++ "IN (" ++ commaList (exprTexts list) ++ ")"
  | .inSubquery e query negated =>
    e.sql ++ " " ++ notSql negated ++ "IN (" ++ query.sql ++ ")"
  | .between e low high negated =>
    e.sql ++ " " ++ notSql negated ++ "BETWEEN " ++ low.sql ++ " AND " ++ high.sql
  | .isNull e negated => e.sql ++ " IS " ++ notSql negated ++ "NULL"
  | .cast e dataType => "CAST(" ++ e.sql ++ " AS " ++ dataType ++ ")"
  | .wildcard => "*"
  | .parameter index => "$" ++ toString index
  | .nested e => "(" ++ e.sql ++ ")"

end

end LogicalSql
