import LogicalSql.Query.Function

/-! Queries over table sources, with their expressions. -/
namespace LogicalSql

inductive BinaryOp where
  | eq | notEq | lt | ltEq | gt | gtEq
  | and | or
  | plus | minus | multiply | divide | modulo
  | like | iLike | notLike | notILike
  | concat
  deriving DecidableEq, Repr

inductive UnaryOp where
  | not | minus | plus
  deriving DecidableEq, Repr

inductive JoinKind where
  | inner | left | right | full | cross
  deriving DecidableEq, Repr

inductive SetOperator where
  | union | intersect | except
  deriving DecidableEq, Repr

inductive Literal where
  | null
  | boolean (value : Bool)
  | integer (value : Int)
  | float (value : Float)
  | string (value : String)
  | binary (bytes : List UInt8)

mutual

inductive Query where
  | select (select : Select)
  | withCtes (recursive : Bool) (ctes : List Cte) (body : Query)
  /-- A statement that is passed on as it stands. -/
  | raw (text : String)

structure Cte where
  name : String
  columns : List String
  query : Query

/-- `order`, `limit` and `offset` apply to the whole chain of set operations that starts here. -/
structure Select where
  distinct : Bool := false
  projections : List SelectItem := []
  sources : List Source := []
  joins : List Join := []
  filter : Option Expr := none
  groupBy : List Expr := []
  having : Option Expr := none
  orderBy : List OrderItem := []
  limit : Option Expr := none
  offset : Option Expr := none
  setOperation : Option SetOperation := none

structure SetOperation where
  op : SetOperator
  all : Bool
  right : Query

inductive SelectItem where
  | wildcard
  | wildcardOf (table : String)
  | expr (expr : Expr) (aliasName : Option String)

structure OrderItem where
  expr : Expr
  ascending : Option Bool
  nullsFirst : Option Bool

inductive Source where
  | table (schema : Option String) (name : String) (aliasName : Option String)
  | subquery (query : Query) (aliasName : String)
  | function (name : String) (args : List Expr) (aliasName : Option String)

structure Join where
  kind : JoinKind
  source : Source
  condition : Option JoinCondition

inductive JoinCondition where
  | on (expr : Expr)
  | using (columns : List String)
  | natural

inductive Expr where
  | column (table : Option String) (name : String)
  | literal (value : Literal)
  | binary (left : Expr) (op : BinaryOp) (right : Expr)
  | unary (op : UnaryOp) (expr : Expr)
  | call (function : LogicalFunction) (args : List Expr)
  | function (name : String) (args : List Expr) (distinct : Bool)
  | aggregate (name : String) (args : List Expr) (distinct : Bool) (filter : Option Expr)
  | case (operand : Option Expr) (whens : List (Expr × Expr)) (otherwise : Option Expr)
  | subquery (query : Query)
  | exists (query : Query)
  | inList (expr : Expr) (list : List Expr) (negated : Bool)
  | inSubquery (expr : Expr) (query : Query) (negated : Bool)
  | between (expr : Expr) (low : Expr) (high : Expr) (negated : Bool)
  | isNull (expr : Expr) (negated : Bool)
  | cast (expr : Expr) (dataType : String)
  | wildcard
  | parameter (index : Nat)
  /-- An expression in parentheses. The printer adds none of its own. -/
  | nested (expr : Expr)

end

instance : Inhabited Query := ⟨.raw ""⟩

instance : Inhabited Expr := ⟨.wildcard⟩

namespace Expr

def string (value : String) : Expr := .literal (.string value)

def integer (value : Int) : Expr := .literal (.integer value)

end Expr

/-- Two hundred fifty-six values a byte, the most significant first. -/
def Literal.typeIndex (index : Int32) : Literal :=
  let word := index.toUInt32
  .binary [(word >>> 24).toUInt8, (word >>> 16).toUInt8, (word >>> 8).toUInt8, word.toUInt8]

/-- The name that a column qualifier must use to mean this source. -/
def Source.bindingName : Source → Option String
  | .table _ name aliasName => some (aliasName.getD name)
  | .subquery _ aliasName => some aliasName
  | .function _ _ aliasName => aliasName

end LogicalSql
