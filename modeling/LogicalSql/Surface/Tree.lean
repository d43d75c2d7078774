import LogicalSql.Query.Basic
import LogicalSql.Surface.Token

/-! SQL statements as they are written. What the query language has no place for is kept as it is
shown. -/
namespace LogicalSql.Surface

/-- Two ways to show one part of a statement: as normalized text, and as the outline of its own parts
that a message lists. -/
structure Shown where
  text : String
  outline : String
  deriving DecidableEq, Repr

/-- A name. The extent is no part of what it names. -/
structure Ident where
  text : String
  quote : Option Char
  extent : Extent
  deriving DecidableEq, Repr

/-- A name of one or more parts. -/
abbrev ObjectName := List Ident

inductive Constant where
  | null
  | boolean (value : Bool)
  | number (digits : String) (long : Bool)
  | string (text : String)
  | placeholder (text : String)
  | styled (style : StringStyle) (text : String)
  | doubleQuoted (text : String)
  deriving DecidableEq, Repr

/-- An operator between two operands. Those that queries do not have go by a name. -/
inductive Operator where
  | known (op : BinaryOp)
  | other (symbol name : String)
  /-- A run of operator characters. -/
  | custom (symbol : String)
  /-- An operator in its schema. -/
  | qualified (parts : List String)
  deriving DecidableEq, Repr

inductive SignOperator where
  | known (op : UnaryOp)
  | before (symbol name : String)
  | after (symbol name : String)
  deriving DecidableEq, Repr

inductive CharacterLength where
  | max
  | count (n : Nat) (unit : Option String)
  deriving DecidableEq, Repr

inductive ZoneMark where
  | unsaid
  | aware
  | unaware
  /-- Part of the type's name. -/
  | short
  deriving DecidableEq, Repr

/-- A member of an enumeration, with the sign and the digits of its number. -/
structure EnumMember where
  name : String
  value : Option (Option UnaryOp × Constant)
  deriving DecidableEq, Repr

/-- A data type: how it is shown, the name it goes by, and what may stand behind it. -/
inductive DataType where
  | plain (shown name : String)
  | sized (shown name : String) (size : Option Nat)
  | unsigned (shown name : String) (size : Option Nat)
  | characters (shown name : String) (length : Option CharacterLength)
  | exact (shown name : String) (size : Option (Nat × Option Nat))
  | time (shown name : String) (precision : Option Nat) (zone : ZoneMark)
  | zonedTime (precision : Nat) (zone : Option String)
  | fixedString (length : Nat)
  | enumeration (members : List EnumMember) (bits : Option Nat)
  | set (values : List String)
  | angleArray (element : DataType)
  | array (element : DataType) (size : Option Nat)
  | custom (name : ObjectName) (modifiers : List String)
  deriving Repr

inductive CastStyle where
  | call (word name : String)
  | colons
  deriving DecidableEq, Repr

inductive SetQuantifier where
  | none
  | all
  | distinct
  | byName
  | allByName
  | distinctByName
  deriving DecidableEq, Repr

structure TableAlias where
  name : Ident
  columns : List (Ident × Option DataType)
  deriving Repr

inductive Materialized where
  | unsaid
  | yes
  | no
  deriving DecidableEq, Repr

mutual

structure Query where
  withClause : Option WithClause
  body : Body
  orderBy : List OrderItem
  limit : Option Expr
  offset : Option Expr
  /-- `ROW` or `ROWS` behind the offset. -/
  offsetRows : Option String
  fetch : Option Shown
  locks : List Shown
  /-- What the rows are read for. -/
  purpose : Option Shown

structure WithClause where
  opening : Lexeme
  recursive : Bool
  ctes : List Cte

structure Cte where
  aliasName : TableAlias
  materialized : Materialized
  query : Query
  source : Option Ident
  closing : Lexeme

inductive Body where
  | select (select : Select)
  | query (query : Query)
  | setOperation (left : Body) (op : SetOperator) (quantifier : SetQuantifier) (right : Body)
  | other (shown : Shown)

structure Select where
  opening : Lexeme
  distinct : Option Shown
  top : Option Shown
  projection : List Item
  into : Option Shown
  sources : List TableItem
  lateralViews : List Shown
  filter : Option Expr
  /-- `GROUP BY ALL` -/
  groupAll : Bool
  groupBy : List Expr
  clusterBy : List Expr
  distributeBy : List Expr
  sortBy : List Expr
  having : Option Expr
  windows : List Shown
  qualify : Option Expr
  /-- The windows stand in front of the condition on them. -/
  windowsFirst : Bool

inductive Item where
  | expr (expr : Expr) (aliasName : Option Ident)
  | wildcard (extent : Extent)
  | wildcardOf (name : ObjectName) (extent : Extent)

structure OrderItem where
  expr : Expr
  ascending : Option Bool
  nullsFirst : Option Bool

structure TableItem where
  factor : TableFactor
  joins : List Join

inductive TableFactor where
  | table (name : ObjectName) (args : Option (List Argument)) (ordinality : Bool)
      (aliasName : Option TableAlias) (hints : List Expr)
  | derived (lateral : Bool) (query : Query) (aliasName : Option TableAlias)
  | function (expr : Expr) (aliasName : Option TableAlias)
  | nestedJoin (item : TableItem) (aliasName : Option TableAlias)
  | other (shown : Shown)

structure Join where
  isGlobal : Bool
  operator : JoinOperator
  factor : TableFactor
  constraint : Constraint

/-- A join by its kind. Those that queries do not have go by a name. -/
inductive JoinOperator where
  | known (kind : JoinKind)
  | other (keyword name : String)
  /-- A join that no constraint follows. -/
  | free (keyword name : String)
  | asOf (condition : Expr)

inductive Constraint where
  | none
  | natural
  | on (expr : Expr)
  | using (columns : List Ident)

inductive Expr where
  | identifier (ident : Ident)
  | compound (parts : List Ident)
  | constant (value : Constant)
  | binary (left : Expr) (op : Operator) (right : Expr)
  | unary (op : SignOperator) (expr : Expr)
  | function (call : Call)
  | substring (expr : Expr) (start : Option Expr) (length : Option Expr) (commas : Bool)
  | case (operand : Option Expr) (whens : List (Expr × Expr)) (otherwise : Option Expr)
  | subquery (query : Query)
  | exists (query : Query) (negated : Bool)
  | inList (expr : Expr) (list : List Expr) (negated : Bool)
  | inSubquery (expr : Expr) (query : Query) (negated : Bool)
  | between (expr : Expr) (low : Expr) (high : Expr) (negated : Bool)
  | isNull (expr : Expr) (negated : Bool)
  | cast (style : CastStyle) (expr : Expr) (dataType : DataType) (format : Option Shown)
  | nested (expr : Expr)
  | like (expr : Expr) (pattern : Expr) (ignoreCase : Bool) (negated : Bool) (any : Bool)
      (escape : Option String)
  | wildcardOf (name : ObjectName) (extent : Extent)
  | other (shown : Shown)

/-- A call of a function with the clauses behind its arguments. -/
structure Call where
  name : ObjectName
  /-- Written in braces. -/
  braces : Bool
  args : Arguments
  withinGroup : List OrderItem
  filter : Option Expr
  nulls : Option Shown
  window : Option Shown

inductive Arguments where
  | none
  /-- `distinct` is false for `ALL`. -/
  | list (distinct : Option Bool) (args : List Argument) (clauses : List Shown)
  | subquery (query : Query)

inductive Argument where
  | expr (expr : Expr)
  | wildcard (extent : Extent)
  | wildcardOf (name : ObjectName) (extent : Extent)
  /-- An argument behind its name and an operator, which goes by a name of its own. -/
  | named (name : Expr) (symbol operator : String) (value : Argument)

end

inductive Statement where
  | query (query : Query)
  | other (text : String)

instance : Inhabited Expr := ⟨.constant .null⟩

end LogicalSql.Surface
