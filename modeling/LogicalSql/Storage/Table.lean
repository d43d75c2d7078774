import LogicalSql.Text.Lower

/-! Stored tables: their columns, rows and the values in them. -/
namespace LogicalSql

inductive StorageError where
  | columnCount (table : String) (expected actual : Nat)
  | unexpectedValue (table column : String)
  | unknownColumn (table column : String)
  /-- The server refused a statement or could not take its values. -/
  | server
  deriving DecidableEq, Repr

def StorageError.message : StorageError → String
  | .columnCount table expected actual =>
    "table [" ++ table ++ "] has " ++ toString expected ++ " columns but a row has " ++
      toString actual ++ " values"
  | .unexpectedValue table column =>
    "unexpected value in column [" ++ column ++ "] of table [" ++ table ++ "]"
  | .unknownColumn table column =>
    "unknown column [" ++ column ++ "] of table [" ++ table ++ "]"
  | .server => "db error"

inductive ColumnType where
  | varchar (length : Nat)
  | text
  | int4
  deriving DecidableEq, Repr

namespace ColumnType

def ddl : ColumnType → String
  | .varchar length => "varchar(" ++ toString length ++ ")"
  | .text => "text"
  | .int4 => "int4"

/-- The name of the type without its length. -/
def baseName : ColumnType → String
  | .varchar _ => "varchar"
  | .text => "text"
  | .int4 => "int4"

def isText : ColumnType → Bool
  | .int4 => false
  | _ => true

end ColumnType

structure Column where
  name : String
  type : ColumnType
  deriving DecidableEq, Repr

inductive Value where
  | text (value : String)
  | integer (value : Int32)
  deriving DecidableEq, Repr

namespace Value

def text? : Value → Option String
  | .text s => some s
  | .integer _ => none

def integer? : Value → Option Int32
  | .integer n => some n
  | .text _ => none

/-- The equality of look-ups: texts ignore case, and a text never equals an integer. -/
def agrees : Value → Value → Bool
  | .text a, .text b => Text.lower a == Text.lower b
  | .integer a, .integer b => a == b
  | _, _ => false

end Value

abbrev Row := List Value

/-- A column name with the value looked for in it. -/
abbrev Key := String × Value

/-- No column may be null. -/
structure TableDesc where
  schema : String
  name : String
  columns : List Column
  /-- Key lists, each as it stands between the parentheses of `create index`. -/
  indexes : List String
  deriving DecidableEq, Repr

namespace TableDesc

def qualifiedName (desc : TableDesc) : String := desc.schema ++ "." ++ desc.name

def columnIndex (desc : TableDesc) (name : String) : Except StorageError Nat :=
  match desc.columns.findIdx? (·.name == name) with
  | some i => .ok i
  | none => .error (.unknownColumn desc.qualifiedName name)

def checkRow (desc : TableDesc) (row : Row) : Except StorageError Unit :=
  if row.length = desc.columns.length then .ok ()
  else .error (.columnCount desc.qualifiedName desc.columns.length row.length)

def checkRows (desc : TableDesc) (rows : List Row) : Except StorageError Unit :=
  rows.forM desc.checkRow

/-- The error for a value that cannot stand in the column at this position. -/
def unexpectedAt (desc : TableDesc) (i : Nat) : StorageError :=
  .unexpectedValue desc.qualifiedName ((desc.columns[i]?.map Column.name).getD "?")

def textAt (desc : TableDesc) (row : Row) (i : Nat) : Except StorageError String :=
  match row[i]?.bind Value.text? with
  | some s => .ok s
  | none => .error (desc.unexpectedAt i)

def integerAt (desc : TableDesc) (row : Row) (i : Nat) : Except StorageError Int32 :=
  match row[i]?.bind Value.integer? with
  | some n => .ok n
  | none => .error (desc.unexpectedAt i)

end TableDesc

end LogicalSql
