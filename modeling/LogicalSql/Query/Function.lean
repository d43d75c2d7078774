import LogicalSql.Text.Upper

/-! The functions of the logical query language, and the SQL functions they are lowered to. -/
namespace LogicalSql

inductive LogicalFunction where
  | dateTime
  | year
  | quarter
  | presentation
  | isNull
  | substring
  | dateTrunc
  | datePart
  | typeIdentifier
  deriving DecidableEq, Repr

namespace LogicalFunction

def ofUpperName? : String → Option LogicalFunction
  | "DATETIME" => some .dateTime
  | "YEAR" => some .year
  | "QUARTER" => some .quarter
  | "PRESENTATION" => some .presentation
  | "ISNULL" => some .isNull
  | "SUBSTRING" => some .substring
  | "BEGINOFPERIOD" => some .dateTrunc
  | "TYPEIDENTIFIER" => some .typeIdentifier
  | _ => none

/-- Names ignore case. No name gives `datePart`, which only lowering produces. -/
def ofName? (name : String) : Option LogicalFunction := ofUpperName? (Text.upper name)

/-- The name a call is printed with. -/
def sqlName : LogicalFunction → String
  | .dateTime => "DATETIME"
  | .year => "YEAR"
  | .quarter => "QUARTER"
  | .presentation => "PRESENTATION"
  | .isNull => "ISNULL"
  | .substring => "substring"
  | .dateTrunc => "date_trunc"
  | .datePart => "date_part"
  | .typeIdentifier => "TYPEIDENTIFIER"

/-- The name that error messages show. -/
def label : LogicalFunction → String
  | .dateTime => "DateTime"
  | .year => "Year"
  | .quarter => "Quarter"
  | .presentation => "Presentation"
  | .isNull => "IsNull"
  | .substring => "Substring"
  | .dateTrunc => "SqlDateTrunc"
  | .datePart => "SqlDatePart"
  | .typeIdentifier => "TypeIdentifier"

end LogicalFunction

end LogicalSql
