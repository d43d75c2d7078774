import LogicalSql.Mapping.Error
import LogicalSql.Query.Function
import LogicalSql.Query.ParseError

/-! Why a query cannot be lowered. -/
namespace LogicalSql

inductive LoweringError where
  | argumentCount (function : LogicalFunction) (expected : List Nat) (actual : Nat)
  | literalRequired (function : LogicalFunction) (arguments : String)
  | invalidDate (components : List Int)
  | columnReferenceRequired (function : LogicalFunction)
  | unresolvedTable (column : String)
  | unsupportedTable (column : String)
  | unmappedTable (table column : String)
  | nestedTableUnmapped (nested column : String)
  | nonReferenceColumn (column : String)
  | unresolvedColumn (column : String)
  | missingUnionField (column : String)
  | ambiguousUnionField (column : String)
  | unionFieldNotColumn (column : String)
  | unionDepthExceeded (column : String) (limit : Nat)
  | unsupportedSubquery (column : String)
  | mapping (error : MappingError)
  | parse (error : ParseError)
  deriving DecidableEq, Repr

def expectedCounts : List Nat → String
  | [n] => "exactly [" ++ toString n ++ "]"
  | counts => " or ".intercalate (counts.map fun n => "[" ++ toString n ++ "]")

def LoweringError.message : LoweringError → String
  | .argumentCount function expected actual =>
    "[" ++ function.label ++ "] function expected to have " ++ expectedCounts expected ++
      " arguments but was [" ++ toString actual ++ "]"
  | .literalRequired function arguments =>
    "expected " ++ function.label ++ " function parameters to be integer literals, but was [" ++
      arguments ++ "]"
  | .invalidDate components =>
    "invalid date components [" ++ ",".intercalate (components.map toString) ++ "]"
  | .columnReferenceRequired function =>
    "[" ++ function.label ++ "] function expected to have column reference as an argument"
  | .unresolvedTable column => "can't find table for column reference [" ++ column ++ "]"
  | .unsupportedTable column =>
    "[TypeIdentifier] function not supported for table function column reference [" ++ column ++ "]"
  | .unmappedTable table column =>
    "can't find mapping for table [" ++ table ++ "] in column reference [" ++ column ++
      "] for function [TypeIdentifier]"
  | .nestedTableUnmapped nested column =>
    "can't find indexed mapping for [" ++ nested ++ "] following column reference [" ++ column ++
      "] for function [TypeIdentifier]"
  | .nonReferenceColumn column =>
    "[TypeIdentifier] function not supported for non-reference columns, [" ++ column ++ "]"
  | .unresolvedColumn column =>
    "could not find columns [" ++ column ++ "] for function [TypeIdentifier]"
  | .missingUnionField column => "can't find field [" ++ column ++ "] in union branch"
  | .ambiguousUnionField column =>
    "field [" ++ column ++ "] matches more than one field of a union branch"
  | .unionFieldNotColumn column =>
    "field [" ++ column ++ "] of union branch is not a column reference"
  | .unionDepthExceeded column limit =>
    "derived tables behind [" ++ column ++ "] are nested deeper than " ++ toString limit ++
      " levels"
  | .unsupportedSubquery column => "derived table behind [" ++ column ++ "] is not a SELECT"
  | .mapping error => error.message
  | .parse error => error.message

end LogicalSql
