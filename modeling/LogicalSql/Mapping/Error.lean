import LogicalSql.Storage.Table

/-! What can be wrong with mappings. -/
namespace LogicalSql

inductive NameKind where
  | logical
  | physical
  deriving DecidableEq, Repr

def NameKind.word : NameKind → String
  | .logical => "logical"
  | .physical => "physical"

inductive MappingError where
  | storage (error : StorageError)
  | malformedProperty (table text : String)
  | unknownTableType (name : String)
  | notLoaded (table : String)
  | duplicateName (kind : NameKind) (name : String)
  | unknownNestedTable (table property nested : String)
  | missingIndex (table : String)
  | indexMismatch (table : String) (index : Int32) (physicalName : String)
  deriving DecidableEq, Repr

def MappingError.message : MappingError → String
  | .storage error => error.message
  | .malformedProperty table text =>
    "invalid property mapping [" ++ text ++ "] of table [" ++ table ++ "]"
  | .unknownTableType name => "unknown table type [" ++ name ++ "]"
  | .notLoaded table =>
    "mapping for table [" ++ table ++ "] was not loaded before translation"
  | .duplicateName kind name => "duplicate " ++ kind.word ++ " table name [" ++ name ++ "]"
  | .unknownNestedTable table property nested =>
    "property [" ++ property ++ "] of table [" ++ table ++ "] references unknown table [" ++
      nested ++ "]"
  | .missingIndex table =>
    "table [" ++ table ++ "] is a reference target but has no type index"
  | .indexMismatch table index physicalName =>
    "type index [" ++ toString index.toInt ++ "] of table [" ++ table ++
      "] is not encoded in its physical name [" ++ physicalName ++ "]"

end LogicalSql
