import LogicalSql.Mapping.Error
import LogicalSql.Mapping.Property
import LogicalSql.Text.Digits

/-! Logical tables and enumerations, tied to their physical names. -/
namespace LogicalSql

inductive TableType where
  | catalog
  | document
  | enumeration
  | chartOfCharacteristicTypes
  | chartOfAccounts
  | informationRegister
  | accumulationRegister
  | accountingRegister
  | tableSection
  | constant
  deriving DecidableEq, Repr

namespace TableType

def all : List TableType :=
  [.catalog, .document, .enumeration, .chartOfCharacteristicTypes, .chartOfAccounts,
    .informationRegister, .accumulationRegister, .accountingRegister, .tableSection, .constant]

def name : TableType → String
  | .catalog => "Catalog"
  | .document => "Document"
  | .enumeration => "Enum"
  | .chartOfCharacteristicTypes => "ChartOfCharacteristicTypes"
  | .chartOfAccounts => "ChartOfAccounts"
  | .informationRegister => "InformationRegister"
  | .accumulationRegister => "AccumulationRegister"
  | .accountingRegister => "AccountingRegister"
  | .tableSection => "TableSection"
  | .constant => "Constant"

/-- Case is told apart. -/
def ofExactName? (s : String) : Option TableType := all.find? (·.name == s)

/-- ASCII letters ignore case. -/
def ofName (s : String) : Except MappingError TableType :=
  match all.find? (·.name.map Char.toLower == s.map Char.toLower) with
  | some t => .ok t
  | none => .error (.unknownTableType s)

end TableType

/-- The digits at the end of a text. -/
def trailingDigits (cs : List Char) : List Char := (cs.reverse.takeWhile Char.isDigit).reverse

/-- The type index that a physical name ends with, such as 5 in `_Reference5`. -/
def typeIndex? (physicalName : String) : Option Int32 :=
  let digits := trailingDigits physicalName.toList
  if digits.isEmpty ∨ 0x80000000 ≤ Text.digitsValue digits then none
  else some (Int32.ofNat (Text.digitsValue digits))

structure TableMapping where
  logicalName : String
  physicalName : String
  type : TableType
  properties : List PropertyMapping := []
  index : Option Int32 := none
  deriving DecidableEq, Repr

namespace TableMapping

/-- Names that differ only in case have the same key. -/
def logicalKey (t : TableMapping) : String := Text.lower t.logicalName

def physicalKey (t : TableMapping) : String := Text.lower t.physicalName

/-- Only the physical name is stored, so an index must be the one it ends with. -/
def storedIndex (t : TableMapping) : Except MappingError (Option Int32) :=
  match t.index with
  | some index =>
    if typeIndex? t.physicalName = some index then .ok (some index)
    else .error (.indexMismatch t.logicalName index t.physicalName)
  | none => .ok (typeIndex? t.physicalName)

def checkProperties (t : TableMapping) : Except MappingError Unit :=
  match t.properties.find? (!·.isStorable) with
  | some p => .error (.malformedProperty t.logicalName p.text)
  | none => .ok ()

/-- Names ignore case. -/
def findProperty? (t : TableMapping) (name : String) : Option PropertyMapping :=
  t.properties.find? fun p => Text.lower p.name == Text.lower name

/-- The logical tables that its properties always refer to. -/
def targets (t : TableMapping) : List String := t.properties.filterMap (·.layout.target?)

end TableMapping

/-- One property a line. -/
def propertiesText (properties : List PropertyMapping) : String :=
  "\n".intercalate (properties.map PropertyMapping.text)

def isBlankLine (line : String) : Bool := (Text.trim line).isEmpty

def parseProperty (table line : String) : Except MappingError PropertyMapping :=
  match PropertyMapping.parse? line with
  | some p => .ok p
  | none => .error (.malformedProperty table line)

/-- Blank lines are skipped. -/
def parseProperties (table text : String) : Except MappingError (List PropertyMapping) :=
  ((Text.lines text).filter (!isBlankLine ·)).mapM (parseProperty table)

structure EnumMapping where
  enumName : String
  valueName : String
  orderIndex : Int32
  deriving DecidableEq, Repr

end LogicalSql
