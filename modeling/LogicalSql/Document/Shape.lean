import LogicalSql.Decimal.Floating
import LogicalSql.Text.Visible

/-! How a value in a document can differ from what is expected of it. -/
namespace LogicalSql

/-- A value as it is named in a message. -/
inductive Found where
  | null
  | boolean (value : Bool)
  | integer (value : Int)
  | float (value : Float)
  | string (value : String)
  | sequence
  | map

def inTicks (s : String) : String :=
  let tick := String.singleton (Char.ofNat 0x60)
  tick ++ s ++ tick

def Found.describe (floatText : Float → String) : Found → String
  | .null => "null"
  | .boolean b => "boolean " ++ inTicks (if b then "true" else "false")
  | .integer n => "integer " ++ inTicks (toString n)
  | .float x => "floating point " ++ inTicks (floatText x)
  | .string s => "string " ++ Text.report s
  | .sequence => "sequence"
  | .map => "map"

inductive ShapeError where
  | wrongType (found : Found) (expected : String)
  | outOfRange (value : Int) (expected : String)
  | missing (field : String)
  | repeated (field : String)
  | unknownVariant (name : String) (variants : List String)
  | tooShort (length : Nat) (expected : String)
  | other (text : String)

/-- Two variants are joined by a word, more are listed. -/
def variantList : List String → String
  | [a] => inTicks a
  | [a, b] => inTicks a ++ " or " ++ inTicks b
  | variants => "one of " ++ ", ".intercalate (variants.map inTicks)

def ShapeError.message (floatText : Float → String) : ShapeError → String
  | .wrongType found expected =>
    "invalid type: " ++ found.describe floatText ++ ", expected " ++ expected
  | .outOfRange value expected =>
    "invalid value: integer " ++ inTicks (toString value) ++ ", expected " ++ expected
  | .missing field => "missing field " ++ inTicks field
  | .repeated field => "duplicate field " ++ inTicks field
  | .unknownVariant name variants =>
    "unknown variant " ++ inTicks name ++ ", expected " ++ variantList variants
  | .tooShort length expected =>
    "invalid length " ++ toString length ++ ", expected " ++ expected
  | .other text => text

end LogicalSql
