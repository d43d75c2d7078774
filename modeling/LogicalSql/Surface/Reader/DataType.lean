import LogicalSql.Surface.Reader.Basic

/-! Data types. -/
namespace LogicalSql.Surface.Reader

/-- Types that are one keyword: how each is shown and the name it goes by. -/
def plainTypes : List (String × String × String) := [
  ("BOOLEAN", "BOOLEAN", "Boolean"), ("BOOL", "BOOL", "Bool"), ("REAL", "REAL", "Real"),
  ("FLOAT4", "FLOAT4", "Float4"), ("FLOAT8", "FLOAT8", "Float8"), ("FLOAT32", "Float32", "Float32"),
  ("FLOAT64", "FLOAT64", "Float64"), ("INT16", "Int16", "Int16"), ("INT32", "Int32", "Int32"),
  ("INT64", "INT64", "Int64"), ("INT128", "Int128", "Int128"), ("INT256", "Int256", "Int256"),
  ("UINT8", "UInt8", "UInt8"), ("UINT16", "UInt16", "UInt16"), ("UINT32", "UInt32", "UInt32"),
  ("UINT64", "UInt64", "UInt64"), ("UINT128", "UInt128", "UInt128"),
  ("UINT256", "UInt256", "UInt256"), ("TINYBLOB", "TINYBLOB", "TinyBlob"),
  ("MEDIUMBLOB", "MEDIUMBLOB", "MediumBlob"), ("LONGBLOB", "LONGBLOB", "LongBlob"),
  ("UUID", "UUID", "Uuid"), ("DATE", "DATE", "Date"), ("DATE32", "Date32", "Date32"),
  ("INTERVAL", "INTERVAL", "Interval"), ("JSON", "JSON", "JSON"), ("JSONB", "JSONB", "JSONB"),
  ("REGCLASS", "REGCLASS", "Regclass"), ("TEXT", "TEXT", "Text"),
  ("TINYTEXT", "TINYTEXT", "TinyText"), ("MEDIUMTEXT", "MEDIUMTEXT", "MediumText"),
  ("LONGTEXT", "LONGTEXT", "LongText"), ("BYTEA", "BYTEA", "Bytea"),
  ("TRIGGER", "TRIGGER", "Trigger")]

/-- Types with an optional length, with the names they go by. -/
def lengthTypes : List (String × String) := [
  ("FLOAT", "Float"), ("CLOB", "Clob"), ("BINARY", "Binary"), ("VARBINARY", "Varbinary"),
  ("BLOB", "Blob"), ("BYTES", "Bytes"), ("DATETIME", "Datetime"), ("STRING", "String")]

/-- Types with an optional length that may have no sign. -/
def integerTypes : List (String × String) := [
  ("TINYINT", "TinyInt"), ("INT2", "Int2"), ("SMALLINT", "SmallInt"), ("MEDIUMINT", "MediumInt"),
  ("INT", "Int"), ("INT4", "Int4"), ("INT8", "Int8"), ("INTEGER", "Integer"), ("BIGINT", "BigInt")]

def numericTypes : List (String × String) := [
  ("NUMERIC", "Numeric"), ("DECIMAL", "Decimal"), ("DEC", "Dec"), ("BIGNUMERIC", "BigNumeric"),
  ("BIGDECIMAL", "BigDecimal")]

def size? : Reader (Option Nat) := do
  if ← symbol "(" then
    let n ← natural
    expectSymbol ")"
    return some n
  else return none

def characterLength? : Reader (Option CharacterLength) := do
  if ← symbol "(" then
    let length ← if ← keyword "MAX" then pure CharacterLength.max else do
      let n ← natural
      pure (.count n (← oneOf? ["CHARACTERS", "OCTETS"]))
    expectSymbol ")"
    return some length
  else return none

def precisionScale? : Reader (Option (Nat × Option Nat)) := do
  if ← symbol "(" then
    let precision ← natural
    let scale ← option (symbol ",") natural
    expectSymbol ")"
    return some (precision, scale)
  else return none

/-- `CHAR` and `CHARACTER` with the words that may follow. -/
def characterType (word name : String) : Reader DataType := do
  if ← keyword "VARYING" then
    return .characters (word ++ " VARYING") (name ++ "Varying") (← characterLength?)
  else if ← keywords ["LARGE", "OBJECT"] then
    return .sized (word ++ " LARGE OBJECT") (name ++ "LargeObject") (← size?)
  else return .characters word name (← characterLength?)

/-- `TIME` and `TIMESTAMP` with precision and time zone. -/
def timeType (word name : String) : Reader DataType := do
  let precision ← size?
  match ← oneOf? ["WITH", "WITHOUT"] with
  | some sign =>
    expectKeywords ["TIME", "ZONE"]
    return .time word name precision (if sign = "WITH" then .aware else .unaware)
  | none => return .time word name precision .unsaid

def enumMember : Reader EnumMember := do
  let name ← literalString
  if ← symbol "=" then
    let sign ← do
      if ← symbol "+" then pure (some UnaryOp.plus)
      else if ← symbol "-" then pure (some UnaryOp.minus)
      else pure none
    return ⟨name, some (sign, ← numberValue)⟩
  else return ⟨name, none⟩

def enumeration (bits : Option Nat) : Reader DataType :=
  return .enumeration (← parenthesized (commaSeparated enumMember)) bits

def setMember : Reader String := do
  match ← next with
  | .string text => return text
  | _ => fail

def zonedTime : Reader DataType := parenthesized do
  let precision ← natural
  return .zonedTime precision (← option (symbol ",") literalString)

def typeModifiers : Nat → Reader (List String)
  | 0 => fail
  | n + 1 => do
    let t ← next
    match t with
    | .word _ _ => return t.show :: (← typeModifiers n)
    | .number digits _ => return digits :: (← typeModifiers n)
    | .string text => return text :: (← typeModifiers n)
    | .symbol "," => typeModifiers n
    | .symbol ")" => return []
    | _ => fail

/-- A type of another name, with its modifiers. -/
def customType : Reader DataType := do
  let name ← objectName
  if ← symbol "(" then return .custom name (← typeModifiers ((← get).length + 1))
  else return .custom name []

/-- The size of an array in its brackets, if one stands next. -/
def arraySize? : Reader (Option (Option Nat)) := do
  if ← symbol "[" then
    let size ← attempt natural
    expectSymbol "]"
    return some size
  else return none

/-- The sizes of arrays behind a type. -/
def arraySizes : Reader (List (Option Nat)) := many arraySize?

/-- The type that a keyword begins, if it begins one. -/
def keywordType? (word : String) : Reader (Option DataType) := do
  match plainTypes.lookup word, lengthTypes.lookup word, integerTypes.lookup word,
    numericTypes.lookup word with
  | some (shown, name), _, _, _ => return some (.plain shown name)
  | _, some name, _, _ => return some (.sized word name (← size?))
  | _, _, some name, _ =>
    let size ← size?
    if ← keyword "UNSIGNED" then return some (.unsigned word name size)
    else return some (.sized word name size)
  | _, _, _, some name => return some (.exact word name (← precisionScale?))
  | _, _, _, _ =>
    match word with
    | "DOUBLE" =>
      if ← keyword "PRECISION" then return some (.plain "DOUBLE PRECISION" "DoublePrecision")
      else return some (.plain "DOUBLE" "Double")
    | "VARCHAR" => return some (.characters word "Varchar" (← characterLength?))
    | "NVARCHAR" => return some (.characters word "Nvarchar" (← characterLength?))
    | "CHAR" => return some (← characterType word "Char")
    | "CHARACTER" => return some (← characterType word "Character")
    | "BIT" =>
      if ← keyword "VARYING" then return some (.sized "BIT VARYING" "BitVarying" (← size?))
      else return some (.sized "BIT" "Bit" (← size?))
    | "TIMESTAMP" => return some (← timeType word "Timestamp")
    | "TIME" => return some (← timeType word "Time")
    | "TIMESTAMPTZ" => return some (.time "TIMESTAMP" "Timestamp" (← size?) .short)
    | "TIMETZ" => return some (.time "TIME" "Time" (← size?) .short)
    | "DATETIME64" => return some (← zonedTime)
    | "FIXEDSTRING" => return some (.fixedString (← parenthesized natural))
    | "ENUM" => return some (← enumeration none)
    | "ENUM8" => return some (← enumeration (some 8))
    | "ENUM16" => return some (← enumeration (some 16))
    | "SET" => return some (.set (← parenthesized (commaSeparated setMember)))
    | _ => return none

/-- A type, and whether the two brackets behind it closed another type too. -/
structure ClosedType where
  type : DataType
  closed : Bool

/-- An array whose element type goes to `inner`. -/
def angleArray (inner : Reader ClosedType) : Reader ClosedType := do
  expectSymbol "<"
  let element ← inner
  let type := DataType.angleArray element.type
  if element.closed then return ⟨type, false⟩
  else if ← symbol ">>" then return ⟨type, true⟩
  else
    expectSymbol ">"
    return ⟨type, false⟩

/-- A type with its array sizes. Element types of arrays go to `inner`. -/
def typeWith (inner : Reader ClosedType) : Reader ClosedType := do
  let ls ← get
  match ← next with
  | .word text quote =>
    let word := (Token.word text quote).keyword?.getD ""
    let base ← if word = "ARRAY" then angleArray inner else
      match ← keywordType? word with
      | some type => pure ⟨type, false⟩
      | none => do
        set ls
        pure ⟨← customType, false⟩
    return ⟨(← arraySizes).foldl DataType.array base.type, base.closed⟩
  | _ => fail

def nestedType : Nat → Reader ClosedType
  | 0 => fail
  | n + 1 => typeWith (nestedType n)

/-- A data type. Each element type stands behind a token, so tokens bound the nesting. -/
def dataType : Reader DataType := do
  let t ← nestedType ((← get).length + 1)
  if t.closed then fail else return t.type

end LogicalSql.Surface.Reader
