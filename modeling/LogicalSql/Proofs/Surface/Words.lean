import LogicalSql.Proofs.Surface.Names
import LogicalSql.Surface.Reader.DataType

/-! Words that mean something of their own where an operand, a table or a type stands. A name that
spells one of them there needs quotes. -/
namespace LogicalSql.Surface

/-- Words that begin a form of their own, in alphabetical order. -/
def formWords : List String := [
  "ARRAY", "CASE", "CURRENT_CATALOG", "CURRENT_DATE", "CURRENT_TIME", "CURRENT_TIMESTAMP",
  "CURRENT_USER", "EXISTS", "FALSE", "INTERVAL", "LOCALTIME", "LOCALTIMESTAMP", "NOT", "NULL",
  "SESSION_USER", "TRIM", "TRUE", "USER"]

/-- Words that begin a form of their own in front of a parenthesis, in alphabetical order. -/
def callWords : List String := [
  "CAST", "CEIL", "CONVERT", "EXTRACT", "FLOOR", "OVERLAY", "POSITION", "SAFE_CAST", "SUBSTRING",
  "TRY_CAST"]

/-- Words that are looked for in front of an operand, in alphabetical order. -/
def leadingWords : List String := [
  "ABSENT", "ALL", "ANY", "CUBE", "DISTINCT", "FROM", "GROUPING", "ON", "ROLLUP", "SELECT", "SOME",
  "TOP", "WHEN", "WITH"]

/-- Words that begin a type, in alphabetical order. -/
def typeWords : List String := [
  "ARRAY", "BIGDECIMAL", "BIGINT", "BIGNUMERIC", "BINARY", "BIT", "BLOB", "BOOL", "BOOLEAN",
  "BYTEA", "BYTES", "CHAR", "CHARACTER", "CLOB", "DATE", "DATE32", "DATETIME", "DATETIME64", "DEC",
  "DECIMAL", "DOUBLE", "ENUM", "ENUM16", "ENUM8", "FIXEDSTRING", "FLOAT", "FLOAT32", "FLOAT4",
  "FLOAT64", "FLOAT8", "INT", "INT128", "INT16", "INT2", "INT256", "INT32", "INT4", "INT64", "INT8",
  "INTEGER", "INTERVAL", "JSON", "JSONB", "LONGBLOB", "LONGTEXT", "MEDIUMBLOB", "MEDIUMINT",
  "MEDIUMTEXT", "NUMERIC", "NVARCHAR", "REAL", "REGCLASS", "SET", "SMALLINT", "STRING", "TEXT",
  "TIME", "TIMESTAMP", "TIMESTAMPTZ", "TIMETZ", "TINYBLOB", "TINYINT", "TINYTEXT", "TRIGGER",
  "UINT128", "UINT16", "UINT256", "UINT32", "UINT64", "UINT8", "UUID", "VARBINARY", "VARCHAR"]

/-- Words that begin a table of another kind, in alphabetical order. -/
def tableWords : List String := ["LATERAL", "TABLE", "UNNEST"]

/-- A name that needs no quotes where an operand begins. -/
def isOperandName (name : String) : Bool :=
  isWord name && !formWords.contains (Text.upper name) && !leadingWords.contains (Text.upper name)

/-- A name that needs no quotes where a table stands. -/
def isTableName (name : String) : Bool := isWord name && !tableWords.contains (Text.upper name)

/-! Names that are one text. Where their quotes are part of it, only the first part needs them for
its place. -/

/-- The first part begins no other form, and no word is looked for in its place. -/
def Ident.isOperand (i : Ident) : Bool := !i.spells formWords && !i.spells leadingWords

/-- A column without a qualifier: one word, or three or more of them. -/
def isColumnName : String → Bool :=
  isNameOf fun i is => i.isOperand && is.length != 1 && (i :: is).all (·.quote.isNone)

/-- The name in front of the star of all fields. -/
def isWildcardName : String → Bool := isNameOf fun i _ => !i.spells leadingWords

/-- A function, in front of its arguments. A type of one word takes none. -/
def isFunctionName : String → Bool :=
  isNameOf fun i is => i.isOperand && i.quote != some '\'' && !i.spells callWords &&
    (!is.isEmpty || !i.spells typeWords || i.spells (Reader.plainTypes.map (·.1)))

/-- A table without a schema: one word, or three or more parts. -/
def isTableText : String → Bool :=
  isNameOf fun i is => !i.spells tableWords && (is.isEmpty && i.quote.isNone || 2 ≤ is.length)

/-- A function in the place of a table, in front of its arguments. -/
def isTableFunctionName : String → Bool :=
  isNameOf fun i is => !i.spells tableWords && (!is.isEmpty || !i.spells ["JSON_TABLE", "OPENJSON"])

/-- A name of one part. -/
def isPartName : String → Bool := isNameOf fun _ is => is.isEmpty

/-- Lists in alphabetical order are compared in one pass. -/
theorem isSublist_keywords :
    [formWords, callWords, leadingWords, typeWords].all (·.isSublist keywords) = true := by
  decide +kernel

theorem subset_keywords {words : List String}
    (h : words ∈ [formWords, callWords, leadingWords, typeWords]) :
    words ⊆ keywords :=
  (List.isSublist_iff_sublist.1 (List.all_eq_true.1 isSublist_keywords words h)).subset

theorem formWords_subset : formWords ⊆ keywords :=
  subset_keywords (.head _)

theorem callWords_subset : callWords ⊆ keywords :=
  subset_keywords (.tail _ (.head _))

theorem leadingWords_subset : leadingWords ⊆ keywords :=
  subset_keywords (.tail _ (.tail _ (.head _)))

theorem typeWords_subset : typeWords ⊆ keywords :=
  subset_keywords (.tail _ (.tail _ (.tail _ (.head _))))

theorem isOperandName_iff {name : String} : isOperandName name = true ↔
    isWord name = true ∧ Text.upper name ∉ formWords ∧ Text.upper name ∉ leadingWords := by
  simp [isOperandName, and_assoc]

theorem isColumnName_of_isOperandName {name : String} (h : isOperandName name = true) :
    isColumnName name = true := by
  obtain ⟨hword, hform, hleading⟩ := isOperandName_iff.1 h
  refine isNameOf_of_isWord hword ?_
  simp [Ident.isOperand, Ident.spells, hform, hleading]

end LogicalSql.Surface
