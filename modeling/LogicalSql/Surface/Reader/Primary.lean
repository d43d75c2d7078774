import LogicalSql.Surface.Reader.Function

/-! Expressions before any operator. -/
namespace LogicalSql.Surface.Reader

open Outline

variable (L : Level)

/-- Binding strengths of the operators that stand in front of their operand. -/
def productStrength : Nat := 90
def sumStrength : Nat := 80
def rangeStrength : Nat := 60
def notStrength : Nat := 30

/-- A type and a string, which is a constant of that type. -/
def typedString : Reader Expr := do
  match ← dataType with
  | .plain "INTERVAL" _ => interval L
  | .custom _ _ => fail
  | type =>
    let text ← literalString
    return .other ⟨type.show ++ " " ++ showQuoted '\'' text,
      record "TypedString" [("data_type", type.outline), ("value", Text.report text)]⟩

def peekQuery : Reader Bool := return (← peekKeyword "SELECT") || (← peekKeyword "WITH")

def whens : Nat → Reader (List (Expr × Expr))
  | 0 => fail
  | n + 1 => do
    let condition ← L.anyExpr
    expectKeyword "THEN"
    let result ← L.anyExpr
    if ← keyword "WHEN" then return (condition, result) :: (← whens n)
    else return [(condition, result)]

def caseExpr : Reader Expr := do
  let operand ← if ← keyword "WHEN" then pure none else do
    let e ← L.anyExpr
    expectKeyword "WHEN"
    pure (some e)
  let whens ← whens L ((← get).length + 1)
  let otherwise ← option (keyword "ELSE") L.anyExpr
  expectKeyword "END"
  return .case operand whens otherwise

/-- The format that a cast reads or writes. -/
def castFormat? : Reader (Option Shown) := do
  if ← keyword "FORMAT" then
    let value ← constant
    match ← option (keywords ["AT", "TIME", "ZONE"]) constant with
    | none => return some ⟨"FORMAT " ++ value.show, tuple "Value" [value.outline]⟩
    | some zone => return some ⟨"FORMAT " ++ value.show ++ " AT TIME ZONE " ++ zone.show,
        tuple "ValueAtTimeZone" [value.outline, zone.outline]⟩
  else return none

def castExpr (word name : String) : Reader Expr := parenthesized do
  let e ← L.anyExpr
  expectKeyword "AS"
  let type ← dataType
  return .cast (.call word name) e type (← castFormat?)

def convertOf (e : Expr) (text : String) (type : Option DataType) (charset : Option ObjectName) :
    Expr :=
  .other ⟨"CONVERT(" ++ e.show ++ text ++ ")", record "Convert" [("is_try", "false"),
    ("expr", e.outline), ("data_type", optional (type.map DataType.outline)),
    ("charset", optional (charset.map outlineName)), ("target_before_value", "false"),
    ("styles", "[]")]⟩

/-- A conversion to a type or, with `USING`, to a character set. -/
def convertExpr : Reader Expr := parenthesized do
  let e ← L.anyExpr
  if ← keyword "USING" then
    let charset ← objectName
    return convertOf e (" USING " ++ showName charset) none (some charset)
  else
    expectSymbol ","
    let type ← dataType
    match ← option (keywords ["CHARACTER", "SET"]) objectName with
    | none => return convertOf e (", " ++ type.show) (some type) none
    | some charset =>
      return convertOf e (", " ++ type.show ++ " CHARACTER SET " ++ showName charset) (some type)
        (some charset)

def existsExpr (negated : Bool) : Reader Expr := return .exists (← parenthesized L.query) negated

def extractExpr : Reader Expr := parenthesized do
  let unit ← timeUnit
  expectKeyword "FROM"
  let e ← L.anyExpr
  return .other ⟨"EXTRACT(" ++ unit.text ++ " FROM " ++ e.show ++ ")",
    record "Extract" [("field", unit.outline), ("syntax", "From"), ("expr", e.outline)]⟩

/-- `CEIL` and `FLOOR`, to a unit of time or to a number of digits. -/
def roundingExpr (word name : String) : Reader Expr := parenthesized do
  let e ← L.anyExpr
  let result (text : String) (unit : String) : Expr :=
    .other ⟨word ++ "(" ++ e.show ++ text ++ ")",
      record name [("expr", e.outline), ("field", unit)]⟩
  if ← keyword "TO" then
    let unit ← timeUnit
    return result (" TO " ++ unit.text) (tuple "DateTimeField" [unit.outline])
  else if ← symbol "," then
    let scale ← number
    return result (", " ++ scale.show) (tuple "Scale" [scale.outline])
  else return result "" (tuple "DateTimeField" ["NoDateTime"])

/-- The position of one text in another, or a call of a function of this name. -/
def positionExpr (name : Ident) : Reader Expr := do
  let position ← attempt <| parenthesized do
    let e ← L.expr rangeStrength
    expectKeyword "IN"
    let container ← L.anyExpr
    return Expr.other ⟨"POSITION(" ++ e.show ++ " IN " ++ container.show ++ ")",
      record "Position" [("expr", e.outline), ("in", container.outline)]⟩
  match position with
  | some e => return e
  | none => return .function (← callOf L [name])

def substringExpr : Reader Expr := parenthesized do
  let e ← L.anyExpr
  let commas ← symbol ","
  let hasStart ← if commas then pure true else keyword "FROM"
  let start ← option (pure hasStart) L.anyExpr
  let hasLength ← if ← keyword "FOR" then pure true else symbol ","
  let length ← option (pure hasLength) L.anyExpr
  return .substring e start length commas

def overlayExpr : Reader Expr := parenthesized do
  let e ← L.anyExpr
  expectKeyword "PLACING"
  let what ← L.anyExpr
  expectKeyword "FROM"
  let start ← L.anyExpr
  let length ← option (keyword "FOR") L.anyExpr
  return .other ⟨"OVERLAY(" ++ e.show ++ " PLACING " ++ what.show ++ " FROM " ++ start.show ++
      showOption " FOR " "" length ++ ")",
    record "Overlay" [("expr", e.outline), ("overlay_what", what.outline),
      ("overlay_from", start.outline), ("overlay_for", outlineOption length)]⟩

/-- The sides that are trimmed, with the names they go by. -/
def trimSides : List (String × String) := [
  ("BOTH", "Both"), ("LEADING", "Leading"), ("TRAILING", "Trailing")]

/-- A comma may stand in front of the parenthesis that closes it. -/
def trimExpr : Reader Expr := parenthesized do
  let side ← oneOf? (trimSides.map (·.1))
  let e ← L.anyExpr
  let result (what : Option Expr) (text : Expr) : Expr :=
    .other ⟨"TRIM(" ++ (side.map (· ++ " ")).getD "" ++ showOption "" " FROM " what ++ text.show ++ ")",
      record "Trim" [("expr", text.outline),
        ("trim_where", optional (side.bind (trimSides.lookup ·))),
        ("trim_what", outlineOption what), ("trim_characters", "None")]⟩
  if ← keyword "FROM" then return result (some e) (← L.anyExpr)
  else
    let _ ← symbol ","
    return result none e

/-- Elements behind an open bracket, and the bracket that closes them. -/
def arrayExpr (named : Bool) : Reader Expr := do
  let elements ← if ← peekSymbol "]" then pure [] else L.exprs
  expectSymbol "]"
  return .other ⟨(if named then "ARRAY[" else "[") ++ commaList (showExprs elements) ++ "]",
    tuple "Array" [record "Array" [("elem", listed (outlineExprs elements)), ("named", bool named)]]⟩

def notExpr : Reader Expr := do
  if ← keyword "EXISTS" then existsExpr L true
  else return .unary (.known .not) (← L.expr notStrength)

/-- A function that is called without the clauses behind its arguments. -/
def bareCall (name : Ident) (args : Arguments) : Expr :=
  .function ⟨[name], false, args, [], none, none, none⟩

/-- The form that a keyword begins. `none` where the word begins no form of its own. -/
def keywordForm? (word : String) (name : Ident) : Reader (Option Expr) := do
  match word with
  | "TRUE" => return some (.constant (.boolean true))
  | "FALSE" => return some (.constant (.boolean false))
  | "NULL" => return some (.constant .null)
  | "CURRENT_CATALOG" | "CURRENT_USER" | "SESSION_USER" | "USER" =>
    return some (bareCall name .none)
  | "CURRENT_TIMESTAMP" | "CURRENT_TIME" | "CURRENT_DATE" | "LOCALTIME" | "LOCALTIMESTAMP" =>
    if ← symbol "(" then return some (bareCall name (← arguments L))
    else return some (bareCall name .none)
  | "CASE" => return some (← caseExpr L)
  | "CONVERT" => return some (← convertExpr L)
  | "CAST" => return some (← castExpr L word "Cast")
  | "TRY_CAST" => return some (← castExpr L word "TryCast")
  | "SAFE_CAST" => return some (← castExpr L word "SafeCast")
  | "EXISTS" => return some (← existsExpr L false)
  | "EXTRACT" => return some (← extractExpr L)
  | "CEIL" => return some (← roundingExpr L word "Ceil")
  | "FLOOR" => return some (← roundingExpr L word "Floor")
  | "POSITION" => if ← peekSymbol "(" then return some (← positionExpr L name) else return none
  | "SUBSTRING" => return some (← substringExpr L)
  | "OVERLAY" => return some (← overlayExpr L)
  | "TRIM" => return some (← trimExpr L)
  | "INTERVAL" => return some (← interval L)
  | "ARRAY" =>
    if ← symbol "[" then return some (← arrayExpr L true)
    else if ← peekSymbol "(" then
      return some (bareCall name (.subquery (← parenthesized L.query)))
    else return none
  | "NOT" => return some (← notExpr L)
  | _ => return none

/-- A column or a function, whose first part is read already. -/
def nameForm (name : Ident) : Reader Expr := do
  match ← peek? with
  | some (.symbol "(") => return .function (← callOf L [name])
  | some (.symbol ".") =>
    let (parts, star) ← dottedParts
    let parts := name :: parts
    match star with
    | some extent => return .wildcardOf parts extent
    | none => if ← peekSymbol "(" then return .function (← callOf L parts) else return .compound parts
  | some (.string _) | some (.styled .hexadecimal _) =>
    if name.text.startsWith "_" then
      let value ← constant
      return .other ⟨name.text ++ " " ++ value.show, record "IntroducedString" [
        ("introducer", Text.report name.text), ("value", value.outline)]⟩
    else return .identifier name
  | _ => return .identifier name

/-- A word: the form of its keyword, or else a name, and whether it is a name where the form of its
keyword was not met. -/
def wordForm (word : String) (name : Ident) : Reader (Expr × Bool) := do
  match ← recover (keywordForm? L word name) with
  | .ok (some e) => return (e, false)
  | .ok none => return (← nameForm L name, false)
  | .error fault =>
    if reservedForColumns.contains word then throw fault
    else
      match ← recover (nameForm L name) with
      | .ok e => return (e, true)
      | .error _ => throw fault

/-- An expression or a list of them in parentheses, and a field of their value. -/
def parenthesizedForm : Reader Expr := do
  let e ← if ← peekQuery then pure (.subquery (← L.query)) else do
    match ← L.exprs with
    | [e] => pure (.nested e)
    | es => pure (.other ⟨"(" ++ commaList (showExprs es) ++ ")", tuple "Tuple" [listed (outlineExprs es)]⟩)
  expectSymbol ")"
  if ← symbol "." then
    match ← nextLexeme with
    | ⟨.word text quote, extent, _⟩ =>
      let key : Ident := ⟨text, quote, extent⟩
      return .other ⟨e.show ++ "." ++ key.show,
        record "CompositeAccess" [("expr", e.outline), ("key", key.outline)]⟩
    | _ => fail
  else return e

/-- Operators in front of their operand, with the names they go by. -/
def signNames : List (String × String) := [
  ("!!", "PGPrefixFactorial"), ("|/", "PGSquareRoot"), ("||/", "PGCubeRoot"), ("@", "PGAbs"),
  ("~", "PGBitwiseNot")]

/-- An expression that starts with a symbol. -/
def symbolForm (text : String) : Reader Expr := do
  match text with
  | "[" => arrayExpr L false
  | "-" => return .unary (.known .minus) (← L.expr productStrength)
  | "+" => return .unary (.known .plus) (← L.expr productStrength)
  | "(" => parenthesizedForm L
  | "\x7b" => bracedCall L
  | ":" => return .constant (.placeholder (":" ++ (← placeholderName)))
  | _ =>
    match signNames.lookup text with
    | some name => return .unary (.before text name) (← L.expr sumStrength)
    | none => fail

def untypedForm : Reader (Expr × Bool) := do
  match ← get with
  | ⟨.word text quote, extent, _⟩ :: ls =>
    set ls
    wordForm L ((Token.word text quote).keyword?.getD "") ⟨text, quote, extent⟩
  | ⟨.symbol text, _, _⟩ :: ls =>
    set ls
    return (← symbolForm L text, false)
  | _ => return (.constant (← constant), false)

/-- An expression before any operator, with its collation. -/
def primaryForm : Reader Expr := do
  match ← attempt (typedString L) with
  | some e => return e
  | none =>
    let (e, isName) ← untypedForm L
    if isName then return e
    else if ← keyword "COLLATE" then
      let collation ← objectName
      return .other ⟨e.show ++ " COLLATE " ++ showName collation,
        record "Collate" [("expr", e.outline), ("collation", outlineName collation)]⟩
    else return e

def primaryLoop : Nat → Reader Expr
  | 0 => fail
  | n + 1 => primaryForm { L with primary := primaryLoop n }

/-- An expression before any operator. An interval holds one behind its first token, so tokens bound
the nesting of intervals. -/
def primary : Reader Expr := do primaryLoop L ((← get).length + 1)

end LogicalSql.Surface.Reader
