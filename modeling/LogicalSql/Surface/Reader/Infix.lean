import LogicalSql.Surface.Reader.Primary

/-! Operators between and behind expressions, by how strongly they bind. -/
namespace LogicalSql.Surface.Reader

open Outline

variable (L : Level)

/-- Symbols between two operands: the operator and its strength. -/
def symbolOperators : List (String × Operator × Nat) := [
  ("=", .known .eq, 50), ("==", .known .eq, 50), ("<>", .known .notEq, 50), ("<", .known .lt, 50),
  ("<=", .known .ltEq, 50), (">", .known .gt, 50), (">=", .known .gtEq, 50),
  ("<=>", .other "<=>" "Spaceship", 50), ("~", .other "~" "PGRegexMatch", 50),
  ("~*", .other "~*" "PGRegexIMatch", 50), ("!~", .other "!~" "PGRegexNotMatch", 50),
  ("!~*", .other "!~*" "PGRegexNotIMatch", 50), ("~~", .other "~~" "PGLikeMatch", 50),
  ("~~*", .other "~~*" "PGILikeMatch", 50), ("!~~", .other "!~~" "PGNotLikeMatch", 50),
  ("!~~*", .other "!~~*" "PGNotILikeMatch", 50),
  ("+", .known .plus, 80), ("-", .known .minus, 80),
  ("*", .known .multiply, 90), ("/", .known .divide, 90), ("%", .known .modulo, 90),
  ("^", .other "^" "PGExp", 100),
  ("||", .known .concat, 70), ("|", .other "|" "BitwiseOr", 70), ("&", .other "&" "BitwiseAnd", 70),
  ("#", .other "#" "PGBitwiseXor", 70), ("<<", .other "<<" "PGBitwiseShiftLeft", 70),
  (">>", .other ">>" "PGBitwiseShiftRight", 70), ("&&", .other "&&" "PGOverlap", 70),
  ("^@", .other "^@" "PGStartsWith", 70), ("->", .other "->" "Arrow", 70),
  ("->>", .other "->>" "LongArrow", 70), ("#>", .other "#>" "HashArrow", 70),
  ("#>>", .other "#>>" "HashLongArrow", 70), ("@>", .other "@>" "AtArrow", 70),
  ("<@", .other "<@" "ArrowAt", 70), ("#-", .other "#-" "HashMinus", 70),
  ("@?", .other "@?" "AtQuestion", 70), ("@@", .other "@@" "AtAt", 70),
  ("?", .other "?" "Question", 70), ("?&", .other "?&" "QuestionAnd", 70),
  ("?|", .other "?|" "QuestionPipe", 70)]

/-- Words that begin a test of the expression in front of them. -/
def testWords : List String := ["IN", "BETWEEN", "LIKE", "ILIKE", "RLIKE", "REGEXP", "SIMILAR"]

/-- How strongly the coming operator binds, or zero where none comes. -/
def strength : List Lexeme → Nat
  | ⟨.symbol text, _, _⟩ :: _ =>
    match text with
    | "::" => 140
    | "[" => 130
    | "!" => 70
    | _ => ((symbolOperators.lookup text).map (·.2)).getD 0
  | ⟨.operator _, _, _⟩ :: _ => 70
  | ⟨t, _, _⟩ :: ls =>
    match t.keyword? with
    | none => 0
    | some word =>
      match word with
      | "COLLATE" => 120
      | "AT" => if startsWith ["TIME", "ZONE"] ls then 110 else 0
      | "DIV" => 90
      | "XOR" => 75
      | "OPERATOR" => rangeStrength
      | "NOT" =>
        match ls.head?.bind (·.token.keyword?) with
        | some next => if testWords.contains next then rangeStrength else 0
        | none => 0
      | "IS" => 40
      | "AND" => 20
      | "OR" => 10
      | _ => if testWords.contains word then rangeStrength else 0
  | [] => 0

/-- An operator that is written with its schema. -/
def qualifiedOperator : Reader Operator := do
  return .qualified (← parenthesized (separated (symbol ".") (return (← next).show)))

/-- An operator between two operands, if one comes. -/
def operator? : Reader (Option Operator) := do
  match ← get with
  | ⟨.symbol text, _, _⟩ :: ls =>
    match symbolOperators.lookup text with
    | some (op, _) =>
      set ls
      return some op
    | none => return none
  | ⟨.operator text, _, _⟩ :: ls =>
    set ls
    return some (.custom text)
  | _ =>
    match ← oneOf? ["AND", "OR", "XOR", "OPERATOR"] with
    | some "AND" => return some (.known .and)
    | some "OR" => return some (.known .or)
    | some "XOR" => return some (.other "XOR" "Xor")
    | some _ => return some (← qualifiedOperator)
    | none => return none

def isComparison : Operator → Bool
  | .known .eq | .known .notEq | .known .lt | .known .ltEq | .known .gt | .known .gtEq => true
  | _ => false

/-- A comparison with any or all of several values. -/
def quantified (left : Expr) (op : Operator) (quantifier : String) (right : Expr) : Expr :=
  let values := match right with
    | .subquery _ => right.show
    | _ => "(" ++ right.show ++ ")"
  let parts := [("left", left.outline), ("compare_op", op.outline), ("right", right.outline)]
  .other ⟨left.show ++ " " ++ op.show ++ " " ++ quantifier ++ values,
    if quantifier = "ALL" then record "AllOp" parts
    else record "AnyOp" (parts ++ [("is_some", bool (quantifier = "SOME"))])⟩

/-- The right operand, which may be any or all of several values. -/
def rightOperand (left : Expr) (op : Operator) (bound : Nat) : Reader Expr := do
  match ← oneOf? ["ANY", "ALL", "SOME"] with
  | none => return .binary left op (← L.expr bound)
  | some quantifier =>
    let ls ← get
    expectSymbol "("
    let right ← if ← peekQuery then do
        set ls
        L.expr bound
      else do
        let e ← L.expr bound
        expectSymbol ")"
        pure e
    if isComparison op then return quantified left op quantifier right else fail

/-- Truth values that can be tested for, with the names they go by. -/
def truthWords : List (String × String) := [
  ("TRUE", "True"), ("FALSE", "False"), ("UNKNOWN", "Unknown")]

def isTest (e : Expr) : Reader Expr := do
  let negated ← keyword "NOT"
  let name (rest : String) := (if negated then "IsNot" else "Is") ++ rest
  if ← keyword "NULL" then return .isNull e negated
  else
    let head := e.show ++ " IS " ++ notSql negated
    if ← keywords ["DISTINCT", "FROM"] then
      let other ← L.anyExpr
      return .other ⟨head ++ "DISTINCT FROM " ++ other.show,
        tuple (name "DistinctFrom") [e.outline, other.outline]⟩
    else
      let word ← expectOneOf (truthWords.map (·.1))
      return .other ⟨head ++ word, tuple (name ((truthWords.lookup word).getD "")) [e.outline]⟩

def inTest (e : Expr) (negated : Bool) : Reader Expr := do
  if ← keyword "UNNEST" then
    let array ← parenthesized L.anyExpr
    return .other ⟨e.show ++ " " ++ notSql negated ++ "IN UNNEST(" ++ array.show ++ ")",
      record "InUnnest" [("expr", e.outline), ("array_expr", array.outline),
        ("negated", bool negated)]⟩
  else parenthesized do
    if ← peekQuery then return .inSubquery e (← L.query) negated
    else return .inList e (← L.exprs) negated

def escape? : Reader (Option String) := option (keyword "ESCAPE") literalString

def likeTest (e : Expr) (ignoreCase negated : Bool) : Reader Expr := do
  let any ← keyword "ANY"
  let pattern ← L.expr rangeStrength
  return .like e pattern ignoreCase negated any (← escape?)

def similarTest (e : Expr) (negated : Bool) : Reader Expr := do
  expectKeyword "TO"
  let pattern ← L.expr rangeStrength
  let escape ← escape?
  return .other ⟨e.show ++ " " ++ notSql negated ++ "SIMILAR TO " ++ pattern.show ++
      showEscape escape,
    record "SimilarTo" [("negated", bool negated), ("expr", e.outline),
      ("pattern", pattern.outline), ("escape_char", optional (escape.map Text.report))]⟩

def patternTest (e : Expr) (negated : Bool) (word : String) : Reader Expr := do
  let pattern ← L.expr rangeStrength
  return .other ⟨e.show ++ " " ++ notSql negated ++ word ++ " " ++ pattern.show,
    record "RLike" [("negated", bool negated), ("expr", e.outline), ("pattern", pattern.outline),
      ("regexp", bool (word = "REGEXP"))]⟩

/-- A test behind an expression, with its negation. -/
def test (e : Expr) : Reader Expr := do
  let negated ← keyword "NOT"
  match ← expectOneOf testWords with
  | "IN" => inTest L e negated
  | "BETWEEN" =>
    let low ← L.expr rangeStrength
    expectKeyword "AND"
    return .between e low (← L.expr rangeStrength) negated
  | "LIKE" => likeTest L e false negated
  | "ILIKE" => likeTest L e true negated
  | "SIMILAR" => similarTest L e negated
  | "REGEXP" =>
    let _ ← keyword "RLIKE"
    patternTest L e negated "REGEXP"
  | word => patternTest L e negated word

/-- An index or a slice behind an open bracket, and the bracket that closes it. -/
def subscript : Reader Shown := do
  let slice (lower upper stride : Option Expr) : Shown :=
    ⟨showOption "" "" lower ++ ":" ++ showOption "" "" upper ++ showOption ":" "" stride,
      record "Slice" [("lower_bound", outlineOption lower), ("upper_bound", outlineOption upper),
        ("stride", outlineOption stride)]⟩
  let lower ← if ← symbol ":" then pure none else pure (some (← L.anyExpr))
  if ← symbol "]" then
    match lower with
    | some e => return ⟨e.show, record "Index" [("index", e.outline)]⟩
    | none => return slice none none none
  else
    if lower.isSome then expectSymbol ":"
    if ← symbol "]" then return slice lower none none
    else
      let upper ← L.anyExpr
      if ← symbol "]" then return slice lower (some upper) none
      else
        expectSymbol ":"
        if ← symbol "]" then return slice lower (some upper) none
        else
          let stride ← L.anyExpr
          expectSymbol "]"
          return slice lower (some upper) (some stride)

/-- The expression with the coming operator, which binds with strength `bound`. -/
def extend (e : Expr) (bound : Nat) : Reader Expr := do
  match ← operator? with
  | some op => rightOperand L e op bound
  | none =>
    if ← symbol "::" then return .cast .colons e (← dataType) none
    else if ← symbol "!" then return .unary (.after "!" "PGPostfixFactorial") e
    else if ← symbol "[" then
      let index ← subscript L
      return .other ⟨e.show ++ "[" ++ index.text ++ "]",
        record "Subscript" [("expr", e.outline), ("subscript", index.outline)]⟩
    else if ← keyword "IS" then isTest L e
    else if ← keywords ["AT", "TIME", "ZONE"] then
      let zone ← L.expr bound
      return .other ⟨e.show ++ " AT TIME ZONE " ++ zone.show,
        record "AtTimeZone" [("timestamp", e.outline), ("time_zone", zone.outline)]⟩
    else test L e

def extendLoop (bound : Nat) : Nat → Expr → Reader Expr
  | 0, e => return e
  | n + 1, e => do
    let next := strength (← get)
    if bound < next then extendLoop bound n (← extend L e next) else return e

/-- An expression with the operators behind it that bind more strongly than `bound`. -/
def expr (bound : Nat) : Reader Expr := do
  let e ← primary L
  extendLoop L bound (← get).length e

end LogicalSql.Surface.Reader
