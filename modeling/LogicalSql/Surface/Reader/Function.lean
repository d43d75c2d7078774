import LogicalSql.Surface.Reader.Time

/-! Function calls with their arguments and the clauses behind them. -/
namespace LogicalSql.Surface.Reader

open Outline

variable (L : Level)

def ascending? : Reader (Option Bool) := do
  match ← oneOf? ["ASC", "DESC"] with
  | some word => return some (word == "ASC")
  | none => return none

def nullsFirst? : Reader (Option Bool) := do
  if ← keywords ["NULLS", "FIRST"] then return some true
  else if ← keywords ["NULLS", "LAST"] then return some false
  else return none

def orderItem : Reader OrderItem := do
  let e ← L.anyExpr
  let ascending ← ascending?
  let nullsFirst ← nullsFirst?
  return ⟨e, ascending, nullsFirst⟩

def orderItems : Reader (List OrderItem) := commaSeparated (orderItem L)

/-- The list behind `ORDER BY`, if there is one. -/
def orderBy? : Reader (List OrderItem) := do
  if ← keywords ["ORDER", "BY"] then orderItems L else return []

def dottedPartsLoop : Nat → Reader (List Ident × Option Extent)
  | 0 => return ([], none)
  | n + 1 => do
    if ← symbol "." then
      match ← get with
      | ⟨.symbol "*", extent, _⟩ :: ls =>
        set ls
        return ([], some extent)
      | _ =>
        let part ← identifier
        let (parts, star) ← dottedPartsLoop n
        return (part :: parts, star)
    else return ([], none)

/-- The parts of a name behind its first one, and the star that may end them. -/
def dottedParts : Reader (List Ident × Option Extent) := do dottedPartsLoop (← get).length

/-- A star, or a star behind the parts of a name. Other tokens are left where they are. -/
def wildcard? : Reader (Option Item) := do
  let ls ← get
  match ls with
  | ⟨.symbol "*", extent, _⟩ :: rest =>
    set rest
    return some (.wildcard extent)
  | ⟨.word _ _, _, _⟩ :: ⟨.symbol ".", _, _⟩ :: _ | ⟨.string _, _, _⟩ :: ⟨.symbol ".", _, _⟩ :: _ =>
    let first ← identifier
    let (parts, star) ← dottedParts
    match star with
    | some extent => return some (.wildcardOf (first :: parts) extent)
    | none =>
      set ls
      return none
  | _ => return none

/-- An expression as an argument. -/
def argumentOf : Expr → Argument
  | .wildcardOf name extent => .wildcardOf name extent
  | e => .expr e

/-- A value for an argument: a star or an expression. -/
def argumentValue : Reader Argument := do
  match ← wildcard? with
  | some (.wildcard extent) => return .wildcard extent
  | some (.wildcardOf name extent) => return .wildcardOf name extent
  | _ => return argumentOf (← L.anyExpr)

/-- What may stand between the name of an argument and its value, with the name it goes by. -/
def argumentOperator? : Reader (Option (String × String)) := do
  if ← keyword "VALUE" then return some ("VALUE", "Value")
  else if ← symbol "=>" then return some ("=>", "RightArrow")
  else if ← symbol ":" then return some (":", "Colon")
  else return none

/-- An argument, which is named by an expression if an operator for that stands between. -/
def argument : Reader Argument := do
  let start ← get
  match ← attempt L.anyExpr with
  | none => argumentValue L
  | some e =>
    match ← argumentOperator? with
    | some (shown, name) => return .named e shown name (← argumentValue L)
    | none =>
      let stop ← get
      set start
      match ← wildcard? with
      | some (.wildcard extent) => return .wildcard extent
      | some (.wildcardOf name extent) => return .wildcardOf name extent
      | _ =>
        set stop
        return argumentOf e

/-- Whether a value that is missing has a place of its own. -/
def nullClause? : Reader (Option Shown) := do
  if ← keywords ["ABSENT", "ON", "NULL"] then
    return some ⟨"ABSENT ON NULL", tuple "JsonNullClause" ["AbsentOnNull"]⟩
  else if ← keywords ["NULL", "ON", "NULL"] then
    return some ⟨"NULL ON NULL", tuple "JsonNullClause" ["NullOnNull"]⟩
  else return none

/-- A string that may stand for what is cut off. -/
def overflowFiller? : Reader (Option Expr) := do
  match ← peek? with
  | some (.string _) | some (.styled .escaped _) | some (.styled .unicode _)
  | some (.styled .national _) | some (.styled .hexadecimal _) => return some (← L.anyExpr)
  | _ => return none

/-- What is done with a list that grows too long. -/
def overflowClause? : Reader (Option Shown) := do
  if ← keywords ["ON", "OVERFLOW"] then
    if ← keyword "ERROR" then
      return some ⟨"ON OVERFLOW ERROR", tuple "OnOverflow" ["Error"]⟩
    else
      expectKeyword "TRUNCATE"
      let filler ← overflowFiller? L
      let count ← expectOneOf ["WITH", "WITHOUT"]
      expectKeyword "COUNT"
      return some ⟨"ON OVERFLOW TRUNCATE" ++ showOption " " "" filler ++ " " ++ count ++ " COUNT",
        tuple "OnOverflow" [record "Truncate" [("filler", outlineOption filler),
          ("with_count", bool (count == "WITH"))]]⟩
  else return none

/-- Clauses behind the arguments, in their order. -/
def argumentClauses : Reader (List Shown) := do
  let order ← orderBy? L
  let limit ← option (keyword "LIMIT") L.anyExpr
  let overflow ← overflowClause? L
  let nulls ← nullClause?
  let orderClause : List Shown := if order.isEmpty then []
    else [⟨"ORDER BY " ++ commaList (showOrder order), tuple "OrderBy" [listed (outlineOrder order)]⟩]
  let limitClause : List Shown :=
    (limit.map fun e => ⟨"LIMIT " ++ e.show, tuple "Limit" [e.outline]⟩).toList
  return orderClause ++ limitClause ++ overflow.toList ++ nulls.toList

/-- The list behind an open parenthesis, and the parenthesis that closes it. -/
def arguments : Reader Arguments := do
  let early ← nullClause?
  if ← symbol ")" then return .list none [] early.toList
  else
    let all ← keyword "ALL"
    let distinct ← keyword "DISTINCT"
    if all && distinct then fail
    else
      let args ← commaSeparated (argument L)
      let clauses ← argumentClauses L
      expectSymbol ")"
      return .list (if all then some false else if distinct then some true else none) args
        (early.toList ++ clauses)

def frameBound : Reader Shown := do
  if ← keywords ["CURRENT", "ROW"] then return ⟨"CURRENT ROW", "CurrentRow"⟩
  else
    let rows ← if ← keyword "UNBOUNDED" then pure none else
      match ← peek? with
      | some (.string _) => pure (some (← interval L))
      | _ => pure (some (← L.anyExpr))
    let word ← expectOneOf ["PRECEDING", "FOLLOWING"]
    return ⟨(rows.map (·.show)).getD "UNBOUNDED" ++ " " ++ word,
      tuple (if word == "PRECEDING" then "Preceding" else "Following") [outlineOption rows]⟩

def frame : Reader Shown := do
  let units ← expectOneOf ["ROWS", "RANGE", "GROUPS"]
  let name := match units with
    | "ROWS" => "Rows"
    | "RANGE" => "Range"
    | _ => "Groups"
  let outline (first : Shown) (last : Option Shown) := record "WindowFrame" [("units", name),
    ("start_bound", first.outline), ("end_bound", outlineShown last)]
  if ← keyword "BETWEEN" then
    let first ← frameBound L
    expectKeyword "AND"
    let last ← frameBound L
    return ⟨units ++ " BETWEEN " ++ first.text ++ " AND " ++ last.text, outline first (some last)⟩
  else
    let first ← frameBound L
    return ⟨units ++ " " ++ first.text, outline first none⟩

/-- A window behind an open parenthesis, and the parenthesis that closes it. -/
def windowSpec : Reader Shown := do
  let name ← match ← peek? with
    | some t => if t.isPlainWord then pure (some (← identifier)) else pure none
    | none => pure none
  let partitions ← if ← keywords ["PARTITION", "BY"] then L.exprs else pure []
  let order ← orderBy? L
  let frame ← if ← symbol ")" then pure none else do
    let shown ← frame L
    expectSymbol ")"
    pure (some shown)
  return ⟨"(" ++ " ".intercalate ((name.map Ident.show).toList ++
      (if partitions.isEmpty then [] else ["PARTITION BY " ++ commaList (showExprs partitions)]) ++
      (if order.isEmpty then [] else ["ORDER BY " ++ commaList (showOrder order)]) ++
      (frame.map (·.text)).toList) ++ ")",
    tuple "WindowSpec" [record "WindowSpec" [("window_name", optional (name.map Ident.outline)),
      ("partition_by", listed (outlineExprs partitions)), ("order_by", listed (outlineOrder order)),
      ("window_frame", outlineShown frame)]]⟩

def window : Reader Shown := do
  if ← symbol "(" then windowSpec L
  else
    let name ← identifier
    return ⟨name.show, tuple "NamedWindow" [name.outline]⟩

/-- A condition on the rows of an aggregate. `FILTER` without one is passed over. -/
def filterClause? : Reader (Option Expr) := do
  if ← keyword "FILTER" then
    if ← symbol "(" then
      if ← keyword "WHERE" then
        let e ← L.anyExpr
        expectSymbol ")"
        return some e
      else return none
    else return none
  else return none

def nullTreatment? : Reader (Option Shown) := do
  match ← oneOf? ["RESPECT", "IGNORE"] with
  | some word =>
    expectKeyword "NULLS"
    return some ⟨word ++ " NULLS", if word == "RESPECT" then "RespectNulls" else "IgnoreNulls"⟩
  | none => return none

/-- The arguments of a function, from their open parenthesis on, and what may follow them. -/
def callOf (name : ObjectName) : Reader Call := do
  expectSymbol "("
  let args ← arguments L
  let withinGroup ← if ← keywords ["WITHIN", "GROUP"] then do
      expectSymbol "("
      expectKeywords ["ORDER", "BY"]
      let order ← orderItems L
      expectSymbol ")"
      pure order
    else pure []
  let filter ← filterClause? L
  let nulls ← nullTreatment?
  let window ← option (keyword "OVER") (window L)
  return ⟨name, false, args, withinGroup, filter, nulls, window⟩

/-- A call between braces. -/
def bracedCall : Reader Expr := do
  expectKeyword "FN"
  let call ← callOf L (← objectName)
  expectSymbol "\x7d"
  return .function { call with braces := true }

end LogicalSql.Surface.Reader
