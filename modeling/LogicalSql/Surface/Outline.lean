import LogicalSql.Surface.Show
import LogicalSql.Text.Visible

/-! The outline of a part of a statement: the name of its kind and, in braces or parentheses, the
outlines of its own parts. Messages about joins list it. -/
namespace LogicalSql.Surface

namespace Outline

def listed (items : List String) : String := "[" ++ commaList items ++ "]"

/-- Parts without names. -/
def tuple (name : String) (parts : List String) : String := name ++ "(" ++ commaList parts ++ ")"

/-- Parts with names. -/
def record (name : String) (parts : List (String × String)) : String :=
  name ++ " \x7b " ++ commaList (parts.map fun (part, outline) => part ++ ": " ++ outline) ++ " \x7d"

def bool (b : Bool) : String := if b then "true" else "false"

def optional : Option String → String
  | none => "None"
  | some outline => tuple "Some" [outline]

def natural (n : Nat) : String := toString n

/-- A character between single quotes, as names and strings are quoted with. -/
def quoteMark (c : Char) : String := if c = '\'' then "'\\''" else "'" ++ String.singleton c ++ "'"

end Outline

open Outline

def Place.outline (p : Place) : String :=
  "Location(" ++ toString p.line ++ "," ++ toString p.column ++ ")"

def Extent.outline (e : Extent) : String :=
  "Span(" ++ e.first.outline ++ ".." ++ e.last.outline ++ ")"

def Ident.outline (i : Ident) : String :=
  record "Ident" [("value", Text.report i.text), ("quote_style", optional (i.quote.map quoteMark)),
    ("span", i.extent.outline)]

def outlineIdents (idents : List Ident) : String := listed (idents.map Ident.outline)

def outlineName (name : ObjectName) : String := tuple "ObjectName" [outlineIdents name]

/-- A keyword or a symbol where it stands. -/
def outlineToken (token : String) (extent : Extent) : String :=
  record "TokenWithSpan" [("token", token), ("span", extent.outline)]

def outlineStar (extent : Extent) : String := outlineToken "Mul" extent

def Lexeme.outline (l : Lexeme) : String :=
  let token := match l.token with
    | .word text quote => tuple "Word" [record "Word" [("value", Text.report text),
        ("quote_style", optional (quote.map quoteMark)), ("keyword", Text.upper text)]]
    | _ => "RParen"
  outlineToken token l.extent

def StringStyle.outline (text : String) : StringStyle → String
  | .escaped => tuple "EscapedStringLiteral" [Text.report text]
  | .unicode => tuple "UnicodeStringLiteral" [Text.report text]
  | .national => tuple "NationalStringLiteral" [Text.report text]
  | .hexadecimal => tuple "HexStringLiteral" [Text.report text]
  | .bits => tuple "SingleQuotedByteStringLiteral" [Text.report text]
  | .quotedBits => tuple "DoubleQuotedByteStringLiteral" [Text.report text]
  | .dollar tag => tuple "DollarQuotedString" [record "DollarQuotedString" [
      ("value", Text.report text),
      ("tag", optional (if tag.isEmpty then none else some (Text.report tag)))]]

def Constant.outline : Constant → String
  | .null => "Null"
  | .boolean b => tuple "Boolean" [bool b]
  | .number digits long => tuple "Number" [Text.report digits, bool long]
  | .string text => tuple "SingleQuotedString" [Text.report text]
  | .placeholder text => tuple "Placeholder" [Text.report text]
  | .styled style text => style.outline text
  | .doubleQuoted text => tuple "DoubleQuotedString" [Text.report text]

/-- The name an operator goes by. -/
def outlineBinary : BinaryOp → String
  | .eq => "Eq"
  | .notEq => "NotEq"
  | .lt => "Lt"
  | .ltEq => "LtEq"
  | .gt => "Gt"
  | .gtEq => "GtEq"
  | .and => "And"
  | .or => "Or"
  | .plus => "Plus"
  | .minus => "Minus"
  | .multiply => "Multiply"
  | .divide => "Divide"
  | .modulo => "Modulo"
  | .like => "Like"
  | .iLike => "ILike"
  | .notLike => "NotLike"
  | .notILike => "NotILike"
  | .concat => "StringConcat"

def Operator.outline : Operator → String
  | .known op => outlineBinary op
  | .other _ name => name
  | .custom symbol => tuple "Custom" [Text.report symbol]
  | .qualified parts => tuple "PGCustomBinaryOperator" [listed (parts.map Text.report)]

def outlineUnary : UnaryOp → String
  | .not => "Not"
  | .minus => "Minus"
  | .plus => "Plus"

def SignOperator.outline : SignOperator → String
  | .known op => outlineUnary op
  | .before _ name | .after _ name => name

def outlineValue (value : Constant) : String := tuple "Value" [value.outline]

def EnumMember.outline (m : EnumMember) : String :=
  match m.value with
  | none => tuple "Name" [Text.report m.name]
  | some (sign, value) =>
    let number := match sign with
      | none => outlineValue value
      | some op => record "UnaryOp" [("op", outlineUnary op), ("expr", outlineValue value)]
    tuple "NamedValue" [Text.report m.name, number]

def CharacterLength.outline : CharacterLength → String
  | .max => "Max"
  | .count n unit => record "IntegerLength" [("length", natural n),
      ("unit", optional (unit.map fun w => if w = "OCTETS" then "Octets" else "Characters"))]

def ZoneMark.outline : ZoneMark → String
  | .unsaid => "None"
  | .aware => "WithTimeZone"
  | .unaware => "WithoutTimeZone"
  | .short => "Tz"

def outlineSize (size : Option Nat) : String := optional (size.map natural)

def DataType.outline : DataType → String
  | .plain _ name => name
  | .sized _ name size => tuple name [outlineSize size]
  | .unsigned _ name size => tuple ("Unsigned" ++ name) [outlineSize size]
  | .characters _ name length => tuple name [optional (length.map CharacterLength.outline)]
  | .exact _ name none => tuple name ["None"]
  | .exact _ name (some (precision, none)) => tuple name [tuple "Precision" [natural precision]]
  | .exact _ name (some (precision, some scale)) =>
    tuple name [tuple "PrecisionAndScale" [natural precision, natural scale]]
  | .time _ name precision zone => tuple name [outlineSize precision, zone.outline]
  | .zonedTime precision zone =>
    tuple "Datetime64" [natural precision, optional (zone.map Text.report)]
  | .fixedString length => tuple "FixedString" [natural length]
  | .enumeration members bits =>
    tuple "Enum" [listed (members.map EnumMember.outline), outlineSize bits]
  | .set values => tuple "Set" [listed (values.map Text.report)]
  | .angleArray element => tuple "Array" [tuple "AngleBracket" [element.outline]]
  | .array element size => tuple "Array" [tuple "SquareBracket" [element.outline, outlineSize size]]
  | .custom name modifiers => tuple "Custom" [outlineName name, listed (modifiers.map Text.report)]

def SetQuantifier.outline : SetQuantifier → String
  | .none => "None"
  | .all => "All"
  | .distinct => "Distinct"
  | .byName => "ByName"
  | .allByName => "AllByName"
  | .distinctByName => "DistinctByName"

def outlineSetOperator : SetOperator → String
  | .union => "Union"
  | .intersect => "Intersect"
  | .except => "Except"

def TableAlias.outline (a : TableAlias) : String :=
  record "TableAlias" [("name", a.name.outline),
    ("columns", listed (a.columns.map fun (name, type) => record "TableAliasColumnDef" [
      ("name", name.outline), ("data_type", optional (type.map DataType.outline))]))]

def outlineAlias (a : Option TableAlias) : String := optional (a.map TableAlias.outline)

def Materialized.outline : Materialized → String
  | .unsaid => "None"
  | .yes => "Some(Materialized)"
  | .no => "Some(NotMaterialized)"

def outlineJoinKind : JoinKind → String
  | .inner => "Inner"
  | .left => "LeftOuter"
  | .right => "RightOuter"
  | .full => "FullOuter"
  | .cross => "CrossJoin"

def outlineShown (shown : Option Shown) : String := optional (shown.map (·.outline))

def outlineClauses (clauses : List Shown) : String := listed (clauses.map (·.outline))

/-- What a star may leave out or rename: nothing. -/
def outlineStarOptions (extent : Extent) : String :=
  record "WildcardAdditionalOptions" [("wildcard_token", outlineStar extent), ("opt_ilike", "None"),
    ("opt_exclude", "None"), ("opt_except", "None"), ("opt_replace", "None"), ("opt_rename", "None")]

mutual

def Query.outline : Query → String
  | ⟨withClause, body, orderBy, limit, offset, offsetRows, fetch, locks, purpose⟩ =>
    let rows := match offsetRows with
      | none => "None"
      | some "ROW" => "Row"
      | some _ => "Rows"
    let orderClause := outlineOrder orderBy
    record "Query" [("with", outlineWith withClause), ("body", body.outline),
      ("order_by", if orderBy.isEmpty then "None"
        else tuple "Some" [record "OrderBy" [("exprs", listed orderClause), ("interpolate", "None")]]),
      ("limit", outlineOption limit), ("limit_by", "[]"),
      ("offset", match offset with
        | none => "None"
        | some e => tuple "Some" [record "Offset" [("value", e.outline), ("rows", rows)]]),
      ("fetch", outlineShown fetch), ("locks", outlineClauses locks),
      ("for_clause", outlineShown purpose), ("settings", "None"), ("format_clause", "None")]

def outlineWith : Option WithClause → String
  | none => "None"
  | some ⟨opening, recursive, ctes⟩ =>
    tuple "Some" [record "With" [("with_token", opening.outline), ("recursive", bool recursive),
      ("cte_tables", listed (outlineCtes ctes))]]

def outlineCtes : List Cte → List String
  | [] => []
  | ⟨a, materialized, query, source, closing⟩ :: cs =>
    record "Cte" [("alias", a.outline), ("query", query.outline),
      ("from", optional (source.map Ident.outline)), ("materialized", materialized.outline),
      ("closing_paren_token", closing.outline)] :: outlineCtes cs

def Body.outline : Body → String
  | .select s => tuple "Select" [s.outline]
  | .query q => tuple "Query" [q.outline]
  | .setOperation left op quantifier right =>
    record "SetOperation" [("op", outlineSetOperator op), ("set_quantifier", quantifier.outline),
      ("left", left.outline), ("right", right.outline)]
  | .other shown => shown.outline

def Select.outline : Select → String
  | ⟨opening, distinct, top, projection, into, sources, lateralViews, filter, groupAll, groupBy,
      clusterBy, distributeBy, sortBy, having, windows, qualify, windowsFirst⟩ =>
    record "Select" [("select_token", opening.outline), ("distinct", outlineShown distinct),
      ("top", outlineShown top), ("top_before_distinct", "false"),
      ("projection", listed (outlineItems projection)), ("into", outlineShown into),
      ("from", listed (outlineTableItems sources)), ("lateral_views", outlineClauses lateralViews),
      ("prewhere", "None"), ("selection", outlineOption filter),
      ("group_by", if groupAll then "All([])"
        else tuple "Expressions" [listed (outlineExprs groupBy), "[]"]),
      ("cluster_by", listed (outlineExprs clusterBy)),
      ("distribute_by", listed (outlineExprs distributeBy)),
      ("sort_by", listed (outlineExprs sortBy)), ("having", outlineOption having),
      ("named_window", outlineClauses windows), ("qualify", outlineOption qualify),
      ("window_before_qualify", bool windowsFirst), ("value_table_mode", "None"),
      ("connect_by", "None")]

def outlineItems : List Item → List String
  | [] => []
  | i :: is => i.outline :: outlineItems is

def Item.outline : Item → String
  | .expr e none => tuple "UnnamedExpr" [e.outline]
  | .expr e (some a) => record "ExprWithAlias" [("expr", e.outline), ("alias", a.outline)]
  | .wildcard extent => tuple "Wildcard" [outlineStarOptions extent]
  | .wildcardOf name extent =>
    tuple "QualifiedWildcard" [outlineName name, outlineStarOptions extent]

def outlineOrder : List OrderItem → List String
  | [] => []
  | ⟨e, ascending, nullsFirst⟩ :: os =>
    record "OrderByExpr" [("expr", e.outline), ("asc", optional (ascending.map bool)),
      ("nulls_first", optional (nullsFirst.map bool)), ("with_fill", "None")] :: outlineOrder os

def outlineTableItems : List TableItem → List String
  | [] => []
  | t :: ts => t.outline :: outlineTableItems ts

def TableItem.outline : TableItem → String
  | ⟨factor, joins⟩ =>
    record "TableWithJoins" [("relation", factor.outline), ("joins", listed (outlineJoins joins))]

def TableFactor.outline : TableFactor → String
  | .table name args ordinality a hints =>
    record "Table" [("name", outlineName name), ("alias", outlineAlias a),
      ("args", outlineTableArguments args), ("with_hints", listed (outlineExprs hints)),
      ("version", "None"), ("with_ordinality", bool ordinality), ("partitions", "[]"),
      ("json_path", "None")]
  | .derived lateral query a =>
    record "Derived" [("lateral", bool lateral), ("subquery", query.outline),
      ("alias", outlineAlias a)]
  | .function e a => record "TableFunction" [("expr", e.outline), ("alias", outlineAlias a)]
  | .nestedJoin item a =>
    record "NestedJoin" [("table_with_joins", item.outline), ("alias", outlineAlias a)]
  | .other shown => shown.outline

def outlineTableArguments : Option (List Argument) → String
  | none => "None"
  | some args => tuple "Some" [record "TableFunctionArgs" [
      ("args", listed (outlineArguments args)), ("settings", "None")]]

def outlineJoins : List Join → List String
  | [] => []
  | ⟨isGlobal, operator, factor, constraint⟩ :: js =>
    record "Join" [("relation", factor.outline), ("global", bool isGlobal),
      ("join_operator", operator.outline constraint.outline)] :: outlineJoins js

/-- A join with the outline of its constraint. -/
def JoinOperator.outline (constraint : String) : JoinOperator → String
  | .known .cross => outlineJoinKind .cross
  | .known kind => tuple (outlineJoinKind kind) [constraint]
  | .other _ name => tuple name [constraint]
  | .free _ name => name
  | .asOf condition =>
    record "AsOf" [("match_condition", condition.outline), ("constraint", constraint)]

def Constraint.outline : Constraint → String
  | .none => "None"
  | .natural => "Natural"
  | .on e => tuple "On" [e.outline]
  | .using columns => tuple "Using" [outlineIdents columns]

def outlineOption : Option Expr → String
  | none => "None"
  | some e => tuple "Some" [e.outline]

def outlineExprs : List Expr → List String
  | [] => []
  | e :: es => e.outline :: outlineExprs es

/-- The conditions of a case distinction, and its results. -/
def outlineWhens : List (Expr × Expr) → List String × List String
  | [] => ([], [])
  | (condition, result) :: ws =>
    let (conditions, results) := outlineWhens ws
    (condition.outline :: conditions, result.outline :: results)

def Expr.outline : Expr → String
  | .identifier i => tuple "Identifier" [i.outline]
  | .compound parts => tuple "CompoundIdentifier" [outlineIdents parts]
  | .constant value => outlineValue value
  | .binary left op right =>
    record "BinaryOp" [("left", left.outline), ("op", op.outline), ("right", right.outline)]
  | .unary op e => record "UnaryOp" [("op", op.outline), ("expr", e.outline)]
  | .function call => tuple "Function" [call.outline]
  | .substring e start length commas =>
    record "Substring" [("expr", e.outline), ("substring_from", outlineOption start),
      ("substring_for", outlineOption length), ("special", bool commas)]
  | .case operand whens otherwise =>
    let (conditions, results) := outlineWhens whens
    record "Case" [("operand", outlineOption operand), ("conditions", listed conditions),
      ("results", listed results), ("else_result", outlineOption otherwise)]
  | .subquery query => tuple "Subquery" [query.outline]
  | .exists query negated =>
    record "Exists" [("subquery", query.outline), ("negated", bool negated)]
  | .inList e list negated =>
    record "InList" [("expr", e.outline), ("list", listed (outlineExprs list)),
      ("negated", bool negated)]
  | .inSubquery e query negated =>
    record "InSubquery" [("expr", e.outline), ("subquery", query.outline), ("negated", bool negated)]
  | .between e low high negated =>
    record "Between" [("expr", e.outline), ("negated", bool negated), ("low", low.outline),
      ("high", high.outline)]
  | .isNull e negated => tuple (if negated then "IsNotNull" else "IsNull") [e.outline]
  | .cast style e dataType format =>
    let kind := match style with
      | .call _ name => name
      | .colons => "DoubleColon"
    record "Cast" [("kind", kind), ("expr", e.outline), ("data_type", dataType.outline),
      ("format", outlineShown format)]
  | .nested e => tuple "Nested" [e.outline]
  | .like e pattern ignoreCase negated any escape =>
    record (if ignoreCase then "ILike" else "Like") [("negated", bool negated), ("any", bool any),
      ("expr", e.outline), ("pattern", pattern.outline),
      ("escape_char", optional (escape.map Text.report))]
  | .wildcardOf name extent => tuple "QualifiedWildcard" [outlineName name, outlineStar extent]
  | .other shown => shown.outline

def Call.outline : Call → String
  | ⟨name, braces, args, withinGroup, filter, nulls, window⟩ =>
    record "Function" [("name", outlineName name), ("uses_odbc_syntax", bool braces),
      ("parameters", "None"), ("args", args.outline), ("filter", outlineOption filter),
      ("null_treatment", outlineShown nulls), ("over", outlineShown window),
      ("within_group", listed (outlineOrder withinGroup))]

def Arguments.outline : Arguments → String
  | .none => "None"
  | .list distinct args clauses =>
    tuple "List" [record "FunctionArgumentList" [
      ("duplicate_treatment", match distinct with
        | none => "None"
        | some true => "Some(Distinct)"
        | some false => "Some(All)"),
      ("args", listed (outlineArguments args)), ("clauses", outlineClauses clauses)]]
  | .subquery query => tuple "Subquery" [query.outline]

def outlineArguments : List Argument → List String
  | [] => []
  | .named name _ operator value :: as =>
    record "ExprNamed" [("name", name.outline), ("arg", value.outline), ("operator", operator)] ::
      outlineArguments as
  | a :: as => tuple "Unnamed" [a.outline] :: outlineArguments as

/-- The value of an argument. -/
def Argument.outline : Argument → String
  | .expr e => tuple "Expr" [e.outline]
  | .wildcard _ => "Wildcard"
  | .wildcardOf name _ => tuple "QualifiedWildcard" [outlineName name]
  | .named _ _ _ value => value.outline

end

end LogicalSql.Surface
