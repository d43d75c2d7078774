import LogicalSql.Query.Print
import LogicalSql.Surface.Tree

/-! The normalized text of a statement: keywords in upper case and single blanks. -/
namespace LogicalSql.Surface

def Ident.show (i : Ident) : String :=
  match i.quote with
  | none => i.text
  | some quote => showQuoted quote i.text

def showName (name : ObjectName) : String := ".".intercalate (name.map Ident.show)

def showIdents (idents : List Ident) : String := commaList (idents.map Ident.show)

def Constant.show : Constant → String
  | .null => "NULL"
  | .boolean true => "true"
  | .boolean false => "false"
  | .number digits long => digits ++ if long then "L" else ""
  | .string text => showQuoted '\'' text
  | .placeholder text => text
  | .styled style text => style.show text
  | .doubleQuoted text => showQuoted '"' text

def Operator.show : Operator → String
  | .known op => op.sql
  | .other symbol _ => symbol
  | .custom symbol => symbol
  | .qualified parts => "OPERATOR(" ++ ".".intercalate parts ++ ")"

def CharacterLength.show : CharacterLength → String
  | .max => "MAX"
  | .count n unit => toString n ++ (unit.map (" " ++ ·)).getD ""

def EnumMember.show (m : EnumMember) : String :=
  showQuoted '\'' m.name ++
    match m.value with
    | none => ""
    | some (sign, value) => " = " ++ (sign.map (·.sql)).getD "" ++ value.show

/-- A number in parentheses, if there is one. -/
def showSize : Option Nat → String
  | none => ""
  | some n => "(" ++ toString n ++ ")"

def DataType.show : DataType → String
  | .plain shown _ => shown
  | .sized shown _ size => shown ++ showSize size
  | .unsigned shown _ size => shown ++ showSize size ++ " UNSIGNED"
  | .characters shown _ none => shown
  | .characters shown _ (some length) => shown ++ "(" ++ length.show ++ ")"
  | .exact shown _ none => shown
  | .exact shown _ (some (precision, none)) => shown ++ "(" ++ toString precision ++ ")"
  | .exact shown _ (some (precision, some scale)) =>
    shown ++ "(" ++ toString precision ++ "," ++ toString scale ++ ")"
  | .time shown _ precision zone =>
    match zone with
    | .unsaid => shown ++ showSize precision
    | .aware => shown ++ showSize precision ++ " WITH TIME ZONE"
    | .unaware => shown ++ showSize precision ++ " WITHOUT TIME ZONE"
    | .short => shown ++ "TZ" ++ showSize precision
  | .zonedTime precision none => "DateTime64(" ++ toString precision ++ ")"
  | .zonedTime precision (some zone) => "DateTime64(" ++ toString precision ++ ", '" ++ zone ++ "')"
  | .fixedString length => "FixedString(" ++ toString length ++ ")"
  | .enumeration members bits =>
    "ENUM" ++ (bits.map toString).getD "" ++ "(" ++ commaList (members.map EnumMember.show) ++ ")"
  | .set values => "SET(" ++ commaList (values.map (showQuoted '\'')) ++ ")"
  | .angleArray element => "ARRAY<" ++ element.show ++ ">"
  | .array element size => element.show ++ "[" ++ (size.map toString).getD "" ++ "]"
  | .custom name [] => showName name
  | .custom name modifiers => showName name ++ "(" ++ commaList modifiers ++ ")"

def SetQuantifier.show : SetQuantifier → String
  | .none => ""
  | .all => " ALL"
  | .distinct => " DISTINCT"
  | .byName => " BY NAME"
  | .allByName => " ALL BY NAME"
  | .distinctByName => " DISTINCT BY NAME"

def showColumn : Ident × Option DataType → String
  | (name, none) => name.show
  | (name, some type) => name.show ++ " " ++ type.show

def TableAlias.show (a : TableAlias) : String :=
  a.name.show ++ if a.columns.isEmpty then "" else " (" ++ commaList (a.columns.map showColumn) ++ ")"

def showAlias : Option TableAlias → String
  | none => ""
  | some a => " AS " ++ a.show

def Materialized.show : Materialized → String
  | .unsaid => ""
  | .yes => "MATERIALIZED "
  | .no => "NOT MATERIALIZED "

def showEscape : Option String → String
  | none => ""
  | some c => " ESCAPE '" ++ c ++ "'"

/-- A part with a blank in front, or nothing. -/
def showSpaced : Option Shown → String
  | none => ""
  | some s => " " ++ s.text

/-- Parts behind a fixed text, or nothing. -/
def showListed (before : String) : List String → String
  | [] => ""
  | items => before ++ commaList items

mutual

def Query.show : Query → String
  | ⟨withClause, body, orderBy, limit, offset, offsetRows, fetch, locks, purpose⟩ =>
    showWith withClause ++ body.show ++ showListed " ORDER BY " (showOrder orderBy) ++
      showOption " LIMIT " "" limit ++ showOption " OFFSET " ((offsetRows.map (" " ++ ·)).getD "") offset ++
      showSpaced fetch ++ String.join (locks.map (" " ++ ·.text)) ++ showSpaced purpose

def showWith : Option WithClause → String
  | none => ""
  | some ⟨_, recursive, ctes⟩ =>
    "WITH " ++ (if recursive then "RECURSIVE " else "") ++ commaList (showCtes ctes) ++ " "

def showCtes : List Cte → List String
  | [] => []
  | ⟨a, materialized, query, source, _⟩ :: cs =>
    (a.show ++ " AS " ++ materialized.show ++ "(" ++ query.show ++ ")" ++
      (match source with
        | none => ""
        | some i => " FROM " ++ i.show)) :: showCtes cs

def Body.show : Body → String
  | .select s => s.show
  | .query q => "(" ++ q.show ++ ")"
  | .setOperation left op quantifier right =>
    left.show ++ " " ++ op.sql ++ quantifier.show ++ " " ++ right.show
  | .other shown => shown.text

def Select.show : Select → String
  | ⟨_, distinct, top, projection, into, sources, lateralViews, filter, groupAll, groupBy, clusterBy,
      distributeBy, sortBy, having, windows, qualify, windowsFirst⟩ =>
    let windowClause := showListed " WINDOW " (windows.map (·.text))
    let qualifyClause := showOption " QUALIFY " "" qualify
    "SELECT" ++ showSpaced distinct ++ showSpaced top ++ " " ++ commaList (showItems projection) ++
      showSpaced into ++ showListed " FROM " (showTableItems sources) ++
      String.join (lateralViews.map (" " ++ ·.text)) ++ showOption " WHERE " "" filter ++
      (if groupAll then " GROUP BY ALL" else showListed " GROUP BY " (showExprs groupBy)) ++
      showListed " CLUSTER BY " (showExprs clusterBy) ++
      showListed " DISTRIBUTE BY " (showExprs distributeBy) ++
      showListed " SORT BY " (showExprs sortBy) ++ showOption " HAVING " "" having ++
      if windowsFirst then windowClause ++ qualifyClause else qualifyClause ++ windowClause

def showItems : List Item → List String
  | [] => []
  | i :: is => i.show :: showItems is

def Item.show : Item → String
  | .expr e none => e.show
  | .expr e (some a) => e.show ++ " AS " ++ a.show
  | .wildcard _ => "*"
  | .wildcardOf name _ => showName name ++ ".*"

def showOrder : List OrderItem → List String
  | [] => []
  | ⟨e, ascending, nullsFirst⟩ :: os => (e.show ++ sortSql ascending nullsFirst) :: showOrder os

def showTableItems : List TableItem → List String
  | [] => []
  | t :: ts => t.show :: showTableItems ts

def TableItem.show : TableItem → String
  | ⟨factor, joins⟩ => factor.show ++ showJoins joins

def TableFactor.show : TableFactor → String
  | .table name args ordinality a hints =>
    showName name ++ showTableArguments args ++ (if ordinality then " WITH ORDINALITY" else "") ++
      showAlias a ++ if hints.isEmpty then "" else " WITH (" ++ commaList (showExprs hints) ++ ")"
  | .derived lateral query a =>
    (if lateral then "LATERAL " else "") ++ "(" ++ query.show ++ ")" ++ showAlias a
  | .function e a => "TABLE(" ++ e.show ++ ")" ++ showAlias a
  | .nestedJoin item a => "(" ++ item.show ++ ")" ++ showAlias a
  | .other shown => shown.text

def showTableArguments : Option (List Argument) → String
  | none => ""
  | some args => "(" ++ commaList (showArguments args) ++ ")"

def showJoins : List Join → String
  | [] => ""
  | ⟨isGlobal, operator, factor, constraint⟩ :: js =>
    (if isGlobal then " GLOBAL " else " ") ++ constraint.show (operator.show factor.show) ++
      showJoins js

/-- A join with the text of its table. -/
def JoinOperator.show (table : String) : JoinOperator → String
  | .known kind => kind.sql ++ " " ++ table
  | .other keyword _ => keyword ++ " " ++ table
  | .free keyword _ => keyword ++ " " ++ table
  | .asOf condition => "ASOF JOIN " ++ table ++ " MATCH_CONDITION (" ++ condition.show ++ ")"

/-- The constraint around the text of a join. -/
def Constraint.show (join : String) : Constraint → String
  | .none => join
  | .natural => "NATURAL " ++ join
  | .on e => join ++ " ON " ++ e.show
  | .using columns => join ++ " USING(" ++ showIdents columns ++ ")"

/-- An optional expression between two fixed texts, or nothing. -/
def showOption (before : String) (after : String) : Option Expr → String
  | none => ""
  | some e => before ++ e.show ++ after

def showExprs : List Expr → List String
  | [] => []
  | e :: es => e.show :: showExprs es

def showWhens : List (Expr × Expr) → String
  | [] => ""
  | (condition, result) :: ws =>
    " WHEN " ++ condition.show ++ " THEN " ++ result.show ++ showWhens ws

def Expr.show : Expr → String
  | .identifier i => i.show
  | .compound parts => showName parts
  | .constant value => value.show
  | .binary left op right => left.show ++ " " ++ op.show ++ " " ++ right.show
  | .unary (.known .not) e => "NOT " ++ e.show
  | .unary (.known op) e => op.sql ++ e.show
  | .unary (.before symbol _) e => symbol ++ e.show
  | .unary (.after symbol _) e => e.show ++ symbol
  | .function call => call.show
  | .substring e start length commas =>
    "SUBSTRING(" ++ e.show ++ showOption (if commas then ", " else " FROM ") "" start ++
      showOption (if commas then ", " else " FOR ") "" length ++ ")"
  | .case operand whens otherwise =>
    "CASE" ++ showOption " " "" operand ++ showWhens whens ++ showOption " ELSE " "" otherwise ++
      " END"
  | .subquery query => "(" ++ query.show ++ ")"
  | .exists query negated => notSql negated ++ "EXISTS (" ++ query.show ++ ")"
  | .inList e list negated =>
    e.show ++ " " ++ notSql negated ++ "IN (" ++ commaList (showExprs list) ++ ")"
  | .inSubquery e query negated =>
    e.show ++ " " ++ notSql negated ++ "IN (" ++ query.show ++ ")"
  | .between e low high negated =>
    e.show ++ " " ++ notSql negated ++ "BETWEEN " ++ low.show ++ " AND " ++ high.show
  | .isNull e negated => e.show ++ " IS " ++ notSql negated ++ "NULL"
  | .cast (.call word _) e dataType format =>
    word ++ "(" ++ e.show ++ " AS " ++ dataType.show ++ showSpaced format ++ ")"
  | .cast .colons e dataType _ => e.show ++ "::" ++ dataType.show
  | .nested e => "(" ++ e.show ++ ")"
  | .like e pattern ignoreCase negated any escape =>
    e.show ++ " " ++ notSql negated ++ (if ignoreCase then "ILIKE " else "LIKE ") ++
      (if !any then "" else if ignoreCase && escape.isSome then "ANY" else "ANY ") ++
      pattern.show ++ showEscape escape
  | .wildcardOf name _ => showName name ++ ".*"
  | .other shown => shown.text

def Call.show : Call → String
  | ⟨name, braces, args, withinGroup, filter, nulls, window⟩ =>
    (if braces then "\x7bfn " else "") ++ showName name ++ args.show ++
      (if withinGroup.isEmpty then ""
        else " WITHIN GROUP (ORDER BY " ++ commaList (showOrder withinGroup) ++ ")") ++
      showOption " FILTER (WHERE " ")" filter ++ showSpaced nulls ++
      (match window with
        | none => ""
        | some shown => " OVER " ++ shown.text) ++ if braces then "\x7d" else ""

def Arguments.show : Arguments → String
  | .none => ""
  | .list distinct args clauses =>
    "(" ++
      (match distinct with
        | none => ""
        | some true => "DISTINCT "
        | some false => "ALL ") ++ commaList (showArguments args) ++
      (if clauses.isEmpty || args.isEmpty then "" else " ") ++
      " ".intercalate (clauses.map (·.text)) ++ ")"
  | .subquery query => "(" ++ query.show ++ ")"

def showArguments : List Argument → List String
  | [] => []
  | a :: as => a.show :: showArguments as

def Argument.show : Argument → String
  | .expr e => e.show
  | .wildcard _ => "*"
  | .wildcardOf name _ => showName name ++ ".*"
  | .named name symbol _ value => name.show ++ " " ++ symbol ++ " " ++ value.show

end

def Statement.show : Statement → String
  | .query q => q.show
  | .other text => text

end LogicalSql.Surface
