import LogicalSql.Calendar
import LogicalSql.Lowering.TypeColumn
import LogicalSql.Query.Walk

/-! What each logical function becomes in SQL. -/
namespace LogicalSql.Lowering

def integerLiteral? : Expr → Option Int
  | .literal (.integer n) => some n
  | _ => none

/-- A component that is out of range makes all of them invalid. -/
def required {α : Type} (components : List Int) : Option α → Except LoweringError α
  | some a => .ok a
  | none => .error (.invalidDate components)

def date (components : List Int) (year month day : Int) : Except LoweringError Date := do
  let year ← required components (int32? year)
  let month ← required components (uint32? month)
  let day ← required components (uint32? day)
  required components (Date.ofWords? year month day)

def time (components : List Int) (hour minute second : Int) : Except LoweringError Time := do
  let hour ← required components (uint32? hour)
  let minute ← required components (uint32? minute)
  let second ← required components (uint32? second)
  required components (Time.ofWords? hour minute second)

/-- A date from three components, or a date and a time from six. -/
def dateTime (components : List Int) : Except LoweringError Expr :=
  match components with
  | [year, month, day] => do
    let date ← date components year month day
    return .cast (.string date.text) "date"
  | [year, month, day, hour, minute, second] => do
    let date ← date components year month day
    let time ← time components hour minute second
    return .cast (.string (date.text ++ " " ++ time.text)) "timestamp"
  | _ => .error (.argumentCount .dateTime [3, 6] components.length)

/-- Arguments are lowered already. Only `TYPEIDENTIFIER` looks at the scope and changes it. -/
def lowerCall (mappings : MappingSource) : Hook (Except LoweringError)
  | .dateTime, args, scope => do
    if ¬(args.length = 3 ∨ args.length = 6) then
      throw (.argumentCount .dateTime [3, 6] args.length)
    let some components := args.mapM integerLiteral?
      | throw (.literalRequired .dateTime (",".intercalate (args.map Expr.sql)))
    return (← dateTime components, scope)
  | .year, [value], scope => return (.call .datePart [.string "year", value], scope)
  | .quarter, [value], scope => return (.call .datePart [.string "quarter", value], scope)
  | .presentation, [value], scope => return (value, scope)
  | .isNull, [value, fallback], scope =>
    return (.case none [(.isNull value false, fallback)] (some value), scope)
  | .substring, [text, start, length], scope =>
    return (.call .substring [.cast text "varchar", start, length], scope)
  | .dateTrunc, [value, period], scope => return (.call .dateTrunc [period, value], scope)
  | .datePart, args, scope => return (.call .datePart args, scope)
  | .typeIdentifier, [.column table name], scope =>
    typeColumn mappings maxDepth table name scope
  | .typeIdentifier, [_], _ => throw (.columnReferenceRequired .typeIdentifier)
  | .isNull, args, _ => throw (.argumentCount .isNull [2] args.length)
  | .substring, args, _ => throw (.argumentCount .substring [3] args.length)
  | .dateTrunc, args, _ => throw (.argumentCount .dateTrunc [2] args.length)
  | function, args, _ => throw (.argumentCount function [1] args.length)

end LogicalSql.Lowering

namespace LogicalSql

/-- Replaces every call of a logical function. -/
def Query.lower (mappings : MappingSource) (query : Query) : Except LoweringError Query :=
  query.walk (Lowering.lowerCall mappings)

end LogicalSql
