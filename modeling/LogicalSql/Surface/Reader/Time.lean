import LogicalSql.Surface.Reader.Level

/-! Units of time and intervals. -/
namespace LogicalSql.Surface.Reader

open Outline

variable (L : Level)

/-- Units of time that are keywords, with the names they go by. -/
def timeUnits : List (String × String) := [
  ("YEAR", "Year"), ("MONTH", "Month"), ("WEEK", "Week(None)"), ("DAY", "Day"),
  ("DAYOFWEEK", "DayOfWeek"), ("DAYOFYEAR", "DayOfYear"), ("DATE", "Date"),
  ("DATETIME", "Datetime"), ("HOUR", "Hour"), ("MINUTE", "Minute"), ("SECOND", "Second"),
  ("CENTURY", "Century"), ("DECADE", "Decade"), ("DOY", "Doy"), ("DOW", "Dow"), ("EPOCH", "Epoch"),
  ("ISODOW", "Isodow"), ("ISOYEAR", "Isoyear"), ("ISOWEEK", "IsoWeek"), ("JULIAN", "Julian"),
  ("MICROSECOND", "Microsecond"), ("MICROSECONDS", "Microseconds"), ("MILLENIUM", "Millenium"),
  ("MILLENNIUM", "Millennium"), ("MILLISECOND", "Millisecond"), ("MILLISECONDS", "Milliseconds"),
  ("NANOSECOND", "Nanosecond"), ("NANOSECONDS", "Nanoseconds"), ("QUARTER", "Quarter"),
  ("TIME", "Time"), ("TIMEZONE", "Timezone"), ("TIMEZONE_ABBR", "TimezoneAbbr"),
  ("TIMEZONE_HOUR", "TimezoneHour"), ("TIMEZONE_MINUTE", "TimezoneMinute"),
  ("TIMEZONE_REGION", "TimezoneRegion")]

/-- Units that may follow the value of an interval. -/
def intervalUnits : List String := [
  "YEAR", "MONTH", "WEEK", "DAY", "HOUR", "MINUTE", "SECOND", "CENTURY", "DECADE", "DOW", "DOY",
  "EPOCH", "ISODOW", "ISOYEAR", "JULIAN", "MICROSECOND", "MICROSECONDS", "MILLENIUM", "MILLENNIUM",
  "MILLISECOND", "MILLISECONDS", "NANOSECOND", "NANOSECONDS", "QUARTER", "TIMEZONE",
  "TIMEZONE_HOUR", "TIMEZONE_MINUTE"]

/-- A keyword for a unit, or any other name. -/
def timeUnit : Reader Shown := do
  match ← peekWord? with
  | some word =>
    match timeUnits.lookup word with
    | some name =>
      skip 1
      return ⟨word, name⟩
    | none => custom
  | none => custom
where
  custom : Reader Shown := do
    let name ← identifier
    return ⟨name.show, tuple "Custom" [name.outline]⟩

def isSecond (unit : Option Shown) : Bool := unit.map (·.outline) == some "Second"

def showPrecision : Option Nat → String
  | none => ""
  | some n => " (" ++ toString n ++ ")"

/-- An interval: its value, the first unit with its precision, and the last unit. -/
def intervalOf (value : Expr) (first : Option Shown) (precision : Option Nat)
    (last : Option Shown) (fraction : Option Nat) : Expr :=
  let head := "INTERVAL " ++ value.show ++ showSpaced first
  let text := match isSecond first, precision, fraction with
    | true, some n, some m => head ++ " (" ++ toString n ++ ", " ++ toString m ++ ")"
    | _, _, _ => head ++ showPrecision precision ++ (last.map (" TO " ++ ·.text)).getD "" ++
        showPrecision fraction
  .other ⟨text, tuple "Interval" [record "Interval" [("value", value.outline),
    ("leading_field", outlineShown first), ("leading_precision", outlineSize precision),
    ("last_field", outlineShown last), ("fractional_seconds_precision", outlineSize fraction)]]⟩

/-- The value of an interval with its units. -/
def interval : Reader Expr := do
  let value ← L.primary
  let hasUnit := ((← peekWord?).map intervalUnits.contains).getD false
  let first ← option (pure hasUnit) timeUnit
  if isSecond first then
    match ← precisionScale? with
    | some (n, m) => return intervalOf value first (some n) none m
    | none => return intervalOf value first none none none
  else
    let precision ← size?
    if ← keyword "TO" then
      let last ← timeUnit
      let fraction ← if isSecond (some last) then size? else pure none
      return intervalOf value first precision (some last) fraction
    else return intervalOf value first precision none none

end LogicalSql.Surface.Reader
