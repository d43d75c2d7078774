import LogicalSql.Text.Digits

/-! Dates of the proleptic Gregorian calendar and times of day. -/
namespace LogicalSql

def isLeapYear (year : Int) : Bool := year % 4 == 0 && (year % 100 != 0 || year % 400 == 0)

def daysInMonth (year month : Int) : Int :=
  if month = 2 then if isLeapYear year then 29 else 28
  else if month = 4 ∨ month = 6 ∨ month = 9 ∨ month = 11 then 30
  else 31

/-- The years that calendar dates may have. -/
def minYear : Int := -262143

def maxYear : Int := 262142

def isDate (year month day : Int) : Bool :=
  minYear ≤ year && year ≤ maxYear && 1 ≤ month && month ≤ 12 && 1 ≤ day &&
    day ≤ daysInMonth year month

def isTime (hour minute second : Int) : Bool :=
  0 ≤ hour && hour < 24 && 0 ≤ minute && minute < 60 && 0 ≤ second && second < 60

/-- Four digits from 0 to 9999. Other years have a sign and at least four digits. -/
def yearText (year : Int) : String :=
  if 0 ≤ year ∧ year ≤ 9999 then Text.padded 4 year.toNat
  else (if year < 0 then "-" else "+") ++ Text.padded 4 year.natAbs

def twoDigits (n : Int) : String := Text.padded 2 n.toNat

def dateText (year month day : Int) : String :=
  yearText year ++ "-" ++ twoDigits month ++ "-" ++ twoDigits day

def timeText (hour minute second : Int) : String :=
  twoDigits hour ++ ":" ++ twoDigits minute ++ ":" ++ twoDigits second

/-- The signed word with this value. -/
def int32? (n : Int) : Option Int32 :=
  if -0x80000000 ≤ n ∧ n < 0x80000000 then some (Int32.ofInt n) else none

/-- The unsigned word with this value. -/
def uint32? (n : Int) : Option UInt32 :=
  if 0 ≤ n ∧ n < 0x100000000 then some (UInt32.ofNat n.toNat) else none

structure Date where
  year : Int32
  month : UInt32
  day : UInt32
  isDate : isDate year.toInt month.toNat day.toNat

namespace Date

def ofWords? (year : Int32) (month day : UInt32) : Option Date :=
  if h : LogicalSql.isDate year.toInt month.toNat day.toNat then some ⟨year, month, day, h⟩
  else none

def text (date : Date) : String := dateText date.year.toInt date.month.toNat date.day.toNat

end Date

structure Time where
  hour : UInt32
  minute : UInt32
  second : UInt32
  isTime : isTime hour.toNat minute.toNat second.toNat

namespace Time

def ofWords? (hour minute second : UInt32) : Option Time :=
  if h : LogicalSql.isTime hour.toNat minute.toNat second.toNat then some ⟨hour, minute, second, h⟩
  else none

def text (time : Time) : String := timeText time.hour.toNat time.minute.toNat time.second.toNat

end Time

end LogicalSql
