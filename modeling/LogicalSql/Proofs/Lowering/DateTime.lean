import LogicalSql.Lowering.Call
import LogicalSql.Proofs.Outcome
import LogicalSql.Proofs.Text.Lines
import LogicalSql.Proofs.Text.Printed
import Mathlib.Data.List.Forall2

/-! Literals of dates and times. A literal is accepted just when its components are those of a date
of the calendar, with or without a time, and its text gives the components back. -/
namespace LogicalSql

/-! The calendar. -/

/-- Every fourth year, but of the full centuries only every fourth one. -/
def IsLeap (year : Int) : Prop := 4 ∣ year ∧ (100 ∣ year → 400 ∣ year)

inductive MonthLength (year : Int) : Int → Int → Prop
  | long {month : Int} (h : month ∈ [1, 3, 5, 7, 8, 10, 12]) : MonthLength year month 31
  | short {month : Int} (h : month ∈ [4, 6, 9, 11]) : MonthLength year month 30
  | leap (h : IsLeap year) : MonthLength year 2 29
  | common (h : ¬IsLeap year) : MonthLength year 2 28

structure IsCalendarDate (year month day : Int) : Prop where
  inYears : -262143 ≤ year ∧ year ≤ 262142
  inMonth : ∃ length, MonthLength year month length ∧ 1 ≤ day ∧ day ≤ length

structure IsClockTime (hour minute second : Int) : Prop where
  hour : 0 ≤ hour ∧ hour < 24
  minute : 0 ≤ minute ∧ minute < 60
  second : 0 ≤ second ∧ second < 60

/-- A date, or a date and a time. -/
inductive IsDateTime : List Int → Prop
  | date {year month day : Int} (h : IsCalendarDate year month day) : IsDateTime [year, month, day]
  | timestamp {year month day hour minute second : Int} (h : IsCalendarDate year month day)
      (ht : IsClockTime hour minute second) :
      IsDateTime [year, month, day, hour, minute, second]

theorem isLeapYear_iff (year : Int) : isLeapYear year = true ↔ IsLeap year := by
  simp only [isLeapYear, IsLeap, Bool.and_eq_true, Bool.or_eq_true, beq_iff_eq, bne_iff_ne]
  omega

theorem monthLength_iff {year month length : Int} :
    MonthLength year month length ↔
      (1 ≤ month ∧ month ≤ 12) ∧ length = daysInMonth year month := by
  constructor
  · intro h
    cases h with
    | long h =>
      simp only [List.mem_cons, List.not_mem_nil, or_false] at h
      refine ⟨by omega, ?_⟩
      rw [daysInMonth, if_neg (by omega), if_neg (by omega)]
    | short h =>
      simp only [List.mem_cons, List.not_mem_nil, or_false] at h
      refine ⟨by omega, ?_⟩
      rw [daysInMonth, if_neg (by omega), if_pos h]
    | leap h =>
      refine ⟨by decide, ?_⟩
      rw [daysInMonth, if_pos rfl, if_pos ((isLeapYear_iff year).2 h)]
    | common h =>
      refine ⟨by decide, ?_⟩
      rw [daysInMonth, if_pos rfl, if_neg (mt (isLeapYear_iff year).1 h)]
  · rintro ⟨hmonth, rfl⟩
    unfold daysInMonth
    split_ifs with htwo hleap hshort
    · rw [htwo]
      exact .leap ((isLeapYear_iff year).1 hleap)
    · rw [htwo]
      exact .common (mt (isLeapYear_iff year).2 hleap)
    · exact .short (by simpa using hshort)
    · refine .long ?_
      simp only [List.mem_cons, List.not_mem_nil, or_false]
      omega

theorem isDate_iff (year month day : Int) :
    isDate year month day = true ↔ IsCalendarDate year month day := by
  simp only [isDate, Bool.and_eq_true, decide_eq_true_eq]
  constructor
  · rintro ⟨⟨⟨⟨hyear, hmonth⟩, htwelve⟩, hone⟩, hday⟩
    exact ⟨hyear, _, monthLength_iff.2 ⟨⟨hmonth, htwelve⟩, rfl⟩, hone, hday⟩
  · rintro ⟨hyear, length, hlength, hone, hday⟩
    obtain ⟨⟨hmonth, htwelve⟩, rfl⟩ := monthLength_iff.1 hlength
    exact ⟨⟨⟨⟨hyear, hmonth⟩, htwelve⟩, hone⟩, hday⟩

theorem isTime_iff (hour minute second : Int) :
    isTime hour minute second = true ↔ IsClockTime hour minute second := by
  simp only [isTime, Bool.and_eq_true, decide_eq_true_eq]
  constructor
  · intro h
    constructor <;> omega
  · rintro ⟨hh, hm, hs⟩
    omega

/-! Components narrowed to words. -/

/-- The word of a number has the value of that number, so narrowing loses nothing. -/
theorem int32?_eq_some {n : Int} {w : Int32} : int32? n = some w ↔ w.toInt = n := by
  unfold int32?
  constructor
  · intro h
    split_ifs at h with hn
    cases h
    exact Int32.toInt_ofInt_of_le hn.1 hn.2
  · rintro rfl
    rw [if_pos ⟨w.le_toInt, w.toInt_lt⟩, Int32.ofInt_toInt]

theorem uint32?_eq_some {n : Int} {w : UInt32} : uint32? n = some w ↔ (w.toNat : Int) = n := by
  unfold uint32?
  constructor
  · intro h
    split_ifs at h with hn
    cases h
    have hsize : n.toNat < UInt32.size := by
      rw [UInt32.size]
      omega
    rw [UInt32.toNat_ofNat_of_lt' hsize]
    omega
  · rintro rfl
    have hw : w.toNat < 2 ^ 32 := w.toNat_lt
    rw [if_pos (by omega), Int.toNat_natCast, UInt32.ofNat_toNat]

theorem exists_uint32 {n : Int} (h : 0 ≤ n ∧ n < 0x100000000) :
    ∃ w : UInt32, (w.toNat : Int) = n :=
  ⟨_, uint32?_eq_some.1 (if_pos h)⟩

theorem Date.ofWords?_eq_some {year : Int32} {month day : UInt32} {a : Date} :
    ofWords? year month day = some a ↔ a.year = year ∧ a.month = month ∧ a.day = day := by
  unfold ofWords?
  constructor
  · intro h
    split_ifs at h
    cases h
    exact ⟨rfl, rfl, rfl⟩
  · rintro ⟨rfl, rfl, rfl⟩
    rw [dif_pos a.isDate]

theorem Time.ofWords?_eq_some {hour minute second : UInt32} {a : Time} :
    ofWords? hour minute second = some a ↔ a.hour = hour ∧ a.minute = minute ∧
      a.second = second := by
  unfold ofWords?
  constructor
  · intro h
    split_ifs at h
    cases h
    exact ⟨rfl, rfl, rfl⟩
  · rintro ⟨rfl, rfl, rfl⟩
    rw [dif_pos a.isTime]

namespace Lowering

variable {ns : List Int} {year month day hour minute second : Int}

theorem required_eq_ok {α : Type} {value? : Option α} {a : α} :
    required ns value? = .ok a ↔ value? = some a := by
  cases value? with
  | none => simp [required]
  | some b => simp [required]

theorem required_fails {α : Type} (value? : Option α) :
    Fails (required ns value?) (· = .invalidDate ns) := by
  cases value? with
  | none => exact .error rfl
  | some a => exact .ok a

/-- The date has the components as they were given. -/
theorem date_eq_ok {a : Date} :
    date ns year month day = .ok a ↔
      a.year.toInt = year ∧ (a.month.toNat : Int) = month ∧ (a.day.toNat : Int) = day := by
  simp only [date, bind_eq_ok, required_eq_ok, int32?_eq_some, uint32?_eq_some,
    Date.ofWords?_eq_some]
  constructor
  · rintro ⟨y, hy, m, hm, d, hd, rfl, rfl, rfl⟩
    exact ⟨hy, hm, hd⟩
  · rintro ⟨hy, hm, hd⟩
    exact ⟨_, hy, _, hm, _, hd, rfl, rfl, rfl⟩

theorem time_eq_ok {a : Time} :
    time ns hour minute second = .ok a ↔
      (a.hour.toNat : Int) = hour ∧ (a.minute.toNat : Int) = minute ∧
        (a.second.toNat : Int) = second := by
  simp only [time, bind_eq_ok, required_eq_ok, uint32?_eq_some, Time.ofWords?_eq_some]
  constructor
  · rintro ⟨h, hh, m, hm, s, hs, rfl, rfl, rfl⟩
    exact ⟨hh, hm, hs⟩
  · rintro ⟨hh, hm, hs⟩
    exact ⟨_, hh, _, hm, _, hs, rfl, rfl, rfl⟩

theorem text_of_date {a : Date} (h : date ns year month day = .ok a) :
    a.text = dateText year month day := by
  obtain ⟨rfl, rfl, rfl⟩ := date_eq_ok.1 h
  rfl

theorem text_of_time {a : Time} (h : time ns hour minute second = .ok a) :
    a.text = timeText hour minute second := by
  obtain ⟨rfl, rfl, rfl⟩ := time_eq_ok.1 h
  rfl

theorem date_fails : Fails (date ns year month day) (· = .invalidDate ns) :=
  (required_fails _).bind fun _ _ => (required_fails _).bind fun _ _ =>
    (required_fails _).bind fun _ _ => required_fails _

theorem time_fails : Fails (time ns hour minute second) (· = .invalidDate ns) :=
  (required_fails _).bind fun _ _ => (required_fails _).bind fun _ _ =>
    (required_fails _).bind fun _ _ => required_fails _

/-- Every date of the calendar fits into words. -/
theorem exists_date_iff :
    (∃ a, date ns year month day = .ok a) ↔ IsCalendarDate year month day := by
  constructor
  · rintro ⟨a, ha⟩
    obtain ⟨rfl, rfl, rfl⟩ := date_eq_ok.1 ha
    exact (isDate_iff ..).1 a.isDate
  · intro h
    obtain ⟨length, hlength, hone, hday⟩ := h.inMonth
    have hmonth := (monthLength_iff.1 hlength).1
    have hle : length ≤ 31 := by cases hlength <;> decide
    have hyears := h.inYears
    obtain ⟨y, rfl⟩ : ∃ y : Int32, y.toInt = year :=
      ⟨_, int32?_eq_some.1 (if_pos (by omega))⟩
    obtain ⟨m, rfl⟩ : ∃ m : UInt32, (m.toNat : Int) = month := exists_uint32 (by omega)
    obtain ⟨d, rfl⟩ : ∃ d : UInt32, (d.toNat : Int) = day := exists_uint32 (by omega)
    exact ⟨⟨y, m, d, (isDate_iff ..).2 h⟩, date_eq_ok.2 ⟨rfl, rfl, rfl⟩⟩

theorem exists_time_iff :
    (∃ a, time ns hour minute second = .ok a) ↔ IsClockTime hour minute second := by
  constructor
  · rintro ⟨a, ha⟩
    obtain ⟨rfl, rfl, rfl⟩ := time_eq_ok.1 ha
    exact (isTime_iff ..).1 a.isTime
  · intro h
    have hhour := h.hour
    have hminute := h.minute
    have hsecond := h.second
    obtain ⟨t, rfl⟩ : ∃ t : UInt32, (t.toNat : Int) = hour := exists_uint32 (by omega)
    obtain ⟨m, rfl⟩ : ∃ m : UInt32, (m.toNat : Int) = minute := exists_uint32 (by omega)
    obtain ⟨s, rfl⟩ : ∃ s : UInt32, (s.toNat : Int) = second := exists_uint32 (by omega)
    exact ⟨⟨t, m, s, (isTime_iff ..).2 h⟩, time_eq_ok.2 ⟨rfl, rfl, rfl⟩⟩

end Lowering

/-! Texts of dates and times. -/

/-- Two decimal digits. -/
def IsTwoDigits (n : Int) (cs : List Char) : Prop :=
  cs.length = 2 ∧ ∃ k : Nat, Text.readNat? cs = some k ∧ n = k

/-- Four decimal digits or more, with a sign just outside of 0 to 9999. -/
def IsYearText (year : Int) (cs : List Char) : Prop :=
  ∃ sign digits, cs = sign ++ digits ∧ 4 ≤ digits.length ∧
    Text.readNat? digits = some year.natAbs ∧
    (sign = [] ∧ 0 ≤ year ∧ year ≤ 9999 ∨ sign = ['-'] ∧ year < 0 ∨ sign = ['+'] ∧ 9999 < year)

inductive IsDateText : List Int → List Char → Prop
  | mk {year month day : Int} {y m d : List Char} (hyear : IsYearText year y)
      (hmonth : IsTwoDigits month m) (hday : IsTwoDigits day d) :
      IsDateText [year, month, day] (y ++ '-' :: m ++ '-' :: d)

inductive IsTimeText : List Int → List Char → Prop
  | mk {hour minute second : Int} {h m s : List Char} (hhour : IsTwoDigits hour h)
      (hminute : IsTwoDigits minute m) (hsecond : IsTwoDigits second s) :
      IsTimeText [hour, minute, second] (h ++ ':' :: m ++ ':' :: s)

/-- A date, or a date and a time behind a blank. -/
inductive IsDateTimeText : List Int → String → Prop
  | date {ds : List Int} {cs : List Char} (h : IsDateText ds cs) :
      IsDateTimeText ds (String.ofList cs)
  | timestamp {ds ts : List Int} {cs cs' : List Char} (h : IsDateText ds cs)
      (ht : IsTimeText ts cs') : IsDateTimeText (ds ++ ts) (String.ofList (cs ++ ' ' :: cs'))

theorem isTwoDigits_twoDigits {n : Int} (hn : 0 ≤ n ∧ n < 100) :
    IsTwoDigits n (twoDigits n).toList := by
  refine ⟨Text.length_padded_two (by omega), n.toNat, Text.readNat?_padded 2 n.toNat, ?_⟩
  omega

theorem isYearText_yearText (year : Int) : IsYearText year (yearText year).toList := by
  unfold yearText
  split_ifs with hplain hneg
  · have hyear : year.toNat = year.natAbs := by omega
    rw [hyear]
    exact ⟨[], _, (List.nil_append _).symm, Text.le_length_padded 4 _,
      Text.readNat?_padded 4 _, .inl ⟨rfl, hplain⟩⟩
  · exact ⟨['-'], _, String.toList_append, Text.le_length_padded 4 _,
      Text.readNat?_padded 4 _, .inr (.inl ⟨rfl, hneg⟩)⟩
  · have hlarge : 9999 < year := by omega
    exact ⟨['+'], _, String.toList_append, Text.le_length_padded 4 _,
      Text.readNat?_padded 4 _, .inr (.inr ⟨rfl, hlarge⟩)⟩

theorem isDateText_dateText {year month day : Int} (h : IsCalendarDate year month day) :
    IsDateText [year, month, day] (dateText year month day).toList := by
  obtain ⟨length, hlength, hone, hday⟩ := h.inMonth
  have hmonth := (monthLength_iff.1 hlength).1
  have hle : length ≤ 31 := by cases hlength <;> decide
  have htext : (dateText year month day).toList =
      (yearText year).toList ++ '-' :: (twoDigits month).toList ++
        '-' :: (twoDigits day).toList := by
    simp [dateText]
  rw [htext]
  exact .mk (isYearText_yearText year) (isTwoDigits_twoDigits (by omega))
    (isTwoDigits_twoDigits (by omega))

theorem isTimeText_timeText {hour minute second : Int} (h : IsClockTime hour minute second) :
    IsTimeText [hour, minute, second] (timeText hour minute second).toList := by
  obtain ⟨hhour, hminute, hsecond⟩ := h
  have htext : (timeText hour minute second).toList = (twoDigits hour).toList ++
      ':' :: (twoDigits minute).toList ++ ':' :: (twoDigits second).toList := by
    simp [timeText]
  rw [htext]
  exact .mk (isTwoDigits_twoDigits (by omega)) (isTwoDigits_twoDigits (by omega))
    (isTwoDigits_twoDigits (by omega))

/-! Reading them. -/

/-- The numbers between separators. -/
def readNumbers? (sep : Char) (cs : List Char) : Option (List Int) :=
  (Text.splitOn sep cs).mapM fun piece => (Text.readNat? piece).map Int.ofNat

/-- The sign is that of the year. -/
def readDate? (cs : List Char) : Option (List Int) :=
  if cs.head? = some '-' then (readNumbers? '-' cs.tail).map fun ns => ns.modifyHead (-·)
  else if cs.head? = some '+' then readNumbers? '-' cs.tail
  else readNumbers? '-' cs

def readDateTime? (text : String) : Option (List Int) :=
  match Text.splitOn ' ' text.toList with
  | [date] => readDate? date
  | [date, time] => do return (← readDate? date) ++ (← readNumbers? ':' time)
  | _ => none

section Reading

variable {a b c : List Char} {i j k : Nat}

theorem not_mem_of_readNat? (sep : Char) (hsep : sep.isDigit = false)
    (h : Text.readNat? a = some i) : sep ∉ a := by
  intro hmem
  exact Bool.false_ne_true (hsep.symm.trans (Text.isDigit_of_readNat? h sep hmem))

theorem readNumbers?_three {sep : Char} (hsep : sep.isDigit = false)
    (ha : Text.readNat? a = some i) (hb : Text.readNat? b = some j)
    (hc : Text.readNat? c = some k) :
    readNumbers? sep (a ++ sep :: b ++ sep :: c) = some [(i : Int), j, k] := by
  have hjoin : a ++ sep :: b ++ sep :: c = [sep].intercalate [a, b, c] := by
    simp [List.intercalate]
  have hsplit : Text.splitOn sep ([sep].intercalate [a, b, c]) = [a, b, c] := by
    refine (Text.splitOn_intercalate_iff (List.cons_ne_nil _ _)).2 ?_
    simp [not_mem_of_readNat? sep hsep ha, not_mem_of_readNat? sep hsep hb,
      not_mem_of_readNat? sep hsep hc]
  rw [readNumbers?, hjoin, hsplit]
  simp [ha, hb, hc]

end Reading

theorem readDate?_minus (cs : List Char) :
    readDate? ('-' :: cs) = (readNumbers? '-' cs).map fun ns => ns.modifyHead (-·) := if_pos rfl

theorem readDate?_plus (cs : List Char) : readDate? ('+' :: cs) = readNumbers? '-' cs := rfl

theorem readDate?_of_isDateText {ns : List Int} {cs : List Char} (h : IsDateText ns cs) :
    readDate? cs = some ns := by
  cases h with
  | @mk year month day y m d hyear hmonth hday =>
    obtain ⟨sign, digits, rfl, hlength, hvalue, hsign⟩ := hyear
    obtain ⟨-, j, hj, rfl⟩ := hmonth
    obtain ⟨-, k, hk, rfl⟩ := hday
    have hread : readNumbers? '-' (digits ++ '-' :: m ++ '-' :: d) =
        some [(year.natAbs : Int), j, k] :=
      readNumbers?_three rfl hvalue hj hk
    rw [List.append_assoc sign, List.append_assoc sign]
    rcases hsign with ⟨rfl, hlow, -⟩ | ⟨rfl, hneg⟩ | ⟨rfl, hlarge⟩
    · -- without a sign the text starts with a digit
      have hyear : (year.natAbs : Int) = year := by omega
      obtain ⟨e, es, rfl⟩ := List.exists_cons_of_length_pos (by omega : 0 < digits.length)
      have hminus : '-' ∉ e :: es := not_mem_of_readNat? '-' rfl hvalue
      have hplus : '+' ∉ e :: es := not_mem_of_readNat? '+' rfl hvalue
      rw [List.mem_cons, not_or] at hminus hplus
      rw [readDate?, if_neg (by simpa using Ne.symm hminus.1),
        if_neg (by simpa using Ne.symm hplus.1), List.nil_append, hread, hyear]
    · have hyear : -(year.natAbs : Int) = year := by omega
      rw [List.singleton_append, readDate?_minus, hread, Option.map_some, List.modifyHead_cons,
        hyear]
    · have hyear : (year.natAbs : Int) = year := by omega
      rw [List.singleton_append, readDate?_plus, hread, hyear]

theorem readNumbers?_of_isTimeText {ns : List Int} {cs : List Char} (h : IsTimeText ns cs) :
    readNumbers? ':' cs = some ns := by
  cases h with
  | mk hhour hminute hsecond =>
    obtain ⟨-, i, hi, rfl⟩ := hhour
    obtain ⟨-, j, hj, rfl⟩ := hminute
    obtain ⟨-, k, hk, rfl⟩ := hsecond
    exact readNumbers?_three rfl hi hj hk

theorem IsTwoDigits.blank_not_mem {n : Int} {cs : List Char} (h : IsTwoDigits n cs) : ' ' ∉ cs := by
  obtain ⟨-, k, hk, -⟩ := h
  exact not_mem_of_readNat? ' ' rfl hk

theorem IsDateText.blank_not_mem {ns : List Int} {cs : List Char} (h : IsDateText ns cs) :
    ' ' ∉ cs := by
  cases h with
  | mk hyear hmonth hday =>
    obtain ⟨sign, digits, rfl, -, hvalue, hsign⟩ := hyear
    have hdigits := not_mem_of_readNat? ' ' rfl hvalue
    rcases hsign with ⟨rfl, -⟩ | ⟨rfl, -⟩ | ⟨rfl, -⟩ <;>
      simp [hdigits, hmonth.blank_not_mem, hday.blank_not_mem]

theorem IsTimeText.blank_not_mem {ns : List Int} {cs : List Char} (h : IsTimeText ns cs) :
    ' ' ∉ cs := by
  cases h with
  | mk hhour hminute hsecond =>
    simp [hhour.blank_not_mem, hminute.blank_not_mem, hsecond.blank_not_mem]

/-- The components are read back from their text. -/
theorem readDateTime?_of_isDateTimeText {components : List Int} {text : String}
    (h : IsDateTimeText components text) : readDateTime? text = some components := by
  unfold readDateTime?
  cases h with
  | @date ds cs hdate =>
    have hsplit : Text.splitOn ' ' ([' '].intercalate [cs]) = [cs] :=
      (Text.splitOn_intercalate_iff (List.cons_ne_nil _ _)).2 (by simpa using hdate.blank_not_mem)
    rw [List.intercalate_singleton] at hsplit
    rw [String.toList_ofList, hsplit]
    exact readDate?_of_isDateText hdate
  | @timestamp ds ts cs cs' hdate htime =>
    have hsplit : Text.splitOn ' ' ([' '].intercalate [cs, cs']) = [cs, cs'] :=
      (Text.splitOn_intercalate_iff (List.cons_ne_nil _ _)).2
        (by simpa using ⟨hdate.blank_not_mem, htime.blank_not_mem⟩)
    have hjoin : [' '].intercalate [cs, cs'] = cs ++ ' ' :: cs' := by simp [List.intercalate]
    rw [hjoin] at hsplit
    rw [String.toList_ofList, hsplit]
    simp [readDate?_of_isDateText hdate, readNumbers?_of_isTimeText htime]

namespace Lowering

variable {ns : List Int}

theorem dateTime_of_isDateTime (h : IsDateTime ns) :
    ∃ text, dateTime ns =
        .ok (.cast (.string text) (if ns.length = 3 then "date" else "timestamp")) ∧
      IsDateTimeText ns text := by
  cases h with
  | @date year month day hdate =>
    refine ⟨dateText year month day, ?_, ?_⟩
    · obtain ⟨a, ha⟩ := exists_date_iff.2 hdate
      rw [dateTime, ha, ← text_of_date ha]
      rfl
    · have htext := IsDateTimeText.date (isDateText_dateText hdate)
      rwa [String.ofList_toList] at htext
  | @timestamp year month day hour minute second hdate htime =>
    refine ⟨dateText year month day ++ " " ++ timeText hour minute second, ?_, ?_⟩
    · obtain ⟨a, ha⟩ := exists_date_iff.2 hdate
      obtain ⟨b, hb⟩ := exists_time_iff.2 htime
      rw [dateTime, ha, hb, ← text_of_date ha, ← text_of_time hb]
      rfl
    · have htext := IsDateTimeText.timestamp (isDateText_dateText hdate) (isTimeText_timeText htime)
      have hjoin : String.ofList ((dateText year month day).toList ++
          ' ' :: (timeText hour minute second).toList) =
          dateText year month day ++ " " ++ timeText hour minute second := by
        rw [← String.toList_inj]
        simp
      rwa [hjoin] at htext

theorem dateTime_of_not_isDateTime (hcount : ns.length = 3 ∨ ns.length = 6) (h : ¬IsDateTime ns) :
    dateTime ns = .error (.invalidDate ns) := by
  rcases hcount with hthree | hsix
  · obtain ⟨year, month, day, rfl⟩ := List.length_eq_three.1 hthree
    rw [dateTime]
    cases hdate : date [year, month, day] year month day with
    | ok a => exact absurd (.date (exists_date_iff.1 ⟨a, hdate⟩)) h
    | error e =>
      cases date_fails e hdate
      rfl
  · obtain ⟨year, month, day, hour, minute, second, rfl⟩ :
        ∃ a b c d e f, ns = [a, b, c, d, e, f] := by
      rcases ns with _ | ⟨a, _ | ⟨b, _ | ⟨c, rest⟩⟩⟩
      · cases hsix
      · cases hsix
      · cases hsix
      · have hrest : rest.length = 3 := by simpa using hsix
        obtain ⟨d, e, f, rfl⟩ := List.length_eq_three.1 hrest
        exact ⟨a, b, c, d, e, f, rfl⟩
    rw [dateTime]
    cases hdate : date [year, month, day, hour, minute, second] year month day with
    | error e =>
      cases date_fails e hdate
      rfl
    | ok a =>
      cases htime : time [year, month, day, hour, minute, second] hour minute second with
      | error e =>
        cases time_fails e htime
        rfl
      | ok b =>
        exact absurd (.timestamp (exists_date_iff.1 ⟨a, hdate⟩) (exists_time_iff.1 ⟨b, htime⟩)) h

theorem dateTime_eq_error {components : List Int} {e : LoweringError}
    (h : dateTime components = .error e) :
    e = .invalidDate components ∨ e = .argumentCount .dateTime [3, 6] components.length := by
  unfold dateTime at h
  split at h
  · exact .inl (date_fails.bind (fun _ _ => .ok _) e h)
  · exact .inl (date_fails.bind (fun _ _ => time_fails.bind fun _ _ => .ok _) e h)
  · cases h
    exact .inr rfl

theorem mapM_integerLiteral? (ns : List Int) :
    (ns.map fun n => Expr.literal (.integer n)).mapM integerLiteral? = some ns := by
  induction ns with
  | nil => rfl
  | cons n ns ih => simp [integerLiteral?, ih]

theorem lowerCall_integers (mappings : MappingSource) (hcount : ns.length = 3 ∨ ns.length = 6)
    (scope : Scope) :
    lowerCall mappings .dateTime (ns.map fun n => .literal (.integer n)) scope =
      (dateTime ns).map (·, scope) := by
  have hargs : (ns.map fun n => Expr.literal (.integer n)).length = ns.length := List.length_map _
  simp only [lowerCall]
  rw [hargs, if_neg (not_not_intro hcount), mapM_integerLiteral?]
  change (dateTime ns >>= fun e => pure (e, scope)) = _
  cases dateTime ns <;> rfl

theorem length_of_lowerCall_dateTime {mappings : MappingSource} {args : List Expr} {scope : Scope}
    {r : Expr × Scope} (h : lowerCall mappings .dateTime args scope = .ok r) :
    args.length = 3 ∨ args.length = 6 := by
  by_contra hcount
  simp only [lowerCall] at h
  rw [if_pos hcount] at h
  cases h

/-- What an accepted call says about its literals. -/
theorem isDateTime_of_lowerCall {mappings : MappingSource} {scope : Scope} {r : Expr × Scope}
    (h : lowerCall mappings .dateTime (ns.map fun n => .literal (.integer n)) scope = .ok r) :
    IsDateTime ns ∧ ∃ text,
      r = (.cast (.string text) (if ns.length = 3 then "date" else "timestamp"), scope) ∧
      IsDateTimeText ns text := by
  have hcount := length_of_lowerCall_dateTime h
  rw [List.length_map] at hcount
  rw [lowerCall_integers mappings hcount] at h
  by_cases hdate : IsDateTime ns
  · obtain ⟨text, hok, htext⟩ := dateTime_of_isDateTime hdate
    rw [hok] at h
    exact ⟨hdate, text, (Except.ok.inj h).symm, htext⟩
  · rw [dateTime_of_not_isDateTime hcount hdate] at h
    cases h

/-- For three or six integer literals the call succeeds just when they are a date, or a date and a
time. Its text is then the written form of the components, which are read back from it, so no other
literals have the same text. Otherwise the components are reported as they are. -/
theorem lowerCall_dateTime (mappings : MappingSource) (scope : Scope) (components : List Int)
    (hcount : components.length = 3 ∨ components.length = 6) :
    let call (ns : List Int) :=
      lowerCall mappings .dateTime (ns.map fun n => .literal (.integer n)) scope
    ((∃ r, call components = .ok r) ↔ IsDateTime components) ∧
    (¬IsDateTime components → call components = .error (.invalidDate components)) ∧
    ∀ r, call components = .ok r → ∃ text,
      r = (.cast (.string text) (if components.length = 3 then "date" else "timestamp"), scope) ∧
      IsDateTimeText components text ∧ readDateTime? text = some components ∧
      ∀ others type, call others = .ok (.cast (.string text) type, scope) →
        others = components := by
  intro call
  have hcall : call components = (dateTime components).map (·, scope) :=
    lowerCall_integers mappings hcount scope
  refine ⟨⟨?_, ?_⟩, ?_, ?_⟩
  · rintro ⟨r, hr⟩
    exact (isDateTime_of_lowerCall hr).1
  · intro hdate
    obtain ⟨text, hok, -⟩ := dateTime_of_isDateTime hdate
    rw [hcall, hok]
    exact ⟨_, rfl⟩
  · intro hdate
    rw [hcall, dateTime_of_not_isDateTime hcount hdate]
    rfl
  · intro r hr
    obtain ⟨-, text, rfl, htext⟩ := isDateTime_of_lowerCall hr
    have hread := readDateTime?_of_isDateTimeText htext
    refine ⟨text, rfl, htext, hread, ?_⟩
    intro others type hothers
    obtain ⟨-, text', hcast, htext'⟩ := isDateTime_of_lowerCall hothers
    have hsame : text = text' := by
      simp only [Prod.mk.injEq, Expr.cast.injEq, Expr.string, Expr.literal.injEq,
        Literal.string.injEq] at hcast
      exact hcast.1.1
    have hread' := readDateTime?_of_isDateTimeText htext'
    rw [← hsame, hread] at hread'
    exact (Option.some.inj hread').symm

/-- The last second of a leap day is accepted, and the last day of the first year that there is. The
year 1900 has no leap day, and a year that is 2000 only in its lower 32 bits is not taken for it. -/
theorem lowerCall_dateTime_leap_day :
    let mappings : MappingSource := { physical := fun _ => .ok none, logical := fun _ => .ok none }
    let scope : Scope := ⟨[], []⟩
    let call (ns : List Int) :=
      lowerCall mappings .dateTime (ns.map fun n => .literal (.integer n)) scope
    call [2000, 2, 29, 23, 59, 59] =
        .ok (.cast (.string "2000-02-29 23:59:59") "timestamp", scope) ∧
      IsDateTime [2000, 2, 29, 23, 59, 59] ∧
    call [-262143, 12, 31] = .ok (.cast (.string "-262143-12-31") "date", scope) ∧
      IsDateTime [-262143, 12, 31] ∧
    ¬IsDateTime [1900, 2, 29] ∧ call [1900, 2, 29] = .error (.invalidDate [1900, 2, 29]) ∧
    ¬IsDateTime [4294969296, 2, 29] ∧
      call [4294969296, 2, 29] = .error (.invalidDate [4294969296, 2, 29]) := by
  intro mappings scope call
  have hleap : call [2000, 2, 29, 23, 59, 59] =
      .ok (.cast (.string "2000-02-29 23:59:59") "timestamp", scope) := rfl
  have hfirst : call [-262143, 12, 31] =
      .ok (.cast (.string "-262143-12-31") "date", scope) := rfl
  have hnone (year : Int) (hdate : ¬isDate year 2 29 = true) : ¬IsDateTime [year, 2, 29] := by
    intro h
    cases h with
    | date h => exact hdate ((isDate_iff ..).2 h)
  have hcommon : ¬IsDateTime [1900, 2, 29] := hnone _ (by decide)
  have hwide : ¬IsDateTime [4294969296, 2, 29] := hnone _ (by decide)
  have hspec (ns : List Int) (hcount : ns.length = 3 ∨ ns.length = 6) :=
    lowerCall_dateTime mappings scope ns hcount
  exact ⟨hleap, (hspec _ (by decide)).1.1 ⟨_, hleap⟩, hfirst, (hspec _ (by decide)).1.1 ⟨_, hfirst⟩,
    hcommon, (hspec _ (by decide)).2.1 hcommon, hwide, (hspec _ (by decide)).2.1 hwide⟩

end Lowering

end LogicalSql
