import LogicalSql.Proofs.Mapping.Stored
import LogicalSql.Proofs.Text.Printed

/-! The type index in a physical name. It is the number that the name ends with, if that fits, and
so it is never negative. -/
namespace LogicalSql

/-- The text is a front that does not end in a digit, with a run of digits behind it. -/
structure EndsIn (cs front run : List Char) : Prop where
  eq : cs = front ++ run
  front : ∀ c ∈ front.getLast?, c.isDigit = false
  run : ∀ c ∈ run, c.isDigit = true

namespace EndsIn

variable {cs front run : List Char}

theorem trailingDigits_eq (h : EndsIn cs front run) : trailingDigits cs = run := by
  have hrun : ∀ c ∈ run.reverse, c.isDigit = true := fun c hc => h.run c (List.mem_reverse.1 hc)
  have hfront : front.reverse.takeWhile Char.isDigit = [] := by
    cases hcs : front.reverse with
    | nil => rfl
    | cons c rest =>
      have hc : c.isDigit = false := by
        refine h.front c ?_
        rw [List.getLast?_eq_head?_reverse, hcs]
        rfl
      rw [List.takeWhile_cons, hc, if_neg Bool.false_ne_true]
  rw [trailingDigits, h.eq, List.reverse_append, List.takeWhile_append_of_pos hrun, hfront,
    List.append_nil, List.reverse_reverse]

theorem unique {front' run' : List Char} (h : EndsIn cs front run) (h' : EndsIn cs front' run') :
    front' = front ∧ run' = run := by
  have hrun : run' = run := h'.trailingDigits_eq.symm.trans h.trailingDigits_eq
  have heq : front' ++ run = front ++ run := by rw [← h.eq, h'.eq, hrun]
  exact ⟨List.append_cancel_right heq, hrun⟩

/-- Every text has such a front and such a run. -/
theorem trailingDigits (cs : List Char) :
    EndsIn cs (cs.reverse.dropWhile Char.isDigit).reverse (trailingDigits cs) := by
  refine ⟨?_, ?_, ?_⟩
  · rw [LogicalSql.trailingDigits, ← List.reverse_append, List.takeWhile_append_dropWhile,
      List.reverse_reverse]
  · intro c hc
    have hstop := List.head?_dropWhile_not Char.isDigit cs.reverse
    rw [List.getLast?_reverse, Option.mem_def] at hc
    rwa [hc] at hstop
  · intro c hc
    exact List.all_eq_true.1 List.all_takeWhile c (List.mem_reverse.1 hc)

end EndsIn

theorem digitsValue_eq (digits : List Char) :
    Text.digitsValue digits = Nat.ofDigitChars 10 digits 0 := by
  rw [Nat.ofDigitChars_eq_foldl, Text.digitsValue]

/-- The index is the number that the run stands for, if there is one and 31 bits hold it. -/
theorem typeIndex?_of_endsIn {s : String} {front run : List Char}
    (h : EndsIn s.toList front run) :
    (typeIndex? s).map Int32.toInt =
      if run = [] ∨ 2147483647 < Nat.ofDigitChars 10 run 0 then none
      else some (Nat.ofDigitChars 10 run 0 : Int) := by
  have hbound : ∀ n : Nat, 0x80000000 ≤ n ↔ 2147483647 < n := by omega
  simp only [typeIndex?, h.trailingDigits_eq, digitsValue_eq, List.isEmpty_iff, hbound]
  split
  case isTrue => rfl
  case isFalse hsome =>
    have hlt := (not_or.1 hsome).2
    rw [Option.map_some, Int32.toInt_ofNat_of_lt (by omega)]

/-- Neither the front nor zeros in front of a number change its index. -/
theorem typeIndex?_of_zeros {front : List Char} (h : ∀ c ∈ front.getLast?, c.isDigit = false)
    (k n : Nat) :
    (typeIndex? (String.ofList
      (front ++ (List.replicate k '0' ++ (toString n).toList)))).map Int32.toInt =
      if n ≤ 2147483647 then some (n : Int) else none := by
  have hends : EndsIn
      (String.ofList (front ++ (List.replicate k '0' ++ (toString n).toList))).toList front
      (List.replicate k '0' ++ (toString n).toList) := by
    refine ⟨String.toList_ofList, h, fun c hc => ?_⟩
    rcases List.mem_append.1 hc with hc | hc
    · rw [List.eq_of_mem_replicate hc]
      rfl
    · exact Text.isDigit_of_mem_toString hc
  have hne : List.replicate k '0' ++ (toString n).toList ≠ [] :=
    List.append_ne_nil_of_right_ne_nil _ (Text.toString_ne_nil n)
  rw [typeIndex?_of_endsIn hends, ← digitsValue_eq, Text.digitsValue_zeros,
    Text.digitsValue_toString]
  by_cases hle : n ≤ 2147483647
  · rw [if_pos hle, if_neg (not_or.2 ⟨hne, by omega⟩)]
  · rw [if_neg hle, if_pos (.inr (by omega))]

theorem toInt_nonneg_of_typeIndex? {s : String} {i : Int32} (h : typeIndex? s = some i) :
    0 ≤ i.toInt := by
  have hindex := typeIndex?_of_endsIn (EndsIn.trailingDigits s.toList)
  rw [h, Option.map_some] at hindex
  split at hindex
  case isTrue => cases hindex
  case isFalse =>
    rw [Option.some.inj hindex]
    exact Int.natCast_nonneg _

namespace TableMapping

theorem toInt_nonneg_of_storedIndex {t : TableMapping} {i : Int32}
    (h : t.storedIndex = .ok (some i)) : 0 ≤ i.toInt :=
  toInt_nonneg_of_typeIndex? (storedIndex_eq_ok.1 h).2.symm

/-- No name ends in a negative number. -/
theorem storedIndex_of_negative {t : TableMapping} {i : Int32} (hindex : t.index = some i)
    (hnegative : i.toInt < 0) :
    t.storedIndex = .error (.indexMismatch t.logicalName i t.physicalName) := by
  have hname : typeIndex? t.physicalName ≠ some i := by
    intro h
    have hnonneg := toInt_nonneg_of_typeIndex? h
    omega
  unfold storedIndex
  rw [hindex]
  exact if_neg hname

end TableMapping

/-- A physical name is in one way a front that does not end in a digit of ASCII and the digits
behind it. Its type index is the number that these stand for, and it has none where there are no
digits or the number has more than 31 bits. Whatever is in front, and however many zeros, the number
alone counts. So no index that is stored is negative, and none that is given can be. -/
theorem typeIndex?_trailing :
    (∀ s : String, ∃ front run, EndsIn s.toList front run ∧
      ∀ front' run', EndsIn s.toList front' run' → front' = front ∧ run' = run) ∧
    (∀ (s : String) (front run : List Char), EndsIn s.toList front run →
      (typeIndex? s).map Int32.toInt =
        if run = [] ∨ 2147483647 < Nat.ofDigitChars 10 run 0 then none
        else some (Nat.ofDigitChars 10 run 0 : Int)) ∧
    (∀ (front : List Char) (k n : Nat), (∀ c ∈ front.getLast?, c.isDigit = false) →
      (typeIndex? (String.ofList
        (front ++ (List.replicate k '0' ++ (toString n).toList)))).map Int32.toInt =
        if n ≤ 2147483647 then some (n : Int) else none) ∧
    ∀ (t : TableMapping) (i : Int32), (t.storedIndex = .ok (some i) → 0 ≤ i.toInt) ∧
      (t.index = some i → i.toInt < 0 →
        t.storedIndex = .error (.indexMismatch t.logicalName i t.physicalName)) := by
  refine ⟨fun s => ?_, fun s front run h => typeIndex?_of_endsIn h,
    fun front k n h => typeIndex?_of_zeros h k n, fun t i => ?_⟩
  · have h := EndsIn.trailingDigits s.toList
    exact ⟨_, _, h, fun front' run' h' => h.unique h'⟩
  · exact ⟨TableMapping.toInt_nonneg_of_storedIndex, TableMapping.storedIndex_of_negative⟩

/-- A digit of another script in front, then zeros, then an index that fits or is one too large. -/
theorem typeIndex?_trailing_other_script :
    let front := "_Référence٣".toList
    let s := "_Référence٣0007"
    let large := String.ofList (front ++ (List.replicate 3 '0' ++ (toString 2147483648).toList))
    let t : TableMapping := { logicalName := "Catalog.Items", physicalName := s, type := .catalog }
    let given : TableMapping := { t with index := some (-7) }
    EndsIn s.toList front "0007".toList ∧ (typeIndex? s).map Int32.toInt = some 7 ∧
      (typeIndex? large).map Int32.toInt = none ∧
      t.storedIndex = .ok (some 7) ∧ 0 ≤ (7 : Int32).toInt ∧
      given.index = some (-7) ∧ (-7 : Int32).toInt < 0 ∧
      given.storedIndex = .error (.indexMismatch "Catalog.Items" (-7) s) := by
  intro front s large t given
  obtain ⟨-, hindex, hzeros, hstored⟩ := typeIndex?_trailing
  have hs : EndsIn s.toList front "0007".toList := by
    refine ⟨by simp [s, front], ?_, List.all_eq_true.1 rfl⟩
    intro c hc
    have hc : c = '٣' := by simpa [front, eq_comm] using hc
    rw [hc]
    decide
  have ht : t.storedIndex = .ok (some 7) := by decide +kernel
  have hnegative : (-7 : Int32).toInt < 0 := by decide
  exact ⟨hs, hindex _ _ _ hs, hzeros front 3 2147483648 hs.front, ht, (hstored t 7).1 ht, rfl,
    hnegative, (hstored given (-7)).2 rfl hnegative⟩

end LogicalSql
