import LogicalSql.Text.Digits
import LogicalSql.Text.Lower
import LogicalSql.Text.Quoted
import LogicalSql.Text.Upper

/-! Numbers, strings and bytes are read as they were printed. A word whose lower case is that of a
keyword has the upper case of the keyword too. -/
namespace LogicalSql.Text

theorem isDigit_of_mem_toString {n : Nat} {c : Char} (h : c ∈ (toString n).toList) :
    c.isDigit = true := by
  rw [Nat.toString_eq_ofList_toDigits, String.toList_ofList] at h
  exact Nat.isDigit_of_mem_toDigits (by decide) (by decide) h

theorem toString_ne_nil (n : Nat) : (toString n).toList ≠ [] := by
  rw [Nat.toString_eq_ofList_toDigits, String.toList_ofList]
  exact Nat.toDigits_ne_nil

theorem digitsValue_toString (n : Nat) : digitsValue (toString n).toList = n := by
  rw [Nat.toString_eq_ofList_toDigits, String.toList_ofList, digitsValue,
    ← Nat.ofDigitChars_eq_foldl, Nat.ofDigitChars_ten_toDigits]

theorem readNat?_toString (n : Nat) : readNat? (toString n).toList = some n := by
  have hdigits : (toString n).toList.all Char.isDigit = true :=
    List.all_eq_true.2 fun _ => isDigit_of_mem_toString
  rw [readNat?, if_pos ⟨toString_ne_nil n, hdigits⟩, digitsValue_toString]

theorem isDigit_of_readNat? {cs : List Char} {n : Nat} (h : readNat? cs = some n) :
    ∀ c ∈ cs, c.isDigit = true := by
  unfold readNat? at h
  split at h
  case isTrue hdigits => exact List.all_eq_true.1 hdigits.2
  case isFalse => cases h

theorem toList_pushn (s : String) (c : Char) (n : Nat) :
    (s.pushn c n).toList = s.toList ++ List.replicate n c := by
  induction n with
  | zero => simp [String.pushn, Nat.repeat]
  | succ n ih =>
    have hpush : s.pushn c (n + 1) = (s.pushn c n).push c := rfl
    rw [hpush, String.toList_push, ih, List.append_assoc, ← List.replicate_succ']

theorem toList_padded (width n : Nat) :
    (padded width n).toList =
      List.replicate (width - (toString n).length) '0' ++ (toString n).toList := by
  simp [padded, toList_pushn]

theorem isDigit_of_mem_padded {width n : Nat} {c : Char} (h : c ∈ (padded width n).toList) :
    c.isDigit = true := by
  rw [toList_padded, List.mem_append] at h
  rcases h with h | h
  · rw [List.eq_of_mem_replicate h]
    rfl
  · exact isDigit_of_mem_toString h

theorem digitsValue_zeros (k : Nat) (cs : List Char) :
    digitsValue (List.replicate k '0' ++ cs) = digitsValue cs := by
  induction k with
  | zero => rfl
  | succ k ih => exact ih

/-- Zeros in front do not change the number. -/
theorem readNat?_padded (width n : Nat) : readNat? (padded width n).toList = some n := by
  have hdigits : (padded width n).toList.all Char.isDigit = true :=
    List.all_eq_true.2 fun _ => isDigit_of_mem_padded
  have hne : (padded width n).toList ≠ [] := by
    rw [toList_padded]
    exact List.append_ne_nil_of_right_ne_nil _ (toString_ne_nil n)
  rw [readNat?, if_pos ⟨hne, hdigits⟩, toList_padded, digitsValue_zeros, digitsValue_toString]

theorem le_length_padded (width n : Nat) : width ≤ (padded width n).toList.length := by
  rw [toList_padded, List.length_append, List.length_replicate, String.length_toList]
  omega

theorem length_padded_two {n : Nat} (hn : n < 100) : (padded 2 n).toList.length = 2 := by
  have hle : (toString n).length ≤ 2 := by
    rw [Nat.toString_eq_ofList_toDigits, String.length_ofList]
    exact (Nat.length_toDigits_le_iff (by decide) (by decide)).2 hn
  rw [toList_padded, List.length_append, List.length_replicate, String.length_toList]
  omega

theorem doubleQuotes_cons (quote c : Char) (cs : List Char) :
    doubleQuotes quote (c :: cs) =
      (if c = quote then [quote, quote] else [c]) ++ doubleQuotes quote cs := by
  rw [doubleQuotes, replace, List.flatMap_cons]
  rfl

/-- A string ends at its closing quote, if no other quote follows. -/
theorem readQuoted?_doubleQuotes {quote : Char} {rest : List Char}
    (hrest : ∀ c ∈ rest.head?, c ≠ quote) (cs : List Char) :
    readQuoted? quote (doubleQuotes quote cs ++ quote :: rest) = some (cs, rest) := by
  induction cs with
  | nil =>
    cases rest with
    | nil => simp [doubleQuotes, replace, readQuoted?]
    | cons c rest =>
      have hc : c ≠ quote := hrest c rfl
      simp [doubleQuotes, replace, readQuoted?, hc]
  | cons c cs ih =>
    rw [doubleQuotes_cons]
    by_cases hc : c = quote
    · rw [if_pos hc]
      simp only [List.cons_append, List.nil_append, readQuoted?, if_true, ih, Option.map_some, hc]
    · rw [if_neg hc]
      -- what follows `c` is not empty, it holds the closing quote
      obtain ⟨d, more, hmore⟩ : ∃ d more, doubleQuotes quote cs ++ quote :: rest = d :: more := by
        cases doubleQuotes quote cs with
        | nil => exact ⟨quote, rest, rfl⟩
        | cons d more => exact ⟨d, _, rfl⟩
      rw [List.singleton_append, List.cons_append, hmore, readQuoted?, if_neg hc, ← hmore, ih]
      rfl

theorem toList_quoted (quote : Char) (s : String) (rest : List Char) :
    (quoted quote s).toList ++ rest = quote :: (doubleQuotes quote s.toList ++ quote :: rest) := by
  simp [quoted]

theorem doubleQuotes_of_not_mem {quote : Char} {cs : List Char} (h : quote ∉ cs) :
    doubleQuotes quote cs = cs := by
  induction cs with
  | nil => rfl
  | cons c cs ih =>
    obtain ⟨hc, hcs⟩ := List.ne_and_not_mem_of_not_mem_cons h
    rw [doubleQuotes_cons, if_neg hc.symm, ih hcs, List.singleton_append]

/-- Two lower-case hexadecimal digits a byte, which are read as the bytes again. -/
structure Spells (digits : List Char) (bytes : List UInt8) : Prop where
  length : digits.length = 2 * bytes.length
  lower : ∀ c ∈ digits, c ∈ "0123456789abcdef".toList
  read : readHexBytes? digits = some bytes

theorem hexDigit_mem (n : Nat) : hexDigit n ∈ "0123456789abcdef".toList := by
  rw [hexDigit, List.getD_eq_getElem?_getD]
  cases h : "0123456789abcdef".toList[n]? with
  | none => decide
  | some c => exact List.mem_of_getElem? h

theorem hexValue?_hexDigit {n : Nat} (h : n < 16) : hexValue? (hexDigit n) = some n := by
  have hall : ∀ k : Fin 16, hexValue? (hexDigit k) = some k.val := by decide
  exact hall ⟨n, h⟩

theorem Spells.cons {digits : List Char} {bytes : List UInt8} (h : Spells digits bytes)
    (b : UInt8) : Spells (hexByte b ++ digits) (b :: bytes) := by
  refine ⟨?_, ?_, ?_⟩
  · rw [List.length_append, h.length, List.length_cons]
    exact Nat.add_comm 2 _
  · intro c hc
    rcases List.mem_append.1 hc with hc | hc
    · have hc : c = hexDigit (b.toNat / 16) ∨ c = hexDigit (b.toNat % 16) := by
        simpa [hexByte] using hc
      rcases hc with rfl | rfl <;> exact hexDigit_mem _
    · exact h.lower c hc
  · have hb := b.toNat_lt
    have hhigh := hexValue?_hexDigit (n := b.toNat / 16) (by omega)
    have hlow := hexValue?_hexDigit (n := b.toNat % 16) (by omega)
    have hbyte : UInt8.ofNat (16 * (b.toNat / 16) + b.toNat % 16) = b := by
      rw [Nat.div_add_mod, UInt8.ofNat_toNat]
    change readHexBytes? (hexDigit (b.toNat / 16) :: hexDigit (b.toNat % 16) :: digits) = _
    rw [readHexBytes?, hhigh, hlow, h.read]
    exact congrArg (fun b => some (b :: bytes)) hbyte

theorem spells_hexBytes (bytes : List UInt8) : Spells (hexBytes bytes).toList bytes := by
  rw [hexBytes, String.toList_ofList]
  induction bytes with
  | nil => exact ⟨rfl, List.forall_mem_nil _, rfl⟩
  | cons b bytes ih => exact ih.cons b

/-- Above ASCII, only the Kelvin sign has a lower case in ASCII. -/
theorem le_of_mem_lowerRuns : ∀ r ∈ lowerRuns,
    128 ≤ r.first + r.shift ∨ r.first = 0x212A ∧ r.last = 0x212A ∧ r.shift = -8383 := by
  decide +kernel

/-- An ASCII letter that is the lower case of no other letter than its own capital. -/
def isOwnLower (x : Char) : Bool := x.toNat < 128 && x ≠ Char.ofNat 0 && x ≠ 'k' && x ≠ 'i'

theorem shiftBy_lowerRuns {c : Char} (hc : 128 ≤ c.toNat) :
    isOwnLower (shiftBy lowerRuns c) = false := by
  unfold shiftBy
  split
  case h_1 r hr =>
    have hcovers := List.find?_some hr
    simp only [CaseRun.covers, Bool.and_eq_true, decide_eq_true_eq] at hcovers
    obtain ⟨⟨hfirst, hlast⟩, -⟩ := hcovers
    rcases le_of_mem_lowerRuns r (List.mem_of_find?_eq_some hr) with h | ⟨hf, hl, hs⟩
    · -- a shifted code point is above ASCII, or it is no character and gives the zero character
      have hn : 128 ≤ (c.toNat + r.shift).toNat := by omega
      by_cases hvalid : (c.toNat + r.shift).toNat.isValidChar
      · have hnat : (Char.ofNat (c.toNat + r.shift).toNat).toNat = (c.toNat + r.shift).toNat := by
          rw [Char.ofNat, dif_pos hvalid]
          rfl
        simp only [isOwnLower, hnat, Bool.and_eq_false_iff, decide_eq_false_iff_not]
        omega
      · rw [Char.ofNat, dif_neg hvalid]
        decide
    · have hkelvin : c.toNat = 0x212A := by omega
      rw [hkelvin, hs]
      decide
  case h_2 =>
    simp only [isOwnLower, Bool.and_eq_false_iff, decide_eq_false_iff_not]
    omega

theorem lowerChar_eq_cons {before after xs : List Char} {c x : Char}
    (h : lowerChar before c after = x :: xs) (hx : isOwnLower x = true) :
    c.toNat < 128 ∧ x = c.toLower ∧ xs = [] := by
  unfold lowerChar at h
  split at h
  · cases h
    exact ⟨‹_›, rfl, rfl⟩
  · split at h
    · cases h
      unfold lowerSigma at hx
      split at hx <;> exact absurd hx (by decide)
    · split at h
      · cases h
        exact absurd hx (by decide)
      · cases h
        rw [shiftBy_lowerRuns (by omega)] at hx
        cases hx

theorem lowerChar_ne_nil (before : List Char) (c : Char) (after : List Char) :
    lowerChar before c after ≠ [] := by
  rw [lowerChar]
  repeat' split
  all_goals exact List.cons_ne_nil _ _

theorem lowerFrom_eq {xs : List Char} (hxs : ∀ x ∈ xs, isOwnLower x = true) {before cs : List Char}
    (h : lowerFrom before cs = xs) : (∀ c ∈ cs, c.toNat < 128) ∧ cs.map Char.toLower = xs := by
  induction cs generalizing before xs with
  | nil => simp_all [lowerFrom]
  | cons c cs ih =>
    rw [lowerFrom] at h
    obtain ⟨x, more, hc⟩ := List.exists_cons_of_ne_nil (lowerChar_ne_nil before c cs)
    rw [hc] at h
    cases h
    rw [List.cons_append, List.forall_mem_cons] at hxs
    obtain ⟨hascii, rfl, rfl⟩ := lowerChar_eq_cons hc hxs.1
    obtain ⟨hall, hmap⟩ := ih hxs.2 rfl
    exact ⟨List.forall_mem_cons.2 ⟨hascii, hall⟩, by rw [List.map_cons, hmap]; rfl⟩

theorem toUpper_toLower {c : Char} (h : c.toNat < 128) : c.toLower.toUpper = c.toUpper := by
  have hall : ∀ n : Fin 128, (Char.ofNat n).toLower.toUpper = (Char.ofNat n).toUpper := by decide
  have hc := hall ⟨c.toNat, h⟩
  rwa [Char.ofNat_toNat] at hc

/-- Words with the same lower case have the same upper case, for letters that only their own
capitals lead to. -/
theorem upper_of_lower {s : String} {xs : List Char} (hxs : xs.all isOwnLower = true)
    (h : lower s = String.ofList xs) : upper s = String.ofList (xs.map Char.toUpper) := by
  have hs : lowerFrom [] s.toList = xs := by
    rw [lower] at h
    exact String.ofList_injective h
  obtain ⟨hascii, hmap⟩ := lowerFrom_eq (List.all_eq_true.1 hxs) hs
  rw [upper, ← hmap, List.map_map, List.flatMap_def]
  congr 1
  have hupper : ∀ c ∈ s.toList, upperChar c = [(Char.toUpper ∘ Char.toLower) c] := by
    intro c hc
    rw [upperChar, if_pos (hascii c hc), Function.comp_apply, toUpper_toLower (hascii c hc)]
  rw [List.map_congr_left hupper, ← List.flatMap_def, ← List.map_eq_flatMap]

end LogicalSql.Text
