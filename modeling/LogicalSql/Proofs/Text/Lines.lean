import LogicalSql.Text.Lines
import Mathlib.Data.List.DropRight

/-! Texts put together as lines and cut again, and lines without the blanks around them. -/
namespace LogicalSql.Text

/-! Blanks at the ends. -/

/-- Neither end of the text is blank. -/
def IsTrimmed (cs : List Char) : Prop :=
  (∀ c ∈ cs.head?, isBlank c = false) ∧ ∀ c ∈ cs.getLast?, isBlank c = false

theorem isTrimmed_trimEnd_trimStart (cs : List Char) : IsTrimmed (trimEnd (trimStart cs)) := by
  constructor
  · intro c hc
    -- the end is cut off a text that starts as the whole does
    obtain ⟨tail, htail⟩ : trimEnd (trimStart cs) <+: trimStart cs := List.rdropWhile_prefix _ _
    have hhead : (trimStart cs).head? = some c := by
      rw [← htail, List.head?_append, hc]
      rfl
    have hnot := List.head?_dropWhile_not isBlank cs
    rw [trimStart] at hhead
    rwa [hhead] at hnot
  · intro c hc
    change c ∈ ((trimStart cs).rdropWhile isBlank).getLast? at hc
    have hne : (trimStart cs).rdropWhile isBlank ≠ [] :=
      List.ne_nil_of_mem (List.mem_of_getLast? hc)
    have hlast := List.rdropWhile_last_not isBlank _ hne
    rwa [List.getLast_of_getLast?_eq_some hc, Bool.not_eq_true] at hlast

theorem trimStart_eq_self {cs : List Char} (h : IsTrimmed cs) : trimStart cs = cs := by
  cases cs with
  | nil => rfl
  | cons c cs => rw [trimStart, List.dropWhile_cons, h.1 c rfl, if_neg Bool.false_ne_true]

theorem trimEnd_eq_self {cs : List Char} (h : IsTrimmed cs) : trimEnd cs = cs := by
  refine (List.rdropWhile_eq_self_iff (p := isBlank)).2 fun hne => ?_
  rw [h.2 _ (List.getLast?_eq_getLast_of_ne_nil hne)]
  exact Bool.false_ne_true

theorem trim_eq_self {s : String} (h : IsTrimmed s.toList) : trim s = s := by
  rw [trim, trimStart_eq_self h, trimEnd_eq_self h, String.ofList_toList]

theorem isTrimmed_trim (s : String) : IsTrimmed (trim s).toList := by
  rw [trim, String.toList_ofList]
  exact isTrimmed_trimEnd_trimStart s.toList

theorem trim_trim (s : String) : trim (trim s) = trim s := trim_eq_self (isTrimmed_trim s)

theorem mem_of_mem_trim {c : Char} {s : String} (h : c ∈ (trim s).toList) : c ∈ s.toList := by
  rw [trim, String.toList_ofList] at h
  have hstart := (List.rdropWhile_prefix isBlank (trimStart s.toList)).subset h
  exact (List.dropWhile_suffix isBlank).subset hstart

/-- A blank at the end makes no difference. -/
theorem trim_concat {c : Char} (hc : isBlank c = true) (cs : List Char) :
    trim (String.ofList (cs ++ [c])) = trim (String.ofList cs) := by
  simp only [trim, String.toList_ofList]
  have hstart : trimStart (cs ++ [c]) =
      if (trimStart cs).isEmpty then trimStart [c] else trimStart cs ++ [c] := List.dropWhile_append
  have hblank : trimStart [c] = [] := by simp [trimStart, hc]
  rw [hstart]
  cases hempty : (trimStart cs).isEmpty with
  | true => rw [if_pos rfl, hblank, List.isEmpty_iff.1 hempty]
  | false =>
    rw [if_neg Bool.false_ne_true]
    exact congrArg String.ofList (List.rdropWhile_concat_pos isBlank (trimStart cs) c hc)

/-! Lines. -/

theorem splitOn_eq (sep : Char) (cs : List Char) : splitOn sep cs = cs.splitOn sep := by
  induction cs with
  | nil => rfl
  | cons c cs ih =>
    rw [splitOn, List.splitOn_cons_eq_if_modifyHead, ih]
    by_cases hc : c = sep
    · simp [hc]
    · have hne := List.splitOn_ne_nil sep cs
      simp only [hc, if_false, beq_eq_false_iff_ne.2 hc]
      cases hp : cs.splitOn sep with
      | nil => exact absurd hp hne
      | cons p ps => rfl

theorem not_mem_of_mem_splitOn {sep : Char} {cs piece : List Char} (h : piece ∈ splitOn sep cs) :
    sep ∉ piece := by
  induction cs generalizing piece with
  | nil =>
    rw [splitOn, List.mem_singleton] at h
    simp [h]
  | cons c cs ih =>
    rw [splitOn] at h
    by_cases hc : c = sep
    · rw [if_pos hc, List.mem_cons] at h
      rcases h with rfl | h
      · exact List.not_mem_nil
      · exact ih h
    · rw [if_neg hc] at h
      cases hp : splitOn sep cs with
      | nil =>
        rw [hp, List.mem_singleton] at h
        simp [h, Ne.symm hc]
      | cons p ps =>
        rw [hp] at h ih
        rcases List.mem_cons.1 h with rfl | h
        · exact List.not_mem_cons_of_ne_of_not_mem (Ne.symm hc) (ih List.mem_cons_self)
        · exact ih (List.mem_cons_of_mem p h)

/-- Joined pieces are cut apart where they were joined just when no piece holds the separator. -/
theorem splitOn_intercalate_iff {sep : Char} {pieces : List (List Char)} (hne : pieces ≠ []) :
    splitOn sep ([sep].intercalate pieces) = pieces ↔ ∀ piece ∈ pieces, sep ∉ piece := by
  constructor
  · intro h piece hpiece
    rw [← h] at hpiece
    exact not_mem_of_mem_splitOn hpiece
  · intro h
    rw [splitOn_eq]
    exact List.splitOn_intercalate sep h hne

theorem stripReturn_of_getLast?_ne {line : List Char} (h : line.getLast? ≠ some '\r') :
    stripReturn line = line := if_neg h

theorem trim_stripReturn (line : List Char) :
    trim (String.ofList (stripReturn line)) = trim (String.ofList line) := by
  by_cases h : line.getLast? = some '\r'
  · obtain ⟨cs, rfl⟩ := List.getLast?_eq_some_iff.1 h
    rw [stripReturn, if_pos h, List.dropLast_concat, trim_concat (by decide)]
  · rw [stripReturn_of_getLast?_ne h]

theorem endLines_cons_cons (p p' : List Char) (ps : List (List Char)) :
    endLines (p :: p' :: ps) = stripReturn p :: endLines (p' :: ps) := rfl

/-- Pieces that do not end with a carriage return and are not empty are lines as they stand. -/
theorem endLines_eq_self {pieces : List (List Char)}
    (hreturn : ∀ p ∈ pieces, p.getLast? ≠ some '\r') (hne : ∀ p ∈ pieces, p ≠ []) :
    endLines pieces = pieces := by
  induction pieces with
  | nil => rfl
  | cons p ps ih =>
    rw [List.forall_mem_cons] at hreturn hne
    cases ps with
    | nil => simp [endLines, hne.1]
    | cons p' ps =>
      rw [endLines_cons_cons, stripReturn_of_getLast?_ne hreturn.1, ih hreturn.2 hne.2]

theorem lines_intercalate {texts : List String}
    (hreturn : ∀ s ∈ texts, s.toList.getLast? ≠ some '\r') (hfeed : ∀ s ∈ texts, '\n' ∉ s.toList)
    (hne : ∀ s ∈ texts, s.toList ≠ []) : lines ("\n".intercalate texts) = texts := by
  by_cases htexts : texts = []
  · rw [htexts]
    rfl
  · have hsplit : splitOn '\n' ("\n".intercalate texts).toList = texts.map String.toList := by
      rw [String.toList_intercalate, splitOn_eq]
      exact List.splitOn_intercalate '\n' (by simpa using hfeed) (by simpa using htexts)
    rw [lines, hsplit, endLines_eq_self (by simpa using hreturn) (by simpa using hne), List.map_map]
    simp [Function.comp_def]

theorem mem_of_mem_endLines {c : Char} {line : List Char} {pieces : List (List Char)}
    (hline : line ∈ endLines pieces) (hc : c ∈ line) : ∃ piece ∈ pieces, c ∈ piece := by
  induction pieces with
  | nil => simp [endLines] at hline
  | cons p ps ih =>
    cases ps with
    | nil =>
      refine ⟨p, List.mem_cons_self, ?_⟩
      rw [endLines] at hline
      split at hline
      · cases hline
      · rwa [List.mem_singleton.1 hline] at hc
    | cons p' ps =>
      rw [endLines_cons_cons, List.mem_cons] at hline
      rcases hline with rfl | hline
      · refine ⟨p, List.mem_cons_self, ?_⟩
        rw [stripReturn] at hc
        split at hc
        · exact List.dropLast_subset p hc
        · exact hc
      · obtain ⟨piece, hpiece, hc⟩ := ih hline
        exact ⟨piece, List.mem_cons_of_mem p hpiece, hc⟩

/-- No line holds a line feed. -/
theorem feed_not_mem_of_mem_lines {line text : String} (h : line ∈ lines text) :
    '\n' ∉ line.toList := by
  intro hfeed
  obtain ⟨cs, hcs, rfl⟩ := List.mem_map.1 h
  rw [String.toList_ofList] at hfeed
  obtain ⟨piece, hpiece, hmem⟩ := mem_of_mem_endLines hcs hfeed
  exact not_mem_of_mem_splitOn hpiece hmem

/-- What stands between the line feeds of a text, without the blanks around it and where it is not
blank. -/
def nonBlankLines (text : String) : List String :=
  ((text.toList.splitOn '\n').map fun piece => trim (String.ofList piece)).filter (!·.isEmpty)

/-- How lines end makes no difference where blanks are dropped. -/
theorem filter_trim_lines (text : String) :
    ((lines text).map trim).filter (!·.isEmpty) = nonBlankLines text := by
  rw [nonBlankLines, lines, ← splitOn_eq, List.map_map]
  induction splitOn '\n' text.toList with
  | nil => rfl
  | cons p ps ih =>
    cases ps with
    | nil =>
      rw [endLines]
      cases p with
      | nil => rfl
      | cons c cs => rfl
    | cons p' ps =>
      rw [endLines_cons_cons, List.map_cons, List.map_cons, List.filter_cons,
        List.filter_cons, ih, Function.comp_apply, trim_stripReturn]

end LogicalSql.Text
