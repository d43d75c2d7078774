import LogicalSql.Config.Connection
import LogicalSql.Proofs.Text.Printed
import LogicalSql.Text.Lines
import Mathlib.Data.List.Forall2

/-! Connection strings are read back. Whatever the host, the database, the user and the password
are, a reader of names and values finds the settings that were written and no others. -/
namespace LogicalSql

namespace Settings

/-! A reader of settings. -/

/-- The characters up to one that ends them, and what is left. A backslash makes the next character
literal. -/
def readUntil (ends : Char → Bool) : List Char → List Char × List Char
  | [] => ([], [])
  | c :: cs =>
    if c = '\\' then
      match cs with
      | [] => ([], [])
      | d :: rest => (readUntil ends rest).map (d :: ·) id
    else if ends c then ([], c :: cs)
    else (readUntil ends cs).map (c :: ·) id

def isQuote (c : Char) : Bool := c == '\''

/-- A value in quotes ends at the next quote and fails without it. Any other value ends at the next
blank. -/
def readValue? (blank : Char → Bool) (cs : List Char) : Option (List Char × List Char) :=
  let start := cs.dropWhile blank
  if start.head? = some '\'' then
    let (value, rest) := readUntil isQuote start.tail
    if rest.isEmpty then none else some (value, rest.tail)
  else some (readUntil blank start)

def inName (blank : Char → Bool) (c : Char) : Bool := c != '=' && !blank c

/-- Blanks may stand around the sign behind the name. -/
def readSetting? (blank : Char → Bool) (cs : List Char) :
    Option ((String × String) × List Char) :=
  let rest := (cs.dropWhile (inName blank)).dropWhile blank
  if rest.head? = some '=' then
    (readValue? blank rest.tail).map fun (value, rest) =>
      ((String.ofList (cs.takeWhile (inName blank)), String.ofList value), rest)
  else none

section Until

variable {ends : Char → Bool} {c : Char}

theorem readUntil_backslash (d : Char) (rest : List Char) :
    readUntil ends ('\\' :: d :: rest) = (readUntil ends rest).map (d :: ·) id := by
  rw [readUntil, if_pos rfl]

theorem readUntil_of_ends (hc : c ≠ '\\') (hends : ends c = true) (cs : List Char) :
    readUntil ends (c :: cs) = ([], c :: cs) := by
  rw [readUntil.eq_def]
  simp only [if_neg hc, if_pos hends]

theorem readUntil_cons (hc : c ≠ '\\') (hends : ends c = false) (cs : List Char) :
    readUntil ends (c :: cs) = (readUntil ends cs).map (c :: ·) id := by
  rw [readUntil.eq_def]
  simp [if_neg hc, hends]

end Until

theorem readUntil_suffix (ends : Char → Bool) (cs : List Char) : (readUntil ends cs).2 <:+ cs := by
  fun_induction readUntil ends cs with
  | case1 => exact List.suffix_refl _
  | case2 => exact List.nil_suffix
  | case3 d rest ih => exact ih.trans ⟨['\\', d], rfl⟩
  | case4 => exact List.suffix_refl _
  | case5 c cs hc hends ih => exact ih.trans (List.suffix_cons c cs)

theorem readValue?_suffix {blank : Char → Bool} {cs value rest : List Char}
    (h : readValue? blank cs = some (value, rest)) : rest <:+ cs := by
  have hstart := List.dropWhile_suffix blank (l := cs)
  simp only [readValue?] at h
  split at h
  · split at h
    · cases h
    · cases h
      have hrest := readUntil_suffix isQuote (cs.dropWhile blank).tail
      exact (List.tail_suffix _).trans (hrest.trans ((List.tail_suffix _).trans hstart))
  · have hrest := readUntil_suffix blank (cs.dropWhile blank)
    rw [Option.some.inj h] at hrest
    exact hrest.trans hstart

theorem readSetting?_length {blank : Char → Bool} {cs rest : List Char} {setting : String × String}
    (h : readSetting? blank cs = some (setting, rest)) : rest.length < cs.length := by
  simp only [readSetting?] at h
  split at h
  case isFalse => cases h
  case isTrue hsign =>
    obtain ⟨⟨value, rest'⟩, hvalue, he⟩ := Option.map_eq_some_iff.1 h
    have hrest : rest' = rest := congrArg Prod.snd he
    obtain ⟨more, hmore⟩ := List.head?_eq_some_iff.1 hsign
    have hdrop := (List.dropWhile_suffix blank).trans
      (List.dropWhile_suffix (inName blank) (l := cs))
    have hsuffix := readValue?_suffix hvalue
    rw [hrest, hmore] at hsuffix
    rw [hmore] at hdrop
    have hle := hdrop.length_le
    have hlt := hsuffix.length_le
    simp only [List.tail_cons, List.length_cons] at hle hlt
    omega

/-- Settings follow each other, with or without blanks between them. -/
def readAll? (blank : Char → Bool) (cs : List Char) : Option (List (String × String)) :=
  match _hstart : cs.dropWhile blank with
  | [] => some []
  | c :: start =>
    match _hsetting : readSetting? blank (c :: start) with
    | none => none
    | some (setting, rest) => (readAll? blank rest).map (setting :: ·)
termination_by cs.length
decreasing_by
  have hle := (List.dropWhile_suffix blank (l := cs)).length_le
  have hlt := readSetting?_length _hsetting
  rw [_hstart] at hle
  omega

theorem readAll?_eq (blank : Char → Bool) (cs : List Char) :
    readAll? blank cs =
      if cs.dropWhile blank = [] then some []
      else (readSetting? blank (cs.dropWhile blank)).bind fun s =>
        (readAll? blank s.2).map (s.1 :: ·) := by
  rw [readAll?.eq_def]
  split
  case h_1 hstart => rw [if_pos hstart]
  case h_2 c start hstart =>
    rw [if_neg (by rw [hstart]; exact List.cons_ne_nil _ _), hstart]
    split
    case h_1 hnone => rw [hnone, Option.bind_none]
    case h_2 setting rest hsome => rw [hsome, Option.bind_some]

/-! What the reader makes of a written setting. -/

/-- A character of ASCII that is seen. -/
def isVisible (c : Char) : Bool := 0x21 ≤ c.toNat && c.toNat ≤ 0x7E

theorem isVisible_iff {c : Char} : isVisible c = true ↔ 0x21 ≤ c.toNat ∧ c.toNat ≤ 0x7E := by
  simp [isVisible]

/-- The space is blank and nothing visible is. -/
structure Blanks (blank : Char → Bool) : Prop where
  space : blank ' ' = true
  visible : ∀ c, isVisible c = true → blank c = false

/-- The blanks of ASCII. -/
def asciiBlank (c : Char) : Bool := c == ' ' || (9 ≤ c.toNat && c.toNat ≤ 13)

theorem blanks_asciiBlank : Blanks asciiBlank := by
  refine ⟨rfl, fun c hc => ?_⟩
  have hvisible := isVisible_iff.1 hc
  have hspace : c ≠ ' ' := by
    rintro rfl
    exact absurd hvisible.1 (by decide)
  simp only [asciiBlank, beq_eq_false_iff_ne.2 hspace, Bool.false_or, Bool.and_eq_false_iff,
    decide_eq_false_iff_not]
  omega

theorem blanks_isBlank : Blanks Text.isBlank := by
  refine ⟨rfl, fun c hc => ?_⟩
  have hvisible := isVisible_iff.1 hc
  simp only [Text.isBlank, Text.inSpans, Text.blankSpans, List.any_cons, List.any_nil,
    Bool.or_false, Bool.or_eq_false_iff, Bool.and_eq_false_iff, decide_eq_false_iff_not]
  omega

/-- A character that stands for itself in a name or in a value without quotes. -/
def isPlain (c : Char) : Bool := isVisible c && c != '\\' && c != '\'' && c != '='

theorem isPlain_iff {c : Char} :
    isPlain c = true ↔ isVisible c = true ∧ c ≠ '\\' ∧ c ≠ '\'' ∧ c ≠ '=' := by
  simp [isPlain, and_assoc]

theorem isPlain_of_isDigit {c : Char} (h : c.isDigit = true) : isPlain c = true := by
  have hlow : 48 ≤ c.toNat := (Char.isDigit_iff_toNat.1 h).1
  have hhigh : c.toNat ≤ 57 := (Char.isDigit_iff_toNat.1 h).2
  have hne : ∀ d : Char, d.toNat < 48 ∨ 57 < d.toNat → c ≠ d := by
    rintro d hd rfl
    omega
  have hvisible : isVisible c = true := isVisible_iff.2 (by omega)
  exact isPlain_iff.2 ⟨hvisible, hne _ (by decide), hne _ (by decide), hne _ (by decide)⟩

variable {blank : Char → Bool}

/-- What a character becomes between quotes. -/
def escapeSetting : Char → List Char
  | '\\' => ['\\', '\\']
  | '\'' => ['\\', '\'']
  | c => [c]

/-- The backslash that a quote gets is not doubled. -/
theorem replace_eq_escapeSetting (cs : List Char) :
    Text.replace '\'' ['\\', '\''] (Text.replace '\\' ['\\', '\\'] cs) =
      cs.flatMap escapeSetting := by
  unfold Text.replace
  rw [List.flatMap_assoc]
  congr 1
  funext c
  by_cases hbackslash : c = '\\'
  · subst hbackslash
    rfl
  · by_cases hquote : c = '\''
    · subst hquote
      rfl
    · simp [escapeSetting, hbackslash, hquote]

theorem readUntil_escape (cs rest : List Char) :
    readUntil isQuote (cs.flatMap escapeSetting ++ '\'' :: rest) = (cs, '\'' :: rest) := by
  induction cs with
  | nil => exact readUntil_of_ends (by decide) rfl rest
  | cons c cs ih =>
    rw [List.flatMap_cons, List.append_assoc]
    by_cases hspecial : c = '\\' ∨ c = '\''
    · have hescaped : escapeSetting c = ['\\', c] := by rcases hspecial with rfl | rfl <;> rfl
      rw [hescaped, List.cons_append, List.singleton_append, readUntil_backslash, ih]
      rfl
    · obtain ⟨hbackslash, hquote⟩ := not_or.1 hspecial
      have hplain : escapeSetting c = [c] := by
        unfold escapeSetting
        split <;> simp_all
      have hends : isQuote c = false := beq_eq_false_iff_ne.2 hquote
      rw [hplain, List.singleton_append, readUntil_cons hbackslash hends, ih]
      rfl

theorem readUntil_append {ends : Char → Bool} {cs rest : List Char}
    (hcs : ∀ c ∈ cs, c ≠ '\\' ∧ ends c = false)
    (hrest : ∀ c ∈ rest.head?, c ≠ '\\' ∧ ends c = true) :
    readUntil ends (cs ++ rest) = (cs, rest) := by
  induction cs with
  | nil =>
    cases rest with
    | nil => rfl
    | cons c rest => exact readUntil_of_ends (hrest c rfl).1 (hrest c rfl).2 rest
  | cons c cs ih =>
    rw [List.forall_mem_cons] at hcs
    rw [List.cons_append, readUntil_cons hcs.1.1 hcs.1.2, ih hcs.2]
    rfl

/-- The text is read as the value where a blank or the end follows it. -/
def Denotes (blank : Char → Bool) (text value : String) : Prop :=
  ∀ rest : List Char, (∀ c ∈ rest.head?, blank c = true) →
    readValue? blank (text.toList ++ rest) = some (value.toList, rest)

/-- The text is read as the setting where a blank or the end follows it, and is not skipped as
blank. -/
structure Reads (blank : Char → Bool) (text : String) (setting : String × String) : Prop where
  starts : ∃ c cs, text.toList = c :: cs ∧ blank c = false
  reads : ∀ rest : List Char, (∀ c ∈ rest.head?, blank c = true) →
    readSetting? blank (text.toList ++ rest) = some (setting, rest)

theorem dropWhile_cons {c : Char} (hc : blank c = false) (cs : List Char) :
    (c :: cs).dropWhile blank = c :: cs := by
  rw [List.dropWhile_cons, hc, if_neg Bool.false_ne_true]

theorem denotes_quoteSetting (hblank : Blanks blank) (value : String) :
    Denotes blank (quoteSetting value) value := by
  intro rest _
  have hquote : blank '\'' = false := hblank.visible _ rfl
  have htext : (quoteSetting value).toList ++ rest =
      '\'' :: (value.toList.flatMap escapeSetting ++ '\'' :: rest) := by
    simp [quoteSetting, replace_eq_escapeSetting]
  rw [htext, readValue?, dropWhile_cons hquote]
  simp [readUntil_escape]

theorem denotes_plain (hblank : Blanks blank) {value : String} (hne : value.toList ≠ [])
    (hplain : value.toList.all isPlain = true) : Denotes blank value value := by
  rw [List.all_eq_true] at hplain
  intro rest hrest
  have hchars : ∀ c ∈ value.toList, c ≠ '\\' ∧ blank c = false := by
    intro c hc
    obtain ⟨hvisible, hbackslash, -, -⟩ := isPlain_iff.1 (hplain c hc)
    exact ⟨hbackslash, hblank.visible c hvisible⟩
  have hends : ∀ c ∈ rest.head?, c ≠ '\\' ∧ blank c = true := by
    intro c hc
    refine ⟨fun hbackslash => ?_, hrest c hc⟩
    have hvisible : blank c = false := hblank.visible c (by rw [hbackslash]; rfl)
    exact Bool.false_ne_true (hvisible.symm.trans (hrest c hc))
  have hread := readUntil_append hchars hends
  obtain ⟨c, cs, hcs⟩ := List.exists_cons_of_ne_nil hne
  rw [hcs, List.forall_mem_cons] at hplain hchars
  have hquote : c ≠ '\'' := (isPlain_iff.1 hplain.1).2.2.1
  rw [hcs, List.cons_append] at hread
  rw [hcs, readValue?, List.cons_append, dropWhile_cons hchars.1.2]
  simp [hquote, hread]

theorem reads_of_denotes (hblank : Blanks blank) {sign name text value : String}
    (hsign : sign = name ++ "=") (hname : name.toList.all isPlain = true)
    (hvalue : Denotes blank text value) : Reads blank (sign ++ text) (name, value) := by
  have htext : (sign ++ text).toList = name.toList ++ '=' :: text.toList := by
    simp [hsign]
  have hequals : blank '=' = false := hblank.visible _ rfl
  have hchars : ∀ c ∈ name.toList, blank c = false ∧ inName blank c = true := by
    intro c hc
    obtain ⟨hvisible, -, -, hne⟩ := isPlain_iff.1 (List.all_eq_true.1 hname c hc)
    have hc := hblank.visible c hvisible
    exact ⟨hc, by simp [inName, hc, hne]⟩
  constructor
  · rw [htext]
    cases hcs : name.toList with
    | nil => exact ⟨'=', _, rfl, hequals⟩
    | cons c cs => exact ⟨c, _, rfl, (hchars c (by rw [hcs]; exact List.mem_cons_self)).1⟩
  · intro rest hrest
    have hin : ∀ c ∈ name.toList, inName blank c = true := fun c hc => (hchars c hc).2
    have hstop : inName blank '=' = false := rfl
    rw [htext, List.append_assoc, List.cons_append, readSetting?,
      List.dropWhile_append_of_pos hin, List.takeWhile_append_of_pos hin,
      List.dropWhile_cons, List.takeWhile_cons, hstop, if_neg Bool.false_ne_true,
      if_neg Bool.false_ne_true, dropWhile_cons hequals]
    simp [hvalue rest hrest]

theorem readAll?_append {text : String} {setting : String × String} {rest : List Char}
    (h : Reads blank text setting) (hrest : ∀ c ∈ rest.head?, blank c = true) :
    readAll? blank (text.toList ++ rest) = (readAll? blank rest).map (setting :: ·) := by
  obtain ⟨c, cs, htext, hc⟩ := h.starts
  have hread := h.reads rest hrest
  rw [htext, List.cons_append] at hread ⊢
  rw [readAll?_eq, dropWhile_cons hc, if_neg (List.cons_ne_nil _ _), hread, Option.bind_some]

theorem readAll?_blank {c : Char} (hc : blank c = true) (cs : List Char) :
    readAll? blank (c :: cs) = readAll? blank cs := by
  rw [readAll?_eq, readAll?_eq blank cs, List.dropWhile_cons, if_pos hc]

/-- Settings with a space between them are read one by one. -/
theorem readAll?_intercalate (hblank : Blanks blank) {texts : List String}
    {settings : List (String × String)} (h : List.Forall₂ (Reads blank) texts settings) :
    readAll? blank (" ".intercalate texts).toList = some settings := by
  rw [String.toList_intercalate]
  induction h with
  | nil => simp [readAll?_eq]
  | @cons text setting texts settings hreads hmore ih =>
    cases texts with
    | nil =>
      cases hmore
      rw [List.map_singleton, List.intercalate_singleton, ← List.append_nil text.toList,
        readAll?_append hreads (by simp), readAll?_eq]
      rfl
    | cons next texts =>
      rw [List.map_cons, List.map_cons, List.intercalate_cons_cons, ← List.map_cons,
        List.append_assoc]
      change readAll? blank (text.toList ++ ' ' :: _) = _
      rw [readAll?_append hreads (by simp [hblank.space]), readAll?_blank hblank.space]
      exact (congrArg _ ih).trans rfl

end Settings

namespace ConnectionConfig

open Settings

/-- A connection string holds the host, the port, the database, the user, the password, the mode and
the time limit, in this order and each once, whatever characters are in them and whatever else is
blank beside the space. -/
theorem connectionString_read_back (c : ConnectionConfig) {blank : Char → Bool}
    (hblank : Blanks blank) :
    readAll? blank c.connectionString.toList = some
      [("host", c.host), ("port", toString c.port.toNat), ("dbname", c.database),
        ("user", c.username), ("password", c.password), ("sslmode", c.sslMode.keyword),
        ("connect_timeout", "10")] := by
  have hquoted : ∀ value, Denotes blank (quoteSetting value) value :=
    denotes_quoteSetting hblank
  have hport : Denotes blank (toString c.port.toNat) (toString c.port.toNat) :=
    denotes_plain hblank (Text.toString_ne_nil _)
      (List.all_eq_true.2 fun d hd => isPlain_of_isDigit (Text.isDigit_of_mem_toString hd))
  have hmode : Denotes blank c.sslMode.keyword c.sslMode.keyword := by
    cases c.sslMode <;> exact denotes_plain hblank (List.cons_ne_nil _ _) rfl
  have hlimit : Reads blank ("connect_timeout=" ++ "10") ("connect_timeout", "10") :=
    reads_of_denotes hblank rfl rfl (denotes_plain hblank (List.cons_ne_nil _ _) rfl)
  unfold connectionString
  refine readAll?_intercalate hblank (.cons ?_ (.cons ?_ (.cons ?_ (.cons ?_ (.cons ?_ (.cons ?_
    (.cons ?_ .nil)))))))
  · exact reads_of_denotes hblank rfl rfl (hquoted c.host)
  · exact reads_of_denotes hblank rfl rfl hport
  · exact reads_of_denotes hblank rfl rfl (hquoted c.database)
  · exact reads_of_denotes hblank rfl rfl (hquoted c.username)
  · exact reads_of_denotes hblank rfl rfl (hquoted c.password)
  · exact reads_of_denotes hblank rfl rfl hmode
  · exact hlimit

/-- Quotes, backslashes, blanks and signs of equality stay inside their values, both for the blanks
of ASCII and for those of all scripts. -/
theorem connectionString_read_back_hostile :
    let c : ConnectionConfig :=
      { host := "h' port=1 host='", port := 0, database := "", username := "a=\u3000b\\",
        password := "\\' sslmode=disable '\\\\'", sslMode := .verifyFull }
    let settings :=
      [("host", "h' port=1 host='"), ("port", "0"), ("dbname", ""), ("user", "a=\u3000b\\"),
        ("password", "\\' sslmode=disable '\\\\'"), ("sslmode", "verify-full"),
        ("connect_timeout", "10")]
    readAll? asciiBlank c.connectionString.toList = some settings ∧
      readAll? Text.isBlank c.connectionString.toList = some settings := by
  intro c settings
  have hport : toString c.port.toNat = "0" := by decide
  have hascii := connectionString_read_back c blanks_asciiBlank
  have hall := connectionString_read_back c blanks_isBlank
  rw [hport] at hascii hall
  exact ⟨hascii, hall⟩

end ConnectionConfig

end LogicalSql
