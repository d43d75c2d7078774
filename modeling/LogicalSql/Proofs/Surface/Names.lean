import LogicalSql.Proofs.Surface.Lexing
import LogicalSql.Surface.Show

/-! Names of one or more parts, as they are shown. A part that is shown with its quotes may hold any
text. -/
namespace LogicalSql.Surface

namespace Token

abbrev keyword (text : String) : Token := .word text none

/-- The parts of a list, with commas between them. -/
def commas (parts : List (List Token)) : List Token := [.symbol ","].intercalate parts

end Token

/-- The token that an identifier is read from. -/
def Ident.token (i : Ident) : Token :=
  if i.quote = some '\'' then .string i.text else .word i.text i.quote

/-- The same identifier, wherever it stands. -/
def Ident.unplaced (i : Ident) : Ident := { i with extent := .nowhere }

/-- A word, or text between quotes that are doubled inside it. -/
def Ident.legible (i : Ident) : Bool :=
  match i.quote with
  | none => isWord i.text
  | some quote => (quote == '"' || quote == '\'') && i.show == Text.quoted quote i.text

/-- The identifier reads as one of these keywords. -/
def Ident.spells (words : List String) (i : Ident) : Bool :=
  i.quote.isNone && words.contains (Text.upper i.text)

def Token.ident? : Token → Option Ident
  | .word text quote => some ⟨text, quote, .nowhere⟩
  | .string text => some ⟨text, some '\'', .nowhere⟩
  | _ => none

/-- Parts behind the first one, with a point in front of each. -/
def behindPoints (parts : List Ident) : List Token := parts.flatMap fun i => [.symbol ".", i.token]

/-- The tokens of a name. -/
def pointed : List Ident → List Token
  | [] => []
  | i :: is => i.token :: behindPoints is

/-- The parts of a name that is shown as this text. -/
def nameParts (text : String) : List Ident :=
  ((tokens? text.toList).getD []).filterMap Token.ident?

/-- The tokens of a name that is shown as this text. -/
def shownTokens (text : String) : List Token := pointed (nameParts text)

/-- A name that is shown as this text, whose first part and the others pass a test. -/
def isNameOf (test : Ident → List Ident → Bool) (text : String) : Bool :=
  match nameParts text with
  | [] => false
  | i :: is => (i :: is).all Ident.legible && showName (i :: is) == text && test i is

section Names

variable {i : Ident} {is js : List Ident} {text word : String} {words : List String}
  {rest : List Char} {tokens : List Token}

theorem isNameOf_eq_true {test : Ident → List Ident → Bool} : isNameOf test text = true ↔
    ∃ i is, nameParts text = i :: is ∧ (∀ j ∈ i :: is, j.legible = true) ∧
      showName (i :: is) = text ∧ test i is = true := by
  unfold isNameOf
  split
  · rename_i hparts
    simp [hparts]
  · rename_i i is hparts
    simp [hparts, and_assoc]

/-! Tokens. -/

theorem Ident.token_word (text : String) (extent : Extent) :
    Ident.token ⟨text, none, extent⟩ = .word text none := rfl

theorem Ident.token_isKeyword (h : i.spells words = false) (hword : word ∈ words) :
    i.token.isKeyword word = false := by
  obtain ⟨text, quote, extent⟩ := i
  rw [Ident.token]
  split
  · rfl
  · cases quote with
    | some quote => rfl
    | none =>
      refine beq_eq_false_iff_ne.2 fun heq => ?_
      have hspells : Ident.spells words ⟨text, none, extent⟩ = true := by
        rw [Ident.spells, Option.some.inj heq]
        exact List.contains_iff_mem.2 hword
      rw [h] at hspells
      cases hspells

theorem Ident.token_ne_symbol (i : Ident) (text : String) : i.token ≠ .symbol text := by
  rw [Ident.token]
  split <;> simp

theorem Ident.token_ne_number (i : Ident) (text : String) (long : Bool) :
    i.token ≠ .number text long := by
  rw [Ident.token]
  split <;> simp

theorem pointed_append (i : Ident) (is : List Ident) (more : List Token) :
    pointed (i :: is) ++ more = i.token :: (behindPoints is ++ more) := rfl

theorem bracket_not_mem_pointed (is : List Ident) : .symbol "[" ∉ pointed is := by
  cases is with
  | nil => exact List.not_mem_nil
  | cons i is =>
    have hbehind : .symbol "[" ∉ behindPoints is := by
      rw [behindPoints, List.mem_flatMap]
      rintro ⟨j, -, hj⟩
      rw [List.mem_cons, List.mem_singleton] at hj
      exact hj.elim (by decide) fun heq => j.token_ne_symbol _ heq.symm
    rw [pointed, List.mem_cons, not_or]
    exact ⟨fun heq => i.token_ne_symbol _ heq.symm, hbehind⟩

/-! What is shown of names does not depend on where they stand. -/

theorem showName_congr (h : is.map Ident.unplaced = js.map Ident.unplaced) :
    showName is = showName js := by
  have hshow := congrArg (List.map Ident.show) h
  rw [List.map_map, List.map_map] at hshow
  exact congrArg ".".intercalate hshow

theorem map_text_congr (h : is.map Ident.unplaced = js.map Ident.unplaced) :
    is.map (·.text) = js.map (·.text) := by
  have htext := congrArg (List.map (·.text)) h
  rwa [List.map_map, List.map_map] at htext

theorem showName_cons (i j : Ident) (is : List Ident) :
    showName (i :: j :: is) = i.show ++ "." ++ showName (j :: is) := by
  simp [showName, String.append_assoc]

theorem showName_singleton (h : i.quote = none) : showName [i] = i.text := by
  rw [showName, List.map_singleton, Ident.show, h, String.intercalate_singleton]

/-- Names without quotes are shown as their texts. -/
theorem showName_of_unquoted (h : ∀ i ∈ is, i.quote = none) :
    showName is = ".".intercalate (is.map (·.text)) := by
  have hshow : is.map Ident.show = is.map (·.text) :=
    List.map_congr_left fun i hi => by rw [Ident.show, h i hi]
  rw [showName, hshow]

/-! The text of a name is cut into its tokens. -/

theorem Ident.exists_show (h : i.legible = true) :
    ∃ c cs, i.show.toList = c :: cs ∧ c.isDigit = false := by
  obtain ⟨text, quote, extent⟩ := i
  cases quote with
  | none =>
    have hdigit := isDigit_of_isWord h
    cases hcs : text.toList with
    | nil =>
      rw [Ident.legible, isWord, hcs] at h
      cases h
    | cons c cs =>
      rw [hcs] at hdigit
      exact ⟨c, cs, hcs, hdigit c rfl⟩
  | some quote =>
    rw [Ident.legible, Bool.and_eq_true, Bool.or_eq_true, beq_iff_eq, beq_iff_eq] at h
    refine ⟨quote, _, String.toList_ofList, ?_⟩
    rcases h.1 with rfl | rfl <;> rfl

theorem Ident.lexes (h : i.legible = true) (hends : ∀ c ∈ rest.head?, endsWord c = true)
    (hrest : Lexes rest tokens) : Lexes (i.show.toList ++ rest) (i.token :: tokens) := by
  obtain ⟨text, quote, extent⟩ := i
  cases quote with
  | none => exact .word h hends hrest
  | some quote =>
    rw [Ident.legible, Bool.and_eq_true, Bool.or_eq_true, beq_iff_eq, beq_iff_eq, beq_iff_eq] at h
    rw [h.2]
    rcases h.1 with rfl | rfl
    · exact .quotedWord hends hrest
    · exact .string hends hrest

theorem lexes_showName (h : ∀ j ∈ i :: is, j.legible = true)
    (hends : ∀ c ∈ rest.head?, endsWord c = true) (hrest : Lexes rest tokens) :
    Lexes ((showName (i :: is)).toList ++ rest) (pointed (i :: is) ++ tokens) := by
  induction is generalizing i with
  | nil =>
    rw [List.forall_mem_cons] at h
    rw [showName, List.map_singleton, String.intercalate_singleton]
    exact Ident.lexes h.1 hends hrest
  | cons j is ih =>
    rw [List.forall_mem_cons] at h
    have htail := ih h.2
    have hdigit : ∀ c ∈ ((showName (j :: is)).toList ++ rest).head?, c.isDigit = false := by
      obtain ⟨c, cs, hcs, hc⟩ := Ident.exists_show (h.2 j List.mem_cons_self)
      obtain ⟨more, hmore⟩ : ∃ more, (showName (j :: is)).toList = j.show.toList ++ more := by
        cases is with
        | nil => exact ⟨[], by simp [showName]⟩
        | cons k is => exact ⟨_, by rw [showName_cons, String.append_assoc, String.toList_append]⟩
      rw [hmore, hcs]
      rintro _ ⟨⟩
      exact hc
    rw [showName_cons]
    have hends : ∀ c ∈ ('.' :: ((showName (j :: is)).toList ++ rest)).head?, endsWord c = true := by
      simp [endsWord]
    have hpoint := Ident.lexes h.1 hends (.point hdigit htail)
    simpa [pointed, behindPoints] using hpoint

/-! The parts of names that need no quotes. -/

theorem nameParts_of_isWord (h : isWord text = true) :
    nameParts text = [⟨text, none, .nowhere⟩] := by
  have hlex : Lexes (text.toList ++ []) [.word text none] := .word h nofun .nil
  rw [List.append_nil] at hlex
  rw [nameParts, tokens?_eq_some.2 hlex]
  rfl

theorem isNameOf_of_isWord {test : Ident → List Ident → Bool} (h : isWord text = true)
    (htest : test ⟨text, none, .nowhere⟩ [] = true) : isNameOf test text = true := by
  refine isNameOf_eq_true.2 ⟨_, _, nameParts_of_isWord h, ?_, showName_singleton rfl, htest⟩
  simpa [Ident.legible] using h

end Names

end LogicalSql.Surface
