import Mathlib.Data.List.TakeWhile
import LogicalSql.Proofs.Text.Printed
import LogicalSql.Surface.Keyword
import LogicalSql.Surface.Lexer

/-! Words, numbers, strings and symbols that are followed by something else are tokens of their
own. The tokens of a text do not depend on where it starts. -/
namespace LogicalSql.Surface

/-- The tokens of a text, wherever it starts. -/
def Lexes (cs : List Char) (tokens : List Token) : Prop :=
  ∀ here, ∃ blanks lexemes, tokenizeFrom here cs = some (blanks, lexemes) ∧
    lexemes.map (·.token) = tokens

namespace Lexes

variable {c : Char} {cs rest : List Char} {tokens : List Token}

theorem nil : Lexes [] [] := by
  intro here
  exact ⟨[], [], by rw [tokenizeFrom], rfl⟩

theorem cons_token {token : Token} (h : lexToken c cs = some (.token token, rest))
    (hlength : rest.length ≤ cs.length) (hrest : Lexes rest tokens) :
    Lexes (c :: cs) (token :: tokens) := by
  intro here
  let there := ((c :: cs).take (cs.length + 1 - rest.length)).foldl Place.advance here
  obtain ⟨blanks, lexemes, hlex, htokens⟩ := hrest there
  refine ⟨[], ⟨token, ⟨here, there⟩, blanks⟩ :: lexemes, ?_, by rw [List.map_cons, htokens]⟩
  rw [tokenizeFrom, h]
  simp only [hlength, if_true, there, hlex, Option.map_some]

theorem cons_blank {blank : Blank} (h : lexToken c cs = some (.blank blank, rest))
    (hlength : rest.length ≤ cs.length) (hrest : Lexes rest tokens) : Lexes (c :: cs) tokens := by
  intro here
  obtain ⟨blanks, lexemes, hlex, htokens⟩ := hrest
    (((c :: cs).take (cs.length + 1 - rest.length)).foldl Place.advance here)
  refine ⟨blank :: blanks, lexemes, ?_, htokens⟩
  rw [tokenizeFrom, h]
  simp only [hlength, if_true, hlex, Option.map_some]

theorem space (h : Lexes rest tokens) : Lexes (' ' :: rest) tokens :=
  cons_blank rfl (Nat.le_refl _) h

/-- The tokens of a whole text. -/
theorem tokenize (h : Lexes cs tokens) :
    ∃ lexemes, Surface.tokenize cs = some lexemes ∧ lexemes.map (·.token) = tokens := by
  obtain ⟨blanks, lexemes, hlex, htokens⟩ := h ⟨1, 1⟩
  exact ⟨lexemes, by rw [Surface.tokenize, hlex]; rfl, htokens⟩

end Lexes

/-! The tokens of a text, if it can be cut into tokens. -/

def tokens? (cs : List Char) : Option (List Token) := (tokenize cs).map (·.map (·.token))

def tokensFrom? (here : Place) (cs : List Char) : Option (List Token) :=
  (tokenizeFrom here cs).map (·.2.map (·.token))

/-- A blank is no token. -/
def Piece.tokens : Piece → List Token
  | .token t => [t]
  | .blank _ => []

section Tokens

variable {c : Char} {cs rest : List Char} {piece : Piece}

theorem tokensFrom?_cons (h : lexToken c cs = some (piece, rest))
    (hlength : rest.length ≤ cs.length) (here : Place) :
    ∃ there, tokensFrom? here (c :: cs) = (tokensFrom? there rest).map (piece.tokens ++ ·) := by
  refine ⟨((c :: cs).take (cs.length + 1 - rest.length)).foldl Place.advance here, ?_⟩
  rw [tokensFrom?, tokenizeFrom, h]
  simp only [hlength, if_true, Option.map_map, tokensFrom?]
  cases piece <;> rfl

/-- The tokens do not depend on where the text starts. -/
theorem tokensFrom?_eq (here there : Place) (cs : List Char) :
    tokensFrom? here cs = tokensFrom? there cs := by
  induction here, cs using tokenizeFrom.induct generalizing there with
  | case1 => rw [tokensFrom?, tokensFrom?, tokenizeFrom, tokenizeFrom]
  | case2 here c cs h => rw [tokensFrom?, tokensFrom?, tokenizeFrom, tokenizeFrom, h]
  | case3 here c cs piece rest h hlength next ih =>
    obtain ⟨place, hplace⟩ := tokensFrom?_cons h hlength here
    obtain ⟨place', hplace'⟩ := tokensFrom?_cons h hlength there
    rw [hplace, hplace', ← ih place, ← ih place']
  | case4 here c cs piece rest h hlength =>
    rw [tokensFrom?, tokensFrom?, tokenizeFrom, tokenizeFrom, h]
    simp only [hlength, if_false]

theorem tokens?_eq (here : Place) (cs : List Char) : tokens? cs = tokensFrom? here cs := by
  rw [tokens?, tokenize, Option.map_map, tokensFrom?_eq here ⟨1, 1⟩]
  rfl

theorem tokens?_cons (h : lexToken c cs = some (piece, rest)) (hlength : rest.length ≤ cs.length) :
    tokens? (c :: cs) = (tokens? rest).map (piece.tokens ++ ·) := by
  obtain ⟨there, hthere⟩ := tokensFrom?_cons h hlength ⟨1, 1⟩
  rw [tokens?_eq ⟨1, 1⟩, tokens?_eq there, hthere]

theorem tokens?_eq_some {tokens : List Token} : tokens? cs = some tokens ↔ Lexes cs tokens := by
  constructor
  · intro h here
    rw [tokens?_eq here, tokensFrom?, Option.map_eq_some_iff] at h
    obtain ⟨⟨blanks, lexemes⟩, hlex, htokens⟩ := h
    exact ⟨blanks, lexemes, hlex, htokens⟩
  · intro h
    obtain ⟨lexemes, hlex, htokens⟩ := h.tokenize
    rw [tokens?, hlex, Option.map_some, htokens]

theorem tokens?_nil : tokens? [] = some [] := tokens?_eq_some.2 .nil

end Tokens

/-! What may follow a piece without becoming part of it. -/

/-- Characters that end a number and a string. -/
def endsPiece (c : Char) : Bool := c == ' ' || c == ')' || c == ',' || c == ']'

/-- Characters that end a word. -/
def endsWord (c : Char) : Bool :=
  endsPiece c || c == '(' || c == '.' || c == '[' || c == '<' || c == '>'

theorem endsWord_of_endsPiece {c : Char} (h : endsPiece c = true) : endsWord c = true := by
  rw [endsWord, h, Bool.true_or, Bool.true_or, Bool.true_or, Bool.true_or, Bool.true_or]

theorem endsPiece_cases {c : Char} (h : endsPiece c = true) :
    c = ' ' ∨ c = ')' ∨ c = ',' ∨ c = ']' := by
  simpa [endsPiece, or_assoc] using h

theorem endsPiece_of_space {cs : List Char} (h : cs.head? = some ' ') :
    ∀ c ∈ cs.head?, endsPiece c = true := by
  intro c hc
  rw [h] at hc
  cases hc
  decide

theorem endsWord_cases {c : Char} (h : endsWord c = true) :
    c ∈ [' ', ')', ',', ']', '(', '.', '[', '<', '>'] := by
  simpa [endsWord, endsPiece, or_assoc] using h

theorem not_continuesWord {c : Char} (h : endsWord c = true) : continuesWord c = false := by
  have hall : [' ', ')', ',', ']', '(', '.', '[', '<', '>'].all (!continuesWord ·) = true := rfl
  simpa using List.all_eq_true.1 hall c (endsWord_cases h)

theorem not_quote {c : Char} (h : endsWord c = true) : c ≠ '\'' ∧ c ≠ '"' ∧ c ≠ '&' := by
  have hall : [' ', ')', ',', ']', '(', '.', '[', '<', '>'].all
      (fun c => c != '\'' && c != '"' && c != '&') = true := rfl
  simpa [and_assoc] using List.all_eq_true.1 hall c (endsWord_cases h)

/-! Words. -/

/-- Letters, digits and underscores that make up one token. -/
def isWord (text : String) : Bool :=
  match text.toList with
  | [] => false
  | c :: cs => startsWord c && cs.all continuesWord

theorem not_isDigit_of_startsWord {c : Char} (h : startsWord c = true) : c.isDigit = false := by
  cases hdigit : c.isDigit with
  | false => rfl
  | true =>
    have hall : ∀ n : Fin 58, startsWord (Char.ofNat n) = false := by decide
    have hc := hall ⟨c.toNat, by have := (Char.isDigit_iff_toNat.1 hdigit).2; simp at this; omega⟩
    rw [Char.ofNat_toNat, h] at hc
    cases hc

theorem lexToken_of_startsWord {c : Char} (h : startsWord c = true) (cs : List Char) :
    lexToken c cs = lexLetter c cs := by
  unfold lexToken
  split
  all_goals try exact absurd h (by decide)
  rw [if_neg (by rw [not_isDigit_of_startsWord h]; decide), if_pos h]

/-- Only a quote or an ampersand right behind its letter begins another kind of string. -/
theorem lexLetter_eq_lexWord {c : Char} {cs : List Char}
    (h : ∀ d ∈ cs.head?, d ≠ '\'' ∧ d ≠ '"' ∧ d ≠ '&') : lexLetter c cs = lexWord c cs := by
  unfold lexLetter
  split
  all_goals first
    | rfl
    | exact absurd rfl (h _ rfl).1
    | exact absurd rfl (h _ rfl).2.1
    | exact absurd rfl (h _ rfl).2.2

/-- A run of characters ends in front of one of another kind. -/
theorem takeWhile_dropWhile_append {p : Char → Bool} {run rest : List Char}
    (hrun : ∀ c ∈ run, p c = true) (hrest : ∀ c ∈ rest.head?, p c = false) :
    (run ++ rest).takeWhile p = run ∧ (run ++ rest).dropWhile p = rest := by
  rw [List.takeWhile_append_of_pos hrun, List.dropWhile_append_of_pos hrun]
  cases rest with
  | nil => exact ⟨List.append_nil run, rfl⟩
  | cons c rest =>
    rw [List.takeWhile_cons, List.dropWhile_cons, hrest c rfl]
    exact ⟨List.append_nil run, rfl⟩

theorem lexWord_append (c : Char) {cs rest : List Char} (hcs : ∀ d ∈ cs, continuesWord d = true)
    (hrest : ∀ d ∈ rest.head?, continuesWord d = false) :
    lexWord c (cs ++ rest) = some (.token (.word (String.ofList (c :: cs)) none), rest) := by
  obtain ⟨htake, hdrop⟩ := takeWhile_dropWhile_append hcs hrest
  rw [lexWord, htake, hdrop]

theorem Lexes.word {text : String} {rest : List Char} {tokens : List Token}
    (htext : isWord text = true) (hends : ∀ c ∈ rest.head?, endsWord c = true)
    (hrest : Lexes rest tokens) : Lexes (text.toList ++ rest) (.word text none :: tokens) := by
  unfold isWord at htext
  split at htext
  · cases htext
  rename_i c cs hcs
  rw [Bool.and_eq_true, List.all_eq_true] at htext
  have hquote : ∀ d ∈ (cs ++ rest).head?, d ≠ '\'' ∧ d ≠ '"' ∧ d ≠ '&' := by
    intro d hd
    cases cs with
    | nil => exact not_quote (hends d hd)
    | cons e cs =>
      cases hd
      have hcontinues := htext.2 d List.mem_cons_self
      refine ⟨?_, ?_, ?_⟩ <;> rintro rfl <;> exact absurd hcontinues (by decide)
  rw [hcs, List.cons_append]
  refine Lexes.cons_token ?_ (by simp) hrest
  rw [lexToken_of_startsWord htext.1, lexLetter_eq_lexWord hquote,
    lexWord_append c htext.2 fun d hd => not_continuesWord (hends d hd), ← hcs,
    String.ofList_toList]

theorem isDigit_of_isWord {text : String} (htext : isWord text = true) :
    ∀ c ∈ text.toList.head?, c.isDigit = false := by
  unfold isWord at htext
  split at htext
  · cases htext
  · rename_i c cs hcs
    rw [hcs]
    rintro _ ⟨⟩
    exact not_isDigit_of_startsWord (Bool.and_eq_true_iff.1 htext).1

/-- A point begins no number where no digit follows. -/
theorem Lexes.point {cs : List Char} {tokens : List Token}
    (hcs : ∀ c ∈ cs.head?, c.isDigit = false) (h : Lexes cs tokens) :
    Lexes ('.' :: cs) (.symbol "." :: tokens) := by
  refine .cons_token ?_ (Nat.le_refl _) h
  change lexNumber ('.' :: cs) = _
  cases cs with
  | nil => rfl
  | cons c cs => simp [lexNumber, hcs c rfl, symbol]

/-! Numbers and strings. -/

theorem lexToken_of_isDigit {c : Char} (h : c.isDigit = true) (cs : List Char) :
    lexToken c cs = lexNumber (c :: cs) := by
  unfold lexToken
  split
  all_goals try exact absurd h (by decide)
  rw [if_pos h]

/-- Digits, with at most one point behind the first of them. -/
def isNumber (text : String) : Bool :=
  !(text.toList.takeWhile Char.isDigit).isEmpty &&
    match text.toList.dropWhile Char.isDigit with
    | [] => true
    | '.' :: places => places.all Char.isDigit
    | _ => false

theorem not_isDigit_of_endsPiece {c : Char} (h : endsPiece c = true) : c.isDigit = false := by
  obtain rfl | rfl | rfl | rfl := endsPiece_cases h <;> rfl

section Numbers

variable {whole places rest : List Char} (hwhole : ∀ c ∈ whole, c.isDigit = true)
  (hends : ∀ c ∈ rest.head?, endsPiece c = true)
include hwhole hends

theorem lexNumber_whole : whole ≠ [] →
    lexNumber (whole ++ rest) = some (.token (.number (String.ofList whole) false), rest) := by
  intro hne
  have hpoint : whole ≠ ['.'] := by
    rintro rfl
    exact absurd (hwhole '.' List.mem_cons_self) (by decide)
  obtain ⟨htake, hdrop⟩ := takeWhile_dropWhile_append hwhole
    fun c hc => not_isDigit_of_endsPiece (hends c hc)
  rw [lexNumber]
  simp only [htake, hdrop]
  cases rest with
  | nil => simp [lexExponent, hpoint]
  | cons d rest =>
    obtain rfl | rfl | rfl | rfl := endsPiece_cases (hends d rfl) <;> simp [lexExponent, hpoint]

theorem lexNumber_fraction (hplaces : ∀ c ∈ places, c.isDigit = true) : whole ≠ [] →
    lexNumber (whole ++ '.' :: (places ++ rest)) =
      some (.token (.number (String.ofList (whole ++ '.' :: places)) false), rest) := by
  intro hne
  have hdigits : whole ++ '.' :: places ≠ ['.'] := by
    cases whole with
    | nil => exact absurd rfl hne
    | cons c cs => simp
  have hpoint : ∀ cs, ∀ c ∈ ('.' :: cs).head?, c.isDigit = false := by simp
  obtain ⟨htakePlaces, hdropPlaces⟩ := takeWhile_dropWhile_append hplaces
    fun c hc => not_isDigit_of_endsPiece (hends c hc)
  generalize places ++ rest = behind at htakePlaces hdropPlaces ⊢
  obtain ⟨htake, hdrop⟩ := takeWhile_dropWhile_append hwhole (hpoint behind)
  rw [lexNumber]
  simp only [htake, hdrop]
  cases rest with
  | nil => simp [lexExponent, htakePlaces, hdropPlaces, hdigits]
  | cons d rest =>
    obtain rfl | rfl | rfl | rfl := endsPiece_cases (hends d rfl) <;>
      simp [lexExponent, htakePlaces, hdropPlaces, hdigits]

end Numbers

theorem lexNumber_append {text : String} (htext : isNumber text = true) {rest : List Char}
    (hends : ∀ c ∈ rest.head?, endsPiece c = true) :
    lexNumber (text.toList ++ rest) = some (.token (.number text false), rest) := by
  obtain ⟨cs, rfl⟩ : ∃ cs, text = String.ofList cs := ⟨text.toList, by simp⟩
  rw [isNumber, Bool.and_eq_true, String.toList_ofList, Bool.not_eq_true',
    List.isEmpty_eq_false_iff]
    at htext
  obtain ⟨hne, hplaces⟩ := htext
  have hsplit := List.takeWhile_append_dropWhile (p := Char.isDigit) (l := cs)
  have hwhole := List.all_eq_true.1 (List.all_takeWhile (p := Char.isDigit) (l := cs))
  rw [String.toList_ofList]
  split at hplaces
  · rename_i hmore
    rw [hmore, List.append_nil] at hsplit
    rw [hsplit] at hne hwhole
    exact lexNumber_whole hwhole hends hne
  · rename_i places hmore
    rw [hmore] at hsplit
    have hlex := lexNumber_fraction hwhole hends (List.all_eq_true.1 hplaces) hne
    rwa [← List.cons_append, ← List.append_assoc, hsplit] at hlex
  · cases hplaces

theorem exists_isDigit_of_isNumber {text : String} (h : isNumber text = true) :
    ∃ c cs, text.toList = c :: cs ∧ c.isDigit = true := by
  rw [isNumber, Bool.and_eq_true] at h
  cases hcs : text.toList with
  | nil =>
    rw [hcs] at h
    cases h.1
  | cons c cs =>
    refine ⟨c, cs, rfl, ?_⟩
    cases hdigit : c.isDigit with
    | true => rfl
    | false =>
      rw [hcs, List.takeWhile_cons, hdigit] at h
      cases h.1

theorem Lexes.number {text : String} (htext : isNumber text = true) {rest : List Char}
    {tokens : List Token} (hends : ∀ c ∈ rest.head?, endsPiece c = true)
    (hrest : Lexes rest tokens) :
    Lexes (text.toList ++ rest) (.number text false :: tokens) := by
  have hlex := lexNumber_append htext hends
  obtain ⟨c, cs, hcs, hc⟩ := exists_isDigit_of_isNumber htext
  rw [hcs, List.cons_append] at hlex ⊢
  refine Lexes.cons_token ?_ (by simp) hrest
  rw [lexToken_of_isDigit hc, hlex]

theorem isNumber_toString (n : Nat) : isNumber (toString n) = true := by
  have hdigits : ∀ c ∈ (toString n).toList, c.isDigit = true :=
    fun _ => Text.isDigit_of_mem_toString
  rw [isNumber, List.takeWhile_eq_self_iff.2 hdigits, List.dropWhile_eq_nil_iff.2 hdigits,
    List.isEmpty_eq_false_iff.2 (Text.toString_ne_nil n)]
  rfl

theorem Lexes.natural {n : Nat} {rest : List Char} {tokens : List Token}
    (hends : ∀ c ∈ rest.head?, endsPiece c = true) (hrest : Lexes rest tokens) :
    Lexes ((toString n).toList ++ rest) (.number (toString n) false :: tokens) :=
  .number (isNumber_toString n) hends hrest

/-- Text in quotes ends at its own quote, if no other quote follows. -/
theorem quotedToken_quoted {quote : Char} (token : String → Token) (text : String)
    {rest : List Char} (hrest : ∀ c ∈ rest.head?, c ≠ quote) :
    quotedToken quote token (Text.doubleQuotes quote text.toList ++ quote :: rest) =
      some (.token (token text), rest) := by
  rw [quotedToken, Text.readQuoted?_doubleQuotes hrest, Option.map_some]
  simp only [String.ofList_toList]

theorem tokens?_string (text : String) {rest : List Char} (hrest : ∀ c ∈ rest.head?, c ≠ '\'') :
    tokens? ((Text.quoted '\'' text).toList ++ rest) = (tokens? rest).map (.string text :: ·) := by
  rw [Text.toList_quoted]
  exact tokens?_cons (c := '\'') (quotedToken_quoted .string text hrest) (by simp; omega)

theorem Lexes.string {text : String} {rest : List Char} {tokens : List Token}
    (hends : ∀ c ∈ rest.head?, endsWord c = true) (hrest : Lexes rest tokens) :
    Lexes ((Text.quoted '\'' text).toList ++ rest) (.string text :: tokens) := by
  have hquote : ∀ c ∈ rest.head?, c ≠ '\'' := fun c hc => (not_quote (hends c hc)).1
  rw [← tokens?_eq_some, tokens?_string text hquote, tokens?_eq_some.2 hrest, Option.map_some]

theorem Lexes.quotedWord {text : String} {rest : List Char} {tokens : List Token}
    (hends : ∀ c ∈ rest.head?, endsWord c = true) (hrest : Lexes rest tokens) :
    Lexes ((Text.quoted '"' text).toList ++ rest) (.word text (some '"') :: tokens) := by
  have hquote : ∀ c ∈ rest.head?, c ≠ '"' := fun c hc => (not_quote (hends c hc)).2.1
  rw [Text.toList_quoted]
  exact .cons_token (quotedToken_quoted (.word · (some '"')) text hquote) (by simp; omega) hrest

/-! Operators of one character. -/

/-- A text that begins with no character of an operator. -/
def opensOperand (cs : List Char) : Bool := cs.head?.any fun c => !isOperatorChar c

theorem opensOperand_append {cs : List Char} (h : opensOperand cs = true) (ds : List Char) :
    opensOperand (cs ++ ds) = true := by
  cases cs with
  | nil => cases h
  | cons c cs => exact h

theorem not_isOperatorChar {c : Char}
    (h : (startsWord c || c.isDigit || c == '"' || c == '\'') = true) :
    isOperatorChar c = false := by
  cases hop : isOperatorChar c with
  | false => rfl
  | true =>
    simp only [isOperatorChar, Bool.or_eq_true, beq_iff_eq, or_assoc] at hop
    rcases hop with rfl | rfl | rfl | rfl | rfl | rfl | rfl | rfl | rfl | rfl | rfl | rfl | rfl
      | rfl | rfl | rfl | rfl <;> exact absurd h (by decide)

theorem opensOperand_word {text : String} (h : isWord text = true) :
    opensOperand text.toList = true := by
  rw [isWord] at h
  split at h
  · cases h
  · rename_i c cs hcs
    rw [Bool.and_eq_true] at h
    have hc := not_isOperatorChar (c := c) (by rw [h.1]; rfl)
    simp [opensOperand, hcs, hc]

theorem opensOperand_number {text : String} (h : isNumber text = true) :
    opensOperand text.toList = true := by
  obtain ⟨c, cs, hcs, hdigit⟩ := exists_isDigit_of_isNumber h
  have hc := not_isOperatorChar (c := c) (by rw [hdigit, Bool.or_true]; rfl)
  simp [opensOperand, hcs, hc]

section Operator

variable {c : Char} {cs : List Char} (h : ∀ d ∈ cs.head?, isOperatorChar d = false)

include h

theorem lexOperator_symbol (text : String) : lexOperator text cs = symbol text cs := by
  cases cs with
  | nil => rfl
  | cons d cs => simp [lexOperator, h d rfl]

/-- An operator ends where no character of an operator follows. -/
theorem lexToken_operator (hc : c ∈ ['-', '+', '<', '>']) :
    lexToken c cs = some (.token (.symbol (String.singleton c)), cs) := by
  have hcs : ∀ d more, cs = d :: more → isOperatorChar d = false := by
    rintro d more rfl
    exact h d rfl
  simp only [List.mem_cons, List.not_mem_nil, or_false] at hc
  rcases hc with rfl | rfl | rfl | rfl
  case inr.inl => rfl
  all_goals
    rw [lexToken, lexOperator_symbol h]
    · rfl
    all_goals
      intro more hmore
      exact absurd (hcs _ _ hmore) (by decide)

end Operator

end LogicalSql.Surface
