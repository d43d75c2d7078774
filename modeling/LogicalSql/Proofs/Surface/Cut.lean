import Mathlib.Data.List.Forall2
import LogicalSql.Proofs.Surface.Names
import LogicalSql.Proofs.Surface.Reads

/-! Printed text is cut into its tokens part by part. Each part ends where a space, a comma or a
closing mark follows. -/
namespace LogicalSql

open Surface Surface.Reader

/-- The text is cut into these tokens in front of characters that end it. -/
def CutsTo (ends : Char → Bool) (text : List Char) (tokens : List Token) : Prop :=
  ∀ rest ts, (∀ c ∈ rest.head?, ends c = true) → Lexes rest ts → Lexes (text ++ rest) (tokens ++ ts)

namespace CutsTo

variable {ends ends' : Char → Bool} {cs ds : List Char} {ks ls : List Token}

theorem mono (h : CutsTo ends cs ks) (hends : ∀ c, ends' c = true → ends c = true) :
    CutsTo ends' cs ks :=
  fun rest ts hrest hts => h rest ts (fun c hc => hends c (hrest c hc)) hts

theorem piece (h : CutsTo endsWord cs ks) : CutsTo endsPiece cs ks :=
  h.mono fun _ => endsWord_of_endsPiece

theorem append (h : CutsTo ends cs ks) (h' : CutsTo ends' ds ls)
    (hends : ∀ c ∈ ds.head?, ends c = true) (hnil : ds = [] → ∀ c, ends' c = true → ends c = true) :
    CutsTo ends' (cs ++ ds) (ks ++ ls) := by
  intro rest ts hrest hts
  rw [List.append_assoc, List.append_assoc]
  refine h _ _ ?_ (h' rest ts hrest hts)
  cases ds with
  | nil => exact fun c hc => hnil rfl c (hrest c hc)
  | cons d ds => exact hends

theorem word {name : String} (h : isWord name = true) :
    CutsTo endsWord name.toList [.word name none] :=
  fun _ _ hends hrest => .word h hends hrest

theorem name {i : Ident} {is : List Ident} (h : ∀ j ∈ i :: is, j.legible = true) :
    CutsTo endsWord (showName (i :: is)).toList (pointed (i :: is)) :=
  fun _ _ hends hrest => lexes_showName h hends hrest

theorem number {text : String} (h : isNumber text = true) :
    CutsTo endsPiece text.toList [.number text false] :=
  fun _ _ hends hrest => .number h hends hrest

theorem nil : CutsTo ends [] [] := fun _ _ _ h => h

theorem string (text : String) : CutsTo endsWord (Text.quoted '\'' text).toList [.string text] :=
  fun _ _ hends hrest => .string hends hrest

theorem space (h : CutsTo ends cs ks) : CutsTo ends (' ' :: cs) ks :=
  fun rest ts hrest hts => .space (h rest ts hrest hts)

theorem spaced (h : CutsTo endsPiece cs ks) (h' : CutsTo ends ds ls) :
    CutsTo ends (cs ++ ' ' :: ds) (ks ++ ls) :=
  h.append h'.space (endsPiece_of_space rfl) nofun

/-- A mark that is a token by itself. -/
theorem cons {c : Char} {t : Token} (hlex : ∀ cs, lexToken c cs = some (.token t, cs))
    (h : CutsTo ends cs ks) : CutsTo ends (c :: cs) (t :: ks) :=
  fun rest ts hrest hts => .cons_token (hlex _) (Nat.le_refl _) (h rest ts hrest hts)

/-- Between two marks. -/
theorem enclosed {c d : Char} {t u : Token} (h : CutsTo endsPiece cs ks)
    (hopen : ∀ cs, lexToken c cs = some (.token t, cs))
    (hclose : ∀ cs, lexToken d cs = some (.token u, cs)) (hends : endsPiece d = true) :
    CutsTo ends (c :: (cs ++ [d])) (t :: (ks ++ [u])) :=
  .cons hopen (h.append (.cons hclose .nil) (by simpa using hends) nofun)

theorem parenthesized (h : CutsTo endsPiece cs ks) :
    CutsTo ends ('(' :: (cs ++ [')'])) (.symbol "(" :: (ks ++ [.symbol ")"])) :=
  h.enclosed (fun _ => rfl) (fun _ => rfl) rfl

theorem bracketed (h : CutsTo endsPiece cs ks) :
    CutsTo ends ('[' :: (cs ++ [']'])) (.symbol "[" :: (ks ++ [.symbol "]"])) :=
  h.enclosed (fun _ => rfl) (fun _ => rfl) rfl

/-- Arguments in parentheses, right behind a word. -/
theorem arguments (h : CutsTo endsWord cs ks) (h' : CutsTo endsPiece ds ls) :
    CutsTo endsWord (cs ++ '(' :: (ds ++ [')'])) (ks ++ .symbol "(" :: (ls ++ [.symbol ")"])) :=
  h.append h'.parenthesized (by simp [endsWord]) nofun

/-- An operator in front of what is no part of it. -/
theorem operator {c : Char} (hc : c ∈ ['-', '+', '<', '>']) (hds : opensOperand ds = true)
    (h : CutsTo ends ds ls) : CutsTo ends (c :: ds) (.symbol (String.singleton c) :: ls) := by
  intro rest ts hrest hts
  have hend : ∀ d ∈ (ds ++ rest).head?, isOperatorChar d = false := by
    have hopens := opensOperand_append hds rest
    rw [opensOperand] at hopens
    intro d hd
    rw [Option.mem_def.1 hd] at hopens
    simpa using hopens
  exact .cons_token (lexToken_operator hend hc) (Nat.le_refl _) (h rest ts hrest hts)

/-- A comma and what stands behind it. -/
theorem comma (h : CutsTo endsPiece cs ks) (h' : CutsTo ends ds ls) :
    CutsTo ends (cs ++ ',' :: ds) (ks ++ .symbol "," :: ls) :=
  h.append (.cons (fun _ => rfl) h') (by simp [endsPiece]) nofun

end CutsTo

/-- The text is cut into these tokens, whatever ends it, and there are no brackets in it but around
the sizes of arrays. -/
structure Cut (text : List Char) (tokens : List Token) : Prop where
  brackets : ∀ rest, Bracketed rest → Bracketed (tokens ++ rest)
  lexes : CutsTo endsPiece text tokens

theorem brackets_of_not_mem {tokens : List Token} (h : .symbol "[" ∉ tokens) {rest : List Token}
    (hrest : Bracketed rest) : Bracketed (tokens ++ rest) := by
  induction tokens with
  | nil => exact hrest
  | cons t tokens ih =>
    rw [List.mem_cons, not_or] at h
    exact .cons (Ne.symm h.1) (ih h.2)

namespace Cut

variable {cs ds : List Char} {ks ls : List Token} {name : String}

/-- Tokens that are no brackets. -/
theorem of_cutsTo (h : CutsTo endsPiece cs ks) (hks : .symbol "[" ∉ ks) : Cut cs ks :=
  ⟨fun _ => brackets_of_not_mem hks, h⟩

theorem nil : Cut [] [] := of_cutsTo .nil List.not_mem_nil

theorem word (name : String) (h : isWord name = true) : Cut name.toList [.word name none] :=
  of_cutsTo (CutsTo.word h).piece (by simp)

theorem append (h : Cut cs ks) (h' : Cut ds ls) (hends : ∀ c ∈ ds.head?, endsPiece c = true) :
    Cut (cs ++ ds) (ks ++ ls) := by
  refine ⟨fun rest hrest => ?_, h.lexes.append h'.lexes hends fun _ _ => id⟩
  rw [List.append_assoc]
  exact h.brackets _ (h'.brackets rest hrest)

theorem space (h : Cut cs ks) : Cut (' ' :: cs) ks := ⟨h.brackets, h.lexes.space⟩

theorem spaced (h : Cut cs ks) (h' : Cut ds ls) : Cut (cs ++ ' ' :: ds) (ks ++ ls) :=
  h.append h'.space (endsPiece_of_space rfl)

theorem keyword (word : String) (hword : isWord word = true) (h : Cut cs ks) :
    Cut (word.toList ++ ' ' :: cs) (.word word none :: ks) :=
  (Cut.word word hword).spaced h

/-- A token in front of the others. -/
theorem cons {c : Char} {t : Token} (ht : t ≠ .symbol "[")
    (hlex : ∀ cs, lexToken c cs = some (.token t, cs)) (h : Cut cs ks) : Cut (c :: cs) (t :: ks) :=
  ⟨fun rest hrest => .cons ht (h.brackets rest hrest), .cons hlex h.lexes⟩

theorem closing : Cut [')'] [.symbol ")"] := nil.cons (by decide) fun _ => rfl

theorem comma (h : Cut cs ks) : Cut (',' :: ' ' :: cs) (.symbol "," :: ks) :=
  h.space.cons (by decide) fun _ => rfl

theorem opening (h : Cut cs ks) : Cut ('(' :: cs) (.symbol "(" :: ks) :=
  h.cons (by decide) fun _ => rfl

theorem closed (h : Cut cs ks) : Cut (cs ++ [')']) (ks ++ [.symbol ")"]) :=
  h.append closing (by simp [endsPiece])

theorem parenthesized (h : Cut cs ks) :
    Cut ('(' :: (cs ++ [')'])) (.symbol "(" :: (ks ++ [.symbol ")"])) :=
  h.closed.opening

/-- What stands behind a word without a space. -/
theorem behind (h : CutsTo endsWord cs ks) (hks : .symbol "[" ∉ ks) (h' : Cut ds ls)
    (hends : ∀ c ∈ ds.head?, endsWord c = true) : Cut (cs ++ ds) (ks ++ ls) := by
  refine ⟨fun rest hrest => ?_, h.append h'.lexes hends fun _ _ => endsWord_of_endsPiece⟩
  rw [List.append_assoc]
  exact brackets_of_not_mem hks (h'.brackets rest hrest)

theorem call (h : Cut cs ks) (name : String) (hname : isWord name = true) :
    Cut (name.toList ++ '(' :: (cs ++ [')']))
      (.word name none :: .symbol "(" :: (ks ++ [.symbol ")"])) :=
  behind (CutsTo.word hname) (by simp) h.parenthesized (by simp [endsWord])

theorem star : Cut ['*'] [.symbol "*"] := nil.cons (by decide) fun _ => rfl

/-- Signs in front of a space. -/
theorem sign (h : Cut cs ks) (c : Char) (more : List Char) {text : String} (htext : text ≠ "[")
    (hlex : ∀ cs, lexToken c (more ++ ' ' :: cs) = some (.token (.symbol text), ' ' :: cs)) :
    Cut (c :: (more ++ ' ' :: cs)) (.symbol text :: ks) := by
  refine ⟨fun rest hrest => .cons (by simpa using htext) (h.brackets rest hrest), ?_⟩
  intro rest ts hrest hts
  have hspace := Lexes.space (h.lexes rest ts hrest hts)
  rw [List.cons_append, List.append_assoc]
  exact .cons_token (hlex _) (by simp) hspace

theorem placeholder (n : Nat) :
    Cut ('$' :: (toString n).toList) [.placeholder ("$" ++ toString n)] := by
  refine of_cutsTo (fun rest ts hrest hts => .cons_token ?_ (by simp) hts) (by simp)
  have hdigits : ∀ c ∈ (toString n).toList, (Text.isAlphanumeric c || c == '_') = true := by
    intro c hc
    have hdigit := Text.isDigit_of_mem_toString hc
    have hnumeric : Text.isNumeric c = true := by
      have hle := (Char.isDigit_iff_toNat.1 hdigit).2
      rw [Text.isNumeric, if_pos (Nat.lt_of_le_of_lt hle (by decide)), hdigit]
    rw [Text.isAlphanumeric, hnumeric, Bool.or_true, Bool.true_or]
  have hstop : ∀ c ∈ rest.head?, (Text.isAlphanumeric c || c == '_') = false := by
    intro c hc
    obtain rfl | rfl | rfl | rfl := endsPiece_cases (hrest c hc) <;> rfl
  obtain ⟨htake, hdrop⟩ := takeWhile_dropWhile_append hdigits hstop
  change lexDollar ((toString n).toList ++ rest) = _
  rw [lexDollar, htake, hdrop, String.ofList_toList]
  cases rest with
  | nil => rfl
  | cons d rest => obtain rfl | rfl | rfl | rfl := endsPiece_cases (hrest d rfl) <;> rfl

/-- A name of one or more parts. -/
theorem pointed {i : Ident} {is : List Ident} (h : ∀ j ∈ i :: is, j.legible = true) :
    Cut (showName (i :: is)).toList (Surface.pointed (i :: is)) :=
  of_cutsTo (CutsTo.name h).piece (bracket_not_mem_pointed _)

end Cut

/-! Lists of parts. -/

/-- Each text is cut into the tokens of its place. -/
abbrev Cuts (texts : List String) (parts : List (List Token)) : Prop :=
  List.Forall₂ (fun text tokens => Cut text.toList tokens) texts parts

variable {texts us : List String} {parts : List (List Token)} {ks ls : List Token}

/-- The parts are cut with what stands between them, where each part ends. -/
theorem Cuts.intercalate {sep : String} {between : List Token}
    (hsep : ∀ {cs ks}, Cut cs ks → Cut (sep.toList ++ cs) (between ++ ks))
    (hends : ∀ cs, ∀ c ∈ (sep.toList ++ cs).head?, endsPiece c = true) (h : Cuts texts parts) :
    Cut (sep.intercalate texts).toList (between.intercalate parts) := by
  induction h with
  | nil => simpa using Cut.nil
  | cons hhead htail ih =>
    cases htail with
    | nil => simpa using hhead
    | cons =>
      have hmore := hhead.append (hsep ih) (hends _)
      simpa using hmore

theorem Cuts.map {ι : Type} {text : ι → String} {part : ι → List Token} {xs : List ι}
    (h : ∀ x ∈ xs, Cut (text x).toList (part x)) : Cuts (xs.map text) (xs.map part) := by
  rw [Cuts, List.forall₂_map_left_iff, List.forall₂_map_right_iff]
  exact List.forall₂_same.2 h

theorem Cuts.commaList (h : Cuts texts parts) :
    Cut (LogicalSql.commaList texts).toList (Token.commas parts) :=
  h.intercalate Cut.comma (by simp [endsPiece])

theorem Cut.commaList {part : String → List Token}
    (h : ∀ text ∈ texts, Cut text.toList (part text)) :
    Cut (LogicalSql.commaList texts).toList (Token.commas (texts.map part)) := by
  have hcuts : Cuts (texts.map id) (texts.map part) := .map h
  rw [List.map_id] at hcuts
  exact hcuts.commaList

/-- Clauses with spaces between them are cut into these tokens. -/
inductive CutClauses : List String → List Token → Prop
  | nil : CutClauses [] []
  | cons {text : String} {texts : List String} {ks ls : List Token} :
    Cut text.toList ks → CutClauses texts ls → CutClauses (text :: texts) (ks ++ ls)

namespace CutClauses

theorem single {text : String} (h : Cut text.toList ks) : CutClauses [text] ks := by
  simpa using cons h nil

theorem append (h : CutClauses texts ks) (h' : CutClauses us ls) :
    CutClauses (texts ++ us) (ks ++ ls) := by
  induction h with
  | nil => exact h'
  | cons hhead _ ih =>
    rw [List.append_assoc]
    exact cons hhead ih

theorem intercalate (h : CutClauses texts ks) : Cut (" ".intercalate texts).toList ks := by
  induction h with
  | nil => exact .nil
  | cons hhead htail ih =>
    cases htail with
    | nil => simpa using hhead
    | cons => simpa using hhead.spaced ih

end CutClauses

end LogicalSql
