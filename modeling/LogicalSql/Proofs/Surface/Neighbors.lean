import LogicalSql.Proofs.Query.Tokens
import LogicalSql.Proofs.Surface.Reads
import LogicalSql.Proofs.Surface.Words
import LogicalSql.Surface.Reader.Infix

/-! What stands around an expression in printed text: the tokens that it may start with, and those
that may follow it. Other tokens are looked for at these places in vain. -/
namespace LogicalSql.Surface.Reader

variable {rest tokens : List Token} {text word : String} {words : List String}

/-! Behind an expression. -/

/-- Words that may follow an expression. -/
def followWords : List String := [
  "AND", "AS", "ASC", "BETWEEN", "CROSS", "DESC", "ELSE", "END", "EXCEPT", "FROM", "FULL", "GROUP",
  "HAVING", "ILIKE", "IN", "INTERSECT", "IS", "JOIN", "LEFT", "LIKE", "LIMIT", "NATURAL", "NOT",
  "NULLS", "OFFSET", "OR", "ORDER", "RIGHT", "THEN", "UNION", "WHEN", "WHERE"]

/-- Symbols that may follow an expression. -/
def followSymbols : List String := [
  ")", ",", "=", "<>", "<", "<=", ">", ">=", "+", "-", "*", "/", "%", "||"]

def follows : Token → Bool
  | .word text none => followWords.contains text
  | .symbol text => followSymbols.contains text
  | _ => false

/-- These tokens may follow an expression, or there are none. -/
def Ends (tokens : List Token) : Prop := (tokens.head?.map follows).getD true = true

/-- The strength of the operator that these tokens begin with. -/
def strengthOf (tokens : List Token) : Nat := strength (tokens.map fun t => ⟨t, .nowhere, []⟩)

/-- These tokens end any expression in front of them. -/
structure Closes (tokens : List Token) : Prop where
  ends : Ends tokens
  strength : strengthOf tokens = 0

theorem upper_of_mem_followWords : ∀ w ∈ followWords, Text.upper w = w := by decide

theorem Ends.symbol_ne (h : Ends rest) (htext : followSymbols.contains text = false) :
    headIs (isSymbol text) rest = false := by
  cases rest with
  | nil => rfl
  | cons t rest =>
    cases t with
    | symbol other =>
      refine beq_eq_false_iff_ne.2 ?_
      rintro rfl
      exact absurd h (Bool.eq_false_iff.1 htext)
    | _ => rfl

theorem Ends.keyword_ne (h : Ends rest) (hword : word ∉ followWords) :
    headIs (·.isKeyword word) rest = false := by
  cases rest with
  | nil => rfl
  | cons t rest =>
    cases t with
    | word text quote =>
      cases quote with
      | some _ => rfl
      | none =>
        have hmem : text ∈ followWords := List.contains_iff_mem.1 h
        refine beq_eq_false_iff_ne.2 fun heq => hword ?_
        rw [← Option.some.inj heq, upper_of_mem_followWords text hmem]
        exact hmem
    | _ => rfl

/-- The tokens are over, or close a parenthesis, or begin with one of these words. -/
def FollowedBy (words : List String) (tokens : List Token) : Prop :=
  ∀ t ∈ tokens.head?, t = .symbol ")" ∨ ∃ w ∈ words, t = .keyword w

theorem FollowedBy.mono {words' : List String} (h : FollowedBy words tokens)
    (hwords : words ⊆ words') : FollowedBy words' tokens := by
  intro t ht
  rcases h t ht with hclose | ⟨w, hw, htoken⟩
  · exact .inl hclose
  · exact .inr ⟨w, hwords hw, htoken⟩

theorem followedBy_nil : FollowedBy words [] := nofun

theorem followedBy_parenthesis : FollowedBy words (.symbol ")" :: rest) := by
  rintro t ⟨⟩
  exact .inl rfl

theorem followedBy_keyword (hword : word ∈ words) : FollowedBy words (.keyword word :: rest) := by
  rintro t ⟨⟩
  exact .inr ⟨word, hword, rfl⟩

/-- The words that begin the clauses of a query behind its fields, in their order. -/
def clauseWords : List String := [
  "FROM", "JOIN", "LEFT", "RIGHT", "FULL", "CROSS", "NATURAL", "WHERE", "GROUP", "HAVING", "UNION",
  "INTERSECT", "EXCEPT", "ORDER", "LIMIT", "OFFSET"]

theorem FollowedBy.symbol_ne (h : FollowedBy words rest) (htext : text ≠ ")") :
    headIs (isSymbol text) rest = false := by
  cases rest with
  | nil => rfl
  | cons t rest =>
    rcases h t rfl with rfl | ⟨w, -, rfl⟩
    · exact beq_eq_false_iff_ne.2 htext
    · rfl

/-- The words that begin a clause or the condition of a join. -/
def sourceWords : List String := "ON" :: "USING" :: clauseWords

theorem clauseWords_subset : clauseWords ⊆ sourceWords :=
  fun _ h => List.mem_cons_of_mem _ (List.mem_cons_of_mem _ h)

theorem upper_of_mem_sourceWords : ∀ w ∈ sourceWords, Text.upper w = w := by decide

theorem FollowedBy.keyword_ne (h : FollowedBy words rest) (hwords : words ⊆ sourceWords)
    (hword : word ∉ words) : headIs (·.isKeyword word) rest = false := by
  cases rest with
  | nil => rfl
  | cons t rest =>
    rcases h t rfl with rfl | ⟨w, hw, rfl⟩
    · rfl
    · refine beq_eq_false_iff_ne.2 fun heq => hword ?_
      rw [← Option.some.inj heq, upper_of_mem_sourceWords w (hwords hw)]
      exact hw

theorem closes_nil : Closes [] := ⟨rfl, rfl⟩

theorem closes_parenthesis : Closes (.symbol ")" :: rest) := ⟨rfl, rfl⟩

theorem closes_comma : Closes (.symbol "," :: rest) := ⟨rfl, rfl⟩

/-- Words that are no operators. -/
theorem closes_keyword
    (hword : word ∈ clauseWords ++ ["AS", "ASC", "DESC", "ELSE", "END", "NULLS", "THEN", "WHEN"]) :
    Closes (.keyword word :: rest) := by
  simp only [clauseWords, List.cons_append, List.nil_append, List.mem_cons, List.not_mem_nil,
    or_false] at hword
  casesm* _ ∨ _ <;> subst word <;> exact ⟨rfl, rfl⟩

theorem FollowedBy.closes (h : FollowedBy words rest) (hwords : words ⊆ clauseWords) :
    Closes rest := by
  cases rest with
  | nil => exact closes_nil
  | cons t rest =>
    rcases h t rfl with rfl | ⟨w, hw, rfl⟩
    · exact closes_parenthesis
    · exact closes_keyword (List.mem_append_left _ (hwords hw))

/-- An item of a list ends with a comma, or with what follows the list. -/
theorem closes_behind {behind : List Token} (hrest : Closes rest)
    (h : behind = rest ∨ behind.head? = some (.symbol ",")) : Closes behind := by
  rcases h with rfl | hcomma
  · exact hrest
  · cases behind with
    | nil => cases hcomma
    | cons t behind =>
      cases hcomma
      exact closes_comma

/-- An item of a list ends here: a comma follows it, or what follows the list. -/
def Stops (words : List String) (tokens : List Token) : Prop :=
  FollowedBy words tokens ∨ tokens.head? = some (.symbol ",")

theorem FollowedBy.stops (h : FollowedBy words rest) {behind : List Token}
    (hbehind : behind = rest ∨ behind.head? = some (.symbol ",")) : Stops words behind := by
  rcases hbehind with rfl | hcomma
  · exact .inl h
  · exact .inr hcomma

theorem Stops.symbol_ne (h : Stops words rest) (htext : text ≠ ")" ∧ text ≠ ",") :
    headIs (isSymbol text) rest = false := by
  rcases h with hfollowed | hcomma
  · exact hfollowed.symbol_ne htext.1
  · rw [headIs, hcomma]
    exact beq_eq_false_iff_ne.2 htext.2

theorem Stops.keyword_ne (h : Stops words rest) (hwords : words ⊆ sourceWords)
    (hword : word ∉ words) : headIs (·.isKeyword word) rest = false := by
  rcases h with hfollowed | hcomma
  · exact hfollowed.keyword_ne hwords hword
  · rw [headIs, hcomma]
    rfl

theorem Stops.closes (h : Stops words rest) (hwords : words ⊆ clauseWords) : Closes rest := by
  rcases h with hfollowed | hcomma
  · exact hfollowed.closes hwords
  · exact closes_behind closes_nil (.inr hcomma)

theorem ends_operator (op : BinaryOp) : Ends (op.tokens ++ rest) := by cases op <;> rfl

/-! In front of an expression. -/

/-- Tokens that an expression starts with. -/
def begins : Token → Bool
  | .word text none => !leadingWords.contains (Text.upper text)
  | .word _ (some _) => true
  | .number _ _ => true
  | .string _ => true
  | .placeholder _ => true
  | .symbol text => text == "(" || text == "+" || text == "-"
  | _ => false

/-- The tokens start with an expression. A point behind its first word is that of a name, and behind
the last part of the name stands none; a parenthesis in front of it is not closed at once. -/
structure Starts (tokens : List Token) : Prop where
  first : headIs begins tokens = true
  point : headIs (isSymbol ".") tokens.tail = false ∨
    ∃ i is more, tokens = pointed (i :: is) ++ more ∧ headIs (isSymbol ".") more = false
  null : headIs (·.isKeyword "NULL") tokens = true → Ends tokens.tail
  filled : headIs (isSymbol "(") tokens = true → headIs (isSymbol ")") tokens.tail = false

theorem Starts.symbol_ne (h : Starts rest) (htext : begins (.symbol text) = false) :
    headIs (isSymbol text) rest = false := by
  cases rest with
  | nil => rfl
  | cons t rest =>
    cases t with
    | symbol other =>
      refine beq_eq_false_iff_ne.2 ?_
      rintro rfl
      exact absurd h.first (Bool.eq_false_iff.1 htext)
    | _ => rfl

theorem Starts.keyword_ne (h : Starts rest) (hword : word ∈ leadingWords) :
    headIs (·.isKeyword word) rest = false := by
  cases rest with
  | nil => rfl
  | cons t rest =>
    cases t with
    | word text quote =>
      cases quote with
      | some _ => rfl
      | none =>
        have hbegins : begins (.word text none) = true := h.first
        refine beq_eq_false_iff_ne.2 fun heq => ?_
        rw [begins, Option.some.inj heq, List.contains_iff_mem.2 hword] at hbegins
        cases hbegins
    | _ => rfl

end LogicalSql.Surface.Reader
