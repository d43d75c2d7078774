import LogicalSql.Proofs.Outcome
import Mathlib.Data.List.Forall2
import LogicalSql.Surface.Reader.Level

/-! What readers do on printed tokens. A reader takes some tokens from the front and gives a value,
or it is nested too deeply; each part of it is given its own tokens. -/
namespace LogicalSql.Surface

namespace Reader

variable {α β : Type} {f g : Bool} {p : Reader α} {k : α → Reader β} {s u rest : List Token}
  {P : α → Prop} {Q : β → Prop}

theorem bind_of_ok {a : α} {ls ls' : List Lexeme} (h : p ls = .ok (a, ls')) :
    (p >>= k) ls = k a ls' := by
  change (p ls >>= fun (a, ls') => k a ls') = _
  rw [h]
  rfl

theorem bind_of_error {fault : Fault} {ls : List Lexeme} (h : p ls = .error fault) :
    (p >>= k) ls = .error fault := by
  change (p ls >>= fun (a, ls') => k a ls') = _
  rw [h]
  rfl

/-- Whether the first token passes a test. -/
def headIs (test : Token → Bool) (tokens : List Token) : Bool := (tokens.head?.map test).getD false

/-- The size of an array, if it has one. -/
def sizeTokens : Option String → List Token
  | none => []
  | some digits => [.number digits false]

/-- Symbols behind a type: the bracket of a size, and the marks that end the place of the type. -/
def typeSymbols : List String := ["[", ")", ">"]

def TypeEnds (tokens : List Token) : Prop :=
  ∃ text ∈ typeSymbols, ∃ more, tokens = .symbol text :: more

/-- Brackets stand around the sizes of arrays alone, and a size ends a type. -/
inductive Bracketed : List Token → Prop
  | nil : Bracketed []
  | cons {t : Token} {tokens : List Token} : t ≠ .symbol "[" → Bracketed tokens →
    Bracketed (t :: tokens)
  | size (digits : Option String) {tokens : List Token} :
    TypeEnds tokens → Bracketed tokens →
    Bracketed (.symbol "[" :: (sizeTokens digits ++ .symbol "]" :: tokens))

theorem Bracketed.tail {t : Token} (h : Bracketed (t :: rest)) : Bracketed rest := by
  cases h with
  | cons _ hrest => exact hrest
  | size digits _ hrest =>
    have hclose := Bracketed.cons (t := .symbol "]") (by decide) hrest
    cases digits with
    | none => exact hclose
    | some digits => exact .cons (fun h => by cases h) hclose

theorem Bracketed.of_append (h : Bracketed (s ++ rest)) : Bracketed rest := by
  induction s with
  | nil => exact h
  | cons t s ih => exact ih h.tail

theorem Bracketed.exists_size (h : Bracketed s) (hhead : headIs (isSymbol "[") s = true) :
    ∃ digits u, s = .symbol "[" :: (sizeTokens digits ++ .symbol "]" :: u) ∧ TypeEnds u := by
  cases h with
  | nil => cases hhead
  | @cons t _ ht _ =>
    cases t with
    | symbol text => exact absurd (congrArg Token.symbol (beq_iff_eq.1 hhead).symm) ht
    | _ => cases hhead
  | size digits hu _ => exact ⟨digits, _, rfl, hu⟩

theorem TypeEnds.symbol_ne {text : String} (h : TypeEnds rest) (htext : text ∉ typeSymbols) :
    headIs (isSymbol text) rest = false := by
  obtain ⟨other, hother, more, rfl⟩ := h
  exact beq_eq_false_iff_ne.2 fun heq => htext (heq ▸ hother)

theorem TypeEnds.keyword_ne (h : TypeEnds rest) (word : String) :
    headIs (·.isKeyword word) rest = false := by
  obtain ⟨_, _, _, rfl⟩ := h
  rfl

/-- On lexemes with the tokens `s` in front of `rest`, the reader takes `s` and gives a value with
`P` if it fits, and is nested too deeply otherwise. -/
def Reads (fits : Bool) (p : Reader α) (s rest : List Token) (P : α → Prop) : Prop :=
  Bracketed (s ++ rest) → ∀ ls : List Lexeme, ls.map (·.token) = s ++ rest →
    if fits then ∃ a ls', p ls = .ok (a, ls') ∧ ls'.map (·.token) = rest ∧ P a
    else p ls = .error .tooDeep

namespace Reads

theorem pure {a : α} (h : P a) : Reads true (Pure.pure a) [] rest P := by
  intro _ ls hls
  exact ⟨a, ls, rfl, hls, h⟩

theorem bind (hp : Reads f p s (u ++ rest) P) (hk : ∀ a, P a → Reads g (k a) u rest Q) :
    Reads (f && g) (p >>= k) (s ++ u) rest Q := by
  intro hbrackets ls hls
  rw [List.append_assoc] at hbrackets hls
  have hrun := hp hbrackets ls hls
  cases f with
  | false => exact bind_of_error hrun
  | true =>
    obtain ⟨a, ls', ha, hls', hP⟩ := hrun
    have hmore := hk a hP hbrackets.of_append ls' hls'
    rwa [Bool.true_and, bind_of_ok ha]

theorem mono {P' : α → Prop} (h : Reads f p s rest P) (hP : ∀ a, P a → P' a) :
    Reads f p s rest P' := by
  intro hbrackets ls hls
  have hrun := h hbrackets ls hls
  cases f with
  | false => exact hrun
  | true =>
    obtain ⟨a, ls', ha, hls', hPa⟩ := hrun
    exact ⟨a, ls', ha, hls', hP a hPa⟩

/-- A step that takes the first tokens for sure. -/
theorem step (hp : Reads true p s (u ++ rest) P) (hk : ∀ a, P a → Reads g (k a) u rest Q) :
    Reads g (p >>= k) (s ++ u) rest Q := hp.bind hk

/-- A step that only looks at the tokens. -/
theorem look (hp : Reads true p [] (u ++ rest) P) (hk : ∀ a, P a → Reads g (k a) u rest Q) :
    Reads g (p >>= k) u rest Q := hp.bind hk

/-- Only the first step may be nested too deeply. -/
theorem andThen (hp : Reads f p s (u ++ rest) P) (hk : ∀ a, P a → Reads true (k a) u rest Q) :
    Reads f (p >>= k) (s ++ u) rest Q := by
  have hboth := hp.bind hk
  rwa [Bool.and_true] at hboth

theorem andLook (hp : Reads f p s rest P) (hk : ∀ a, P a → Reads true (k a) [] rest Q) :
    Reads f (p >>= k) s rest Q := by
  have hboth := hp.andThen hk
  rwa [List.append_nil] at hboth

/-- The value of the last step, put into a form. -/
theorem map {form : α → β} (hp : Reads f p s rest P) (hform : ∀ a, P a → Q (form a)) :
    Reads f (do return form (← p)) s rest Q := hp.andLook fun a ha => pure (hform a ha)

theorem ite_true {c : Reader Bool} {q q' : Reader α} (hc : Reads true c s (u ++ rest) (· = true))
    (hq : Reads f q u rest P) : Reads f (do if ← c then q else q') (s ++ u) rest P := by
  refine hc.step ?_
  rintro _ rfl
  exact hq

theorem ite_false {c : Reader Bool} {q q' : Reader α} (hc : Reads true c [] (u ++ rest) (· = false))
    (hq : Reads f q' u rest P) : Reads f (do if ← c then q else q') u rest P := by
  refine hc.look ?_
  rintro _ rfl
  exact hq

end Reads

/-! Single tokens. -/

theorem peek?_reads : Reads true peek? [] rest (· = rest.head?) := by
  intro _ ls hls
  refine ⟨_, ls, rfl, hls, ?_⟩
  rw [← List.nil_append rest, ← hls, List.head?_map]

theorem peekKeyword_reads (word : String) :
    Reads true (peekKeyword word) [] rest (· = headIs (·.isKeyword word) rest) := by
  intro _ ls hls
  refine ⟨_, ls, rfl, hls, ?_⟩
  rw [headIs, ← List.nil_append rest, ← hls, List.head?_map]

theorem peekSymbol_reads (text : String) :
    Reads true (peekSymbol text) [] rest (· = headIs (isSymbol text) rest) := by
  intro _ ls hls
  refine ⟨_, ls, rfl, hls, ?_⟩
  rw [headIs, ← List.nil_append rest, ← hls, List.head?_map]

theorem peekWord?_reads :
    Reads true peekWord? [] rest (· = rest.head?.bind Token.keyword?) := by
  intro _ ls hls
  refine ⟨_, ls, rfl, hls, ?_⟩
  rw [← List.nil_append rest, ← hls, List.head?_map]

theorem nextLexeme_reads (t : Token) :
    Reads true nextLexeme [t] rest (·.token = t) := by
  intro _ ls hls
  obtain ⟨l, ls, rfl, hl, hrest⟩ := List.map_eq_cons_iff.1 hls
  exact ⟨l, ls, rfl, hrest, hl⟩

theorem skip_reads (t : Token) : Reads true (skip 1) [t] rest fun _ => True := by
  intro _ ls hls
  refine ⟨(), ls.drop 1, rfl, ?_, trivial⟩
  rw [List.map_drop, hls]
  rfl

/-- A token is taken if it passes a test. -/
theorem taken {c : Reader Bool} {t : Token} (hc : Reads true c [] (t :: rest) (· = true)) :
    Reads true (do
      if ← c then
        skip 1
        return true
      else return false) [t] rest (· = true) := by
  refine Reads.ite_true (u := [t]) hc ?_
  exact (skip_reads t).step fun _ _ => .pure rfl

theorem left {c : Reader Bool} (hc : Reads true c [] rest (· = false)) :
    Reads true (do
      if ← c then
        skip 1
        return true
      else return false) [] rest (· = false) :=
  Reads.ite_false (u := []) hc (.pure rfl)

theorem isKeyword_self {word : String} (h : Text.upper word = word) :
    (Token.word word none).isKeyword word = true := by
  simp [Token.isKeyword, Token.keyword?, h]

theorem isKeyword_eq_false {text word : String} (h : Text.upper text ≠ word) :
    (Token.word text none).isKeyword word = false :=
  beq_eq_false_iff_ne.2 fun heq => h (Option.some.inj heq)

theorem keyword_hit (word : String) (hword : Text.upper word = word) :
    Reads true (keyword word) [.word word none] rest (· = true) := by
  refine taken ((peekKeyword_reads word).mono ?_)
  rintro _ rfl
  exact isKeyword_self hword

theorem keyword_miss {word : String} (h : headIs (·.isKeyword word) rest = false) :
    Reads true (keyword word) [] rest (· = false) :=
  left ((peekKeyword_reads word).mono fun _ hb => hb.trans h)

theorem symbol_hit (text : String) :
    Reads true (symbol text) [.symbol text] rest (· = true) := by
  refine taken ((peekSymbol_reads text).mono ?_)
  rintro _ rfl
  exact beq_self_eq_true text

theorem symbol_miss {text : String} (h : headIs (isSymbol text) rest = false) :
    Reads true (symbol text) [] rest (· = false) :=
  left ((peekSymbol_reads text).mono fun _ hb => hb.trans h)

theorem expectKeyword_reads (word : String) (hword : Text.upper word = word) :
    Reads true (expectKeyword word) [.word word none] rest fun _ => True := by
  refine (keyword_hit word hword).step (u := []) ?_
  rintro _ rfl
  exact .pure trivial

theorem expectSymbol_reads (text : String) :
    Reads true (expectSymbol text) [.symbol text] rest fun _ => True := by
  refine (symbol_hit text).step (u := []) ?_
  rintro _ rfl
  exact .pure trivial

theorem startsWith_eq_true {words : List String} (hwords : ∀ w ∈ words, Text.upper w = w)
    {ls : List Lexeme} (hls : ls.map (·.token) = words.map (.word · none) ++ rest) :
    startsWith words ls = true := by
  induction words generalizing ls with
  | nil => rw [startsWith]
  | cons w words ih =>
    rw [List.forall_mem_cons] at hwords
    obtain ⟨l, ls, rfl, hl, hmore⟩ := List.map_eq_cons_iff.1 hls
    rw [startsWith, hl, isKeyword_self hwords.1, ih hwords.2 hmore, Bool.and_self]

/-- Keywords that stand in a row. -/
theorem keywords_hit (words : List String) (hwords : ∀ w ∈ words, Text.upper w = w) :
    Reads true (Reader.keywords words) (words.map (.word · none)) rest (· = true) := by
  intro _ ls hls
  refine ⟨true, ls.drop words.length, ?_, ?_, rfl⟩
  · change (if startsWith words ls then _ else _ : Reader Bool) ls = _
    rw [startsWith_eq_true hwords hls]
    rfl
  · rw [List.map_drop, hls, ← List.length_map, List.drop_left]

theorem expectKeywords_reads (words : List String) (hwords : ∀ w ∈ words, Text.upper w = w) :
    Reads true (expectKeywords words) (words.map (.word · none)) rest fun _ => True := by
  refine (keywords_hit words hwords).andLook ?_
  rintro _ rfl
  exact .pure trivial

theorem oneOf?_hit {words : List String} {word : String} (hmem : words.contains word = true)
    (hword : Text.upper word = word) :
    Reads true (oneOf? words) [.word word none] rest (· = some word) := by
  refine peekWord?_reads.look ?_
  rintro _ rfl
  have hpeek : ([Token.word word none] ++ rest).head?.bind Token.keyword? = some word :=
    congrArg some hword
  rw [hpeek]
  dsimp only
  rw [hmem]
  exact (skip_reads _).step (u := []) fun _ _ => .pure rfl

theorem expectOneOf_hit {words : List String} {word : String} (hmem : words.contains word = true)
    (hword : Text.upper word = word) :
    Reads true (expectOneOf words) [.word word none] rest (· = word) := by
  refine (oneOf?_hit hmem hword).step (u := []) ?_
  rintro _ rfl
  exact .pure rfl

/-! Tokens that are not the ones looked for. -/

theorem startsWith_eq_false {word : String} {words : List String} {ls : List Lexeme}
    (h : headIs (·.isKeyword word) (ls.map (·.token)) = false) :
    startsWith (word :: words) ls = false := by
  cases ls with
  | nil => rfl
  | cons l ls =>
    rw [startsWith, Bool.and_eq_false_iff]
    exact .inl h

theorem keywords_of_startsWith {words : List String}
    (h : ∀ ls : List Lexeme, ls.map (·.token) = rest → startsWith words ls = false) :
    Reads true (Reader.keywords words) [] rest (· = false) := by
  intro _ ls hls
  refine ⟨false, ls, ?_, hls, rfl⟩
  change (if startsWith words ls then _ else _ : Reader Bool) ls = _
  rw [h ls hls]
  rfl

/-- The first of the keywords is missing. -/
theorem keywords_miss {word : String} {words : List String}
    (h : headIs (·.isKeyword word) rest = false) :
    Reads true (Reader.keywords (word :: words)) [] rest (· = false) := by
  refine keywords_of_startsWith fun ls hls => startsWith_eq_false ?_
  rwa [hls]

theorem oneOf?_miss {words : List String}
    (h : ∀ w ∈ words, headIs (·.isKeyword w) rest = false) :
    Reads true (oneOf? words) [] rest (· = none) := by
  refine peekWord?_reads.look ?_
  rintro _ rfl
  cases hword : (([] ++ rest).head?.bind Token.keyword?) with
  | none => exact .pure rfl
  | some w =>
    obtain ⟨t, ht, hw⟩ := Option.bind_eq_some_iff.1 hword
    have hfalse : words.contains w = false := by
      refine Bool.eq_false_iff.2 fun hcontains => ?_
      have hmiss := h w (List.contains_iff_mem.1 hcontains)
      rw [List.nil_append] at ht
      rw [headIs, ht] at hmiss
      simp [Token.isKeyword, hw] at hmiss
    dsimp only
    rw [hfalse]
    exact .pure rfl

/-! Readers made of readers. -/

theorem option_none {found : Reader Bool} (h : Reads true found [] rest (· = false)) :
    Reads true (option found p) [] rest (· = none) := Reads.ite_false (u := []) h (.pure rfl)

theorem option_some {found : Reader Bool} (h : Reads true found s (u ++ rest) (· = true))
    (hp : Reads f p u rest P) :
    Reads f (option found p) (s ++ u) rest fun o => ∃ a, o = some a ∧ P a :=
  Reads.ite_true h (hp.map fun a ha => ⟨a, rfl, ha⟩)

theorem parenthesized_reads (h : Reads f p s (.symbol ")" :: rest) P) :
    Reads f (parenthesized p) (.symbol "(" :: (s ++ [.symbol ")"])) rest P := by
  refine (expectSymbol_reads "(").step fun _ _ => h.andThen fun a ha => ?_
  exact (expectSymbol_reads ")").step fun _ _ => .pure ha

/-- What is read may depend on where the tokens stand. -/
theorem Reads.get {k : List Lexeme → Reader β}
    (hk : ∀ ls, ls.map (·.token) = s ++ rest → Reads f (k ls) s rest Q) :
    Reads f (MonadState.get >>= k) s rest Q := fun hbrackets ls hls => hk ls hls hbrackets ls hls

theorem Reads.of_bracketed (h : Bracketed (s ++ rest) → Reads f p s rest P) : Reads f p s rest P :=
  fun hbrackets => h hbrackets hbrackets

/-- What is read again from where the reader stood before. -/
theorem Reads.set {ls : List Lexeme} (hls : ls.map (·.token) = s ++ rest)
    (hbrackets : Bracketed (s ++ rest)) (h : Reads f p s rest P) :
    Reads f (do
      MonadState.set ls
      p) u rest P :=
  fun _ _ _ => h hbrackets ls hls

theorem attempt_reads (h : Reads f p s rest P) :
    Reads f (attempt p) s rest fun found => ∃ a, found = some a ∧ P a := by
  intro hbrackets ls hls
  have hrun := h hbrackets ls hls
  cases f with
  | false =>
    change p ls = _ at hrun
    simp [attempt, hrun]
  | true =>
    obtain ⟨a, ls', ha, hls', hP⟩ := hrun
    exact ⟨some a, ls', by rw [attempt, ha], hls', a, rfl, hP⟩

theorem recover_reads (h : Reads true p s rest P) :
    Reads true (recover p) s rest fun outcome => ∃ a, outcome = .ok a ∧ P a := by
  intro hbrackets ls hls
  obtain ⟨a, ls', ha, hls', hP⟩ := h hbrackets ls hls
  exact ⟨.ok a, ls', by rw [recover, ha], hls', a, rfl, hP⟩

/-- Items are read one by one, each with a separator or the end of the list behind it. -/
theorem separatedLoop_reads {ι : Type} {item : ι → List Token} {fits : ι → Bool}
    {R : ι → α → Prop} {sep : String} {x : ι} {xs : List ι}
    (hitems : ∀ y ∈ x :: xs, ∀ behind, behind = rest ∨ behind.head? = some (.symbol sep) →
      Reads (fits y) p (item y) behind (R y))
    (hrest : headIs (isSymbol sep) rest = false) {n : Nat} (hn : xs.length < n) :
    Reads ((x :: xs).all fits) (separatedLoop (symbol sep) p n)
      ([.symbol sep].intercalate ((x :: xs).map item)) rest (List.Forall₂ R (x :: xs)) := by
  induction n generalizing x xs with
  | zero => exact absurd hn (Nat.not_lt_zero _)
  | succ n ih =>
    cases xs with
    | nil =>
      have hlast : ∀ a, R x a → Reads true (do
          if ← symbol sep then return a :: (← separatedLoop (symbol sep) p n)
          else return [a]) [] rest (List.Forall₂ R [x]) := fun a ha =>
        Reads.ite_false (u := []) (symbol_miss hrest) (.pure (.cons ha .nil))
      have hboth := (hitems x List.mem_cons_self rest (.inl rfl)).bind hlast
      simpa [separatedLoop] using hboth
    | cons y ys =>
      have htail :=
        ih (fun z hz => hitems z (List.mem_cons_of_mem x hz)) (Nat.lt_of_succ_lt_succ hn)
      have hmore : ∀ a, R x a → Reads ((y :: ys).all fits) (do
          if ← symbol sep then return a :: (← separatedLoop (symbol sep) p n)
          else return [a]) (.symbol sep :: [.symbol sep].intercalate ((y :: ys).map item)) rest
          (List.Forall₂ R (x :: y :: ys)) := fun a ha =>
        Reads.ite_true (symbol_hit sep) (htail.map fun as has => List.Forall₂.cons ha has)
      have hboth := (hitems x List.mem_cons_self _ (.inr rfl)).bind hmore
      simpa [separatedLoop] using hboth

theorem length_le_intercalate (t : Token) (x : List Token) (xs : List (List Token)) :
    xs.length ≤ ([t].intercalate (x :: xs)).length := by
  induction xs generalizing x with
  | nil => exact Nat.zero_le _
  | cons y ys ih =>
    have htail := ih y
    rw [List.intercalate_cons_cons]
    simp only [List.length_append, List.length_cons, List.length_nil]
    omega

theorem separated_reads {ι : Type} {item : ι → List Token} {fits : ι → Bool}
    {R : ι → α → Prop} {sep : String} {xs : List ι} (hne : xs ≠ [])
    (hitems : ∀ y ∈ xs, ∀ behind, behind = rest ∨ behind.head? = some (.symbol sep) →
      Reads (fits y) p (item y) behind (R y))
    (hrest : headIs (isSymbol sep) rest = false) :
    Reads (xs.all fits) (separated (symbol sep) p) ([.symbol sep].intercalate (xs.map item)) rest
      (List.Forall₂ R xs) := by
  obtain ⟨x, xs, rfl⟩ := List.exists_cons_of_ne_nil hne
  refine Reads.get fun ls hls => separatedLoop_reads hitems hrest ?_
  -- there is a separator in front of each item but the first
  have hseparators := length_le_intercalate (.symbol sep) (item x) (xs.map item)
  have hlength := congrArg List.length hls
  simp only [List.length_append, List.length_map, List.map_cons] at hlength hseparators
  omega

theorem commaSeparated_reads {ι : Type} {item : ι → List Token} {fits : ι → Bool}
    {R : ι → α → Prop} {xs : List ι} (hne : xs ≠ [])
    (hitems : ∀ y ∈ xs, ∀ behind, behind = rest ∨ behind.head? = some (.symbol ",") →
      Reads (fits y) p (item y) behind (R y))
    (hrest : headIs (isSymbol ",") rest = false) :
    Reads (xs.all fits) (commaSeparated p) ([.symbol ","].intercalate (xs.map item)) rest
      (List.Forall₂ R xs) :=
  separated_reads hne hitems hrest

theorem all_fits {ι : Type} (xs : List ι) : (xs.all fun _ => true) = true :=
  List.all_eq_true.2 fun _ _ => rfl

/-- Lists whose items all fit. -/
theorem list_reads {ι : Type} {item : ι → List Token} {R : ι → α → Prop} {xs : List ι}
    (hne : xs ≠ [])
    (hitems : ∀ y ∈ xs, ∀ behind, behind = rest ∨ behind.head? = some (.symbol ",") →
      Reads true p (item y) behind (R y))
    (hrest : headIs (isSymbol ",") rest = false) :
    Reads true (commaSeparated p) ([.symbol ","].intercalate (xs.map item)) rest
      (List.Forall₂ R xs) :=
  all_fits xs ▸ commaSeparated_reads hne hitems hrest

/-- Parts are read one by one, until none follows. -/
theorem manyLoop_reads {ι : Type} {p : Reader (Option α)} {item : ι → List Token} {R : ι → α → Prop}
    {xs : List ι} (hitems : ∀ pre x post, xs = pre ++ x :: post →
      Reads true p (item x) (post.flatMap item ++ rest) fun found => ∃ a, found = some a ∧ R x a)
    (hrest : Reads true p [] rest (· = none)) {n : Nat} (hn : xs.length ≤ n) :
    Reads true (manyLoop p n) (xs.flatMap item) rest (List.Forall₂ R xs) := by
  induction n generalizing xs with
  | zero =>
    obtain rfl := List.length_eq_zero_iff.1 (Nat.le_zero.1 hn)
    exact .pure .nil
  | succ n ih =>
    cases xs with
    | nil =>
      refine hrest.look (u := []) ?_
      rintro _ rfl
      exact .pure .nil
    | cons x xs =>
      rw [List.flatMap_cons]
      refine (hitems [] x xs rfl).step ?_
      rintro _ ⟨a, rfl, ha⟩
      refine Reads.map (ih (fun pre y post heq => ?_) (Nat.le_of_succ_le_succ hn)) fun as has => ?_
      · exact hitems (x :: pre) y post (by rw [heq, List.cons_append])
      · exact .cons ha has

theorem many_none {p : Reader (Option α)} (h : Reads true p [] rest (· = none)) :
    Reads true (many p) [] rest (· = []) := by
  refine Reads.get fun ls _ => ?_
  cases ls.length with
  | zero => exact .pure rfl
  | succ n =>
    refine h.look ?_
    rintro _ rfl
    exact .pure rfl

theorem length_le_flatMap {ι : Type} (item : ι → List β) (xs : List ι)
    (h : ∀ x ∈ xs, item x ≠ []) : xs.length ≤ (xs.flatMap item).length := by
  induction xs with
  | nil => exact Nat.le_refl _
  | cons x xs ih =>
    rw [List.forall_mem_cons] at h
    have hx := List.length_pos_iff.2 h.1
    have hxs := ih h.2
    rw [List.flatMap_cons, List.length_append, List.length_cons]
    omega

theorem many_reads {ι : Type} {p : Reader (Option α)} {item : ι → List Token} {R : ι → α → Prop}
    {xs : List ι} (hne : ∀ x ∈ xs, item x ≠ []) (hitems : ∀ pre x post, xs = pre ++ x :: post →
      Reads true p (item x) (post.flatMap item ++ rest) fun found => ∃ a, found = some a ∧ R x a)
    (hrest : Reads true p [] rest (· = none)) :
    Reads true (many p) (xs.flatMap item) rest (List.Forall₂ R xs) := by
  refine Reads.get fun ls hls => manyLoop_reads hitems hrest ?_
  have hlength := congrArg List.length hls
  rw [List.length_map, List.length_append] at hlength
  have hxs := length_le_flatMap item xs hne
  omega

end Reader

end LogicalSql.Surface
