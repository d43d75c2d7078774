import LogicalSql.Proofs.Surface.Neighbors
import LogicalSql.Surface.Reader.Primary

/-! No printed expression begins like a constant of a type. A word that names no type is read as a
type of another name, and such a type makes no constant; behind a word that does name a type, no
string follows. -/
namespace LogicalSql.Surface.Reader

variable {α β : Type} {p : Reader α} {k : α → Reader β} {P : α → Prop} {s more : List Token}
  {R : α → List Token → Prop} {S : β → List Token → Prop}

/-- On the tokens `s` the reader meets something unexpected, or it gives a value and leaves tokens
with `R`. -/
def Tries (p : Reader α) (s : List Token) (R : α → List Token → Prop) : Prop :=
  Bracketed s → ∀ ls : List Lexeme, ls.map (·.token) = s →
    p ls = .error .unexpected ∨
      ∃ a ls', p ls = .ok (a, ls') ∧ Bracketed (ls'.map (·.token)) ∧ R a (ls'.map (·.token))

namespace Tries

theorem pure {a : α} (h : R a s) : Tries (Pure.pure a) s R := by
  rintro hbrackets ls rfl
  exact .inr ⟨a, ls, rfl, hbrackets, h⟩

theorem fail : Tries (Reader.fail : Reader α) s R := fun _ _ _ => .inl rfl

theorem bind (hp : Tries p s R) (hk : ∀ a u, R a u → Tries (k a) u S) : Tries (p >>= k) s S := by
  intro hbrackets ls hls
  rcases hp hbrackets ls hls with herror | ⟨a, ls', ha, hbrackets', hR⟩
  · exact .inl (bind_of_error herror)
  · rw [bind_of_ok ha]
    exact hk a _ hR hbrackets' ls' rfl

theorem mono {R' : α → List Token → Prop} (h : Tries p s R) (hR : ∀ a u, R a u → R' a u) :
    Tries p s R' := by
  intro hbrackets ls hls
  rcases h hbrackets ls hls with herror | ⟨a, ls', ha, hbrackets', hRa⟩
  · exact .inl herror
  · exact .inr ⟨a, ls', ha, hbrackets', hR _ _ hRa⟩

theorem get {k : List Lexeme → Reader β}
    (hk : ∀ ls : List Lexeme, ls.map (·.token) = s → Bracketed s → Tries (k ls) s S) :
    Tries (MonadState.get >>= k) s S := fun hbrackets ls hls => hk ls hls hbrackets hbrackets ls hls

theorem of_bracketed (h : Bracketed s → Tries p s R) : Tries p s R := fun hbrackets =>
  h hbrackets hbrackets

theorem set {ls : List Lexeme} {u : List Token} (hls : ls.map (·.token) = u)
    (hbrackets : Bracketed u) :
    Tries (MonadStateOf.set ls : Reader PUnit) s fun _ v => v = u := by
  subst hls
  exact fun _ _ _ => .inr ⟨⟨⟩, ls, rfl, hbrackets, rfl⟩

theorem of_reads {u rest : List Token} (h : Reads true p u rest P) :
    Tries p (u ++ rest) fun a v => v = rest ∧ P a := by
  intro hbrackets ls hls
  obtain ⟨a, ls', ha, hls', hP⟩ := h hbrackets ls hls
  refine .inr ⟨a, ls', ha, ?_, hls', hP⟩
  rw [hls']
  exact hbrackets.of_append

/-- What only looks at the tokens. -/
theorem of_looks (h : Reads true p [] s P) : Tries p s fun a v => v = s ∧ P a := of_reads h

theorem look (hp : Reads true p [] s P) (hk : ∀ a, P a → Tries (k a) s S) :
    Tries (p >>= k) s S := by
  refine (of_looks hp).bind ?_
  rintro a _ ⟨rfl, ha⟩
  exact hk a ha

/-- A reader that gives no value takes nothing. -/
theorem attempt (h : Tries p s fun _ _ => False) :
    Reads true (Reader.attempt p) [] s (· = none) := by
  intro hbrackets ls hls
  rcases h hbrackets ls hls with herror | ⟨_, _, _, _, hfalse⟩
  · exact ⟨none, ls, by rw [Reader.attempt, herror], hls, rfl⟩
  · exact hfalse.elim

/-- Where the reader meets something unexpected, nothing is taken. -/
theorem attempts (h : Tries p s R) : Tries (Reader.attempt p) s fun found u =>
    found = none ∧ u = s ∨ ∃ a, found = some a ∧ R a u := by
  intro hbrackets ls hls
  rcases h hbrackets ls hls with herror | ⟨a, ls', ha, hbrackets', hR⟩
  · refine .inr ⟨none, ls, by rw [Reader.attempt, herror], ?_, .inl ⟨rfl, hls⟩⟩
    rwa [hls]
  · exact .inr ⟨some a, ls', by rw [Reader.attempt, ha], hbrackets', .inr ⟨a, rfl, hR⟩⟩

/-- A reader that takes nothing, if it gives a value. -/
theorem recover (h : Tries p s fun a u => u = s ∧ P a) : Reads true (Reader.recover p) [] s
    fun outcome => outcome = .error .unexpected ∨ ∃ a, outcome = .ok a ∧ P a := by
  intro hbrackets ls hls
  rcases h hbrackets ls hls with herror | ⟨a, ls', ha, -, hs, hP⟩
  · exact ⟨_, ls, by rw [Reader.recover, herror], hls, .inl rfl⟩
  · exact ⟨_, ls', by rw [Reader.recover, ha], hs, .inr ⟨a, rfl, hP⟩⟩

theorem ite_false {c : Reader Bool} {q q' : Reader α} (hc : Reads true c [] s (· = false))
    (hq : Tries q' s R) : Tries (do if ← c then q else q') s R := by
  refine look hc ?_
  rintro _ rfl
  exact hq

end Tries

/-! Readers that take tokens of any kind. -/

theorem nextLexeme_tries : Tries nextLexeme s fun l u => s = l.token :: u := by
  intro hbrackets ls hls
  subst hls
  cases ls with
  | nil => exact .inl rfl
  | cons l ls => exact .inr ⟨l, ls, rfl, hbrackets.tail, rfl⟩

theorem next_tries : Tries next s fun t u => s = t :: u :=
  nextLexeme_tries.bind fun _ _ h => .pure h

theorem symbol_tries (text : String) :
    Tries (symbol text) s fun found u => if found then s = .symbol text :: u else u = s := by
  intro hbrackets ls hls
  subst hls
  cases ls with
  | nil => exact .inr ⟨false, [], rfl, hbrackets, rfl⟩
  | cons l ls =>
    have hrun : symbol text (l :: ls) =
        if isSymbol text l.token then .ok (true, ls) else .ok (false, l :: ls) := by
      change (if isSymbol text l.token = true then _ else _ : Reader Bool) (l :: ls) = _
      split <;> rfl
    rw [hrun]
    split
    · rename_i hsymbol
      refine .inr ⟨true, ls, rfl, hbrackets.tail, ?_⟩
      obtain ⟨t, extent, blanks⟩ := l
      cases t with
      | symbol other => rw [if_pos rfl, List.map_cons, beq_iff_eq.1 hsymbol]
      | _ => cases hsymbol
    · exact .inr ⟨false, _, rfl, hbrackets, rfl⟩

theorem expectSymbol_tries (text : String) :
    Tries (expectSymbol text) s fun _ u => s = .symbol text :: u := by
  refine (symbol_tries text).bind fun found u hu => ?_
  cases found with
  | false => exact .fail
  | true => exact .pure hu

theorem natural_tries : Tries natural s fun _ u => ∃ digits long, s = .number digits long :: u := by
  refine next_tries.bind ?_
  rintro t u rfl
  split
  · rename_i digits long
    split
    · split
      · exact .pure ⟨digits, long, rfl⟩
      · exact .fail
    · exact .fail
  · exact .fail

theorem identifier_tries : Tries identifier s fun _ _ => True := by
  refine nextLexeme_tries.bind fun l _ _ => ?_
  split
  · exact .pure trivial
  · exact .fail

theorem separatedLoop_tries {separator : Reader Bool}
    (hseparator : ∀ s, Tries separator s fun _ _ => True) (hp : ∀ s, Tries p s fun _ _ => True)
    (n : Nat) : Tries (separatedLoop separator p n) s fun _ _ => True := by
  induction n generalizing s with
  | zero => exact .fail
  | succ n ih =>
    refine (hp s).bind fun a u _ => (hseparator u).bind fun found _ _ => ?_
    split
    · exact ih.bind fun _ _ _ => .pure trivial
    · exact .pure trivial

theorem typeModifiers_tries (n : Nat) : Tries (typeModifiers n) s fun _ _ => True := by
  induction n generalizing s with
  | zero => exact .fail
  | succ n ih =>
    refine next_tries.bind fun t _ _ => ?_
    split
    · exact ih.bind fun _ _ _ => .pure trivial
    · exact ih.bind fun _ _ _ => .pure trivial
    · exact ih.bind fun _ _ _ => .pure trivial
    · exact ih
    · exact .pure trivial
    · exact .fail

/-! Types. -/

def DataType.isCustom : DataType → Bool
  | .custom _ _ => true
  | _ => false

theorem customType_tries : Tries customType s fun type _ => DataType.isCustom type = true := by
  have hpoint : ∀ s, Tries (symbol ".") s fun _ _ => True := fun s =>
    (symbol_tries ".").mono fun _ _ _ => trivial
  have hname : Tries objectName s fun _ _ => True :=
    .get fun ls _ _ => separatedLoop_tries hpoint (fun _ => identifier_tries) _
  refine hname.bind fun name _ _ => (symbol_tries "(").bind fun found _ _ => ?_
  split
  · exact .get fun ls _ _ => (typeModifiers_tries _).bind fun mods _ _ => .pure rfl
  · exact .pure rfl

theorem arraySize?_none (h : headIs (isSymbol "[") s = false) :
    Reads true arraySize? [] s (· = none) :=
  Reads.ite_false (u := []) (symbol_miss h) (.pure rfl)

theorem arraySize?_tries (digits : Option String) {u : List Token} :
    Tries arraySize? (.symbol "[" :: (sizeTokens digits ++ .symbol "]" :: u)) fun found v =>
      found.isSome = true ∧ v = u := by
  refine (Tries.of_reads (symbol_hit "[")).bind ?_
  rintro _ _ ⟨rfl, rfl⟩
  refine natural_tries.attempts.bind fun size v hv => (expectSymbol_tries "]").bind ?_
  rintro _ w rfl
  refine .pure ⟨rfl, ?_⟩
  cases digits with
  | none =>
    rcases hv with ⟨-, hv⟩ | ⟨_, -, _, _, hv⟩
    · exact (List.cons.inj hv).2
    · cases hv
  | some digits =>
    rcases hv with ⟨-, hv⟩ | ⟨_, -, _, _, hv⟩
    · cases hv
    · exact (List.cons.inj (List.cons.inj hv).2).2.symm

/-- All sizes are taken, up to the end of the type. -/
theorem manySizes_tries {n : Nat} (hn : s.length ≤ n) :
    Tries (manyLoop arraySize? n) s fun sizes u =>
      headIs (isSymbol "[") s = false ∧ sizes = [] ∧ u = s ∨
        sizes ≠ [] ∧ TypeEnds u := by
  induction n generalizing s with
  | zero =>
    obtain rfl := List.length_eq_zero_iff.1 (Nat.le_zero.1 hn)
    exact .pure (.inl ⟨rfl, rfl, rfl⟩)
  | succ n ih =>
    cases hhead : headIs (isSymbol "[") s with
    | false =>
      refine .look (arraySize?_none hhead) ?_
      rintro _ rfl
      exact .pure (.inl ⟨rfl, rfl, rfl⟩)
    | true =>
      refine .of_bracketed fun hbrackets => ?_
      obtain ⟨digits, u, rfl, hu⟩ := hbrackets.exists_size hhead
      have hlength : u.length ≤ n := by
        simp only [List.length_cons, List.length_append] at hn
        omega
      refine (arraySize?_tries digits).bind ?_
      rintro found v ⟨hfound, rfl⟩
      obtain ⟨size, rfl⟩ := Option.isSome_iff_exists.1 hfound
      refine (ih hlength).bind fun sizes w hw => .pure (.inr ⟨List.cons_ne_nil _ _, ?_⟩)
      rcases hw with ⟨-, -, rfl⟩ | ⟨-, hclose⟩
      · exact hu
      · exact hclose

theorem arraySizes_tries : Tries arraySizes s fun sizes u =>
    sizes = [] ∧ u = s ∨ sizes ≠ [] ∧ TypeEnds u := by
  refine .get fun ls hls _ => ?_
  have hlength : s.length = ls.length := by rw [← hls, List.length_map]
  exact (manySizes_tries (Nat.le_of_eq hlength)).mono fun sizes u hu => hu.imp And.right id

theorem foldl_array {sizes : List (Option Nat)} (h : sizes ≠ []) (type : DataType) :
    ∃ element size, sizes.foldl DataType.array type = .array element size := by
  rcases List.eq_nil_or_concat sizes with rfl | ⟨sizes, size, rfl⟩
  · exact absurd rfl h
  · exact ⟨_, size,
      by rw [List.concat_eq_append, List.foldl_append, List.foldl_cons, List.foldl_nil]⟩

/-- The keyword that a token spells, and nothing for other tokens. -/
def spelled (t : Token) : String := t.keyword?.getD ""

theorem lookup_eq_none {γ : Type} {table : List (String × γ)} {word : String}
    (hword : word ∉ typeWords) (htable : ∀ entry ∈ table, entry.1 ∈ typeWords) :
    table.lookup word = none := by
  rw [List.lookup_eq_none_iff]
  intro entry hentry
  refine bne_iff_ne.2 ?_
  rintro rfl
  exact hword (htable entry hentry)

theorem keywordType?_eq_none {word : String} (hword : word ∉ typeWords) :
    keywordType? word = Pure.pure none := by
  unfold keywordType?
  rw [lookup_eq_none hword (by simp [plainTypes, typeWords]),
    lookup_eq_none hword (by simp [lengthTypes, typeWords]),
    lookup_eq_none hword (by simp [integerTypes, typeWords]),
    lookup_eq_none hword (by simp [numericTypes, typeWords])]
  dsimp only
  split
  all_goals first
    | rfl
    | exact absurd (by simp [typeWords]) hword

/-- What is read behind a word: a type of another name, one with `R`, or an array, which ends with
its sizes. -/
def TypeOutcome (R : Option DataType → List Token → Prop) (type : DataType) (u : List Token) :
    Prop :=
  DataType.isCustom type = true ∨ R (some type) u ∨
    (∃ element size, type = .array element size) ∧ TypeEnds u

/-- A word begins a type or stands for one of another name, which takes what may follow it. -/
theorem typeWith_tries {t : Token} (hword : spelled t ≠ "ARRAY") (inner : Reader ClosedType)
    {R : Option DataType → List Token → Prop} (h : Tries (keywordType? (spelled t)) more R) :
    Tries (typeWith inner) (t :: more) fun c u => c.closed = false ∧ TypeOutcome R c.type u := by
  have hsizes : ∀ type u, TypeOutcome R type u → Tries (do
      let sizes ← arraySizes
      return (⟨sizes.foldl DataType.array type, false⟩ : ClosedType)) u fun c u =>
        c.closed = false ∧ TypeOutcome R c.type u := by
    intro type u htype
    refine arraySizes_tries.bind ?_
    rintro sizes v (⟨rfl, rfl⟩ | ⟨hne, hclose⟩)
    · exact .pure ⟨rfl, htype⟩
    · exact .pure ⟨rfl, .inr (.inr ⟨foldl_array hne type, hclose⟩)⟩
  refine .get fun ls hls hbrackets => next_tries.bind fun t' u heq => ?_
  cases heq
  split
  · rw [spelled] at hword h
    simp only [if_neg hword]
    refine h.bind fun found u hu => ?_
    cases found with
    | some type => exact hsizes type u (.inr (.inl hu))
    | none =>
      refine (Tries.set hls hbrackets).bind fun _ _ _ => customType_tries.bind
        fun type _ htype => ?_
      exact hsizes type _ (.inl htype)
  · exact .fail

theorem dataType_tries {t : Token} (hword : spelled t ≠ "ARRAY")
    {R : Option DataType → List Token → Prop} (h : Tries (keywordType? (spelled t)) more R) :
    Tries dataType (t :: more) (TypeOutcome R) := by
  refine .get fun ls _ _ => (typeWith_tries hword (nestedType ls.length) h).bind ?_
  rintro ⟨type, _⟩ u ⟨rfl, htype⟩
  exact .pure htype

/-! Constants of a type. -/

theorem literalString_symbol (text : String) :
    Tries literalString (.symbol text :: more) fun _ _ => False := by
  refine next_tries.bind ?_
  rintro _ _ ⟨⟩
  exact .fail

/-- Where no type but one of another name is read, or no string follows it, there is no constant. -/
theorem typedString_tries {L : Level} {t : Token} (hword : spelled t ≠ "ARRAY")
    (h : Tries (keywordType? (spelled t)) more fun found u => ∀ type ∈ found,
      (∀ name, type ≠ .plain "INTERVAL" name) ∧ Tries literalString u fun _ _ => False) :
    Tries (typedString L) (t :: more) fun _ _ => False := by
  refine (dataType_tries hword h).bind fun type u htype => ?_
  split
  · rename_i name
    rcases htype with hcustom | hstring | ⟨⟨_, _, harray⟩, -⟩
    · cases hcustom
    · exact absurd rfl ((hstring _ rfl).1 name)
    · cases harray
  · exact .fail
  · rename_i hcustom
    rcases htype with htype | hstring | ⟨-, hclose⟩
    · cases type with
      | custom name mods => exact absurd rfl (hcustom name mods)
      | _ => cases htype
    · exact (hstring _ rfl).2.bind fun _ _ h => h.elim
    · obtain ⟨_, _, _, rfl⟩ := hclose
      exact (literalString_symbol _).bind fun _ _ h => h.elim

/-- Reading a constant of a type takes nothing. -/
def Untyped (tokens : List Token) : Prop :=
  ∀ L : Level, Reads true (attempt (typedString L)) [] tokens (· = none)

/-- The first token begins no type. -/
theorem untyped_of_head (h : headIs (typeWords.contains <| spelled ·) s = false) : Untyped s := by
  intro L
  refine Tries.attempt ?_
  cases s with
  | nil =>
    rintro - ls hls
    obtain rfl := List.map_eq_nil_iff.1 hls
    exact .inl rfl
  | cons t s =>
    have hword : spelled t ∉ typeWords := by
      intro hmem
      exact absurd (List.contains_iff_mem.2 hmem) (Bool.eq_false_iff.1 h)
    refine typedString_tries (fun harray => hword (harray ▸ by simp [typeWords])) ?_
    rw [keywordType?_eq_none hword]
    exact .pure nofun

/-! Columns whose names are words for types. -/

/-- What may follow the first word of a column. -/
def FollowsName (tokens : List Token) : Prop :=
  Ends tokens ∨ headIs (isSymbol ".") tokens = true

theorem FollowsName.point {tokens : List Token} (h : headIs (isSymbol ".") tokens = true) :
    ∃ rest, tokens = .symbol "." :: rest := by
  cases tokens with
  | nil => cases h
  | cons t rest =>
    cases t with
    | symbol text => exact ⟨rest, by rw [← beq_iff_eq.1 h]⟩
    | _ => cases h

theorem FollowsName.parenthesis_ne (h : FollowsName s) : headIs (isSymbol "(") s = false := by
  rcases h with hends | hpoint
  · exact hends.symbol_ne rfl
  · obtain ⟨rest, rfl⟩ := FollowsName.point hpoint
    rfl

theorem FollowsName.keyword_ne (h : FollowsName s) {word : String} (hword : word ∉ followWords) :
    headIs (·.isKeyword word) s = false := by
  rcases h with hends | hpoint
  · exact hends.keyword_ne hword
  · obtain ⟨rest, rfl⟩ := FollowsName.point hpoint
    rfl

theorem followWords_subset : followWords ⊆ Surface.keywords :=
  (List.isSublist_iff_sublist.1 (by decide +kernel)).subset

theorem literalString_tries (h : FollowsName s) : Tries literalString s fun _ _ => False := by
  rcases h with hends | hpoint
  · refine next_tries.bind fun t u heq => ?_
    subst heq
    cases t with
    | word text quote =>
      cases quote with
      | some _ => cases hends
      | none =>
        have hmem : text ∈ followWords := List.contains_iff_mem.1 hends
        have hplain : (Token.word text none).isPlainWord = false := by
          rw [Token.isPlainWord, upper_of_mem_followWords text hmem,
            List.contains_iff_mem.2 (followWords_subset hmem)]
          rfl
        dsimp only
        rw [hplain]
        exact .fail
    | string | styled | number | placeholder | operator => cases hends
    | symbol => exact .fail
  · obtain ⟨_, rfl⟩ := FollowsName.point hpoint
    exact literalString_symbol "."

section Unsized

variable (hparenthesis : headIs (isSymbol "(") s = false)
include hparenthesis

theorem size?_none : Reads true size? [] s (· = none) :=
  Reads.ite_false (u := []) (symbol_miss hparenthesis) (.pure rfl)

theorem characterLength?_none : Reads true characterLength? [] s (· = none) :=
  Reads.ite_false (u := []) (symbol_miss hparenthesis) (.pure rfl)

theorem precisionScale?_none : Reads true precisionScale? [] s (· = none) :=
  Reads.ite_false (u := []) (symbol_miss hparenthesis) (.pure rfl)

/-- Readers for what must stand in parentheses. -/
theorem parenthesized_tries (p : Reader α) : Tries (parenthesized p) s fun _ _ => False := by
  refine (expectSymbol_tries "(").bind ?_
  rintro _ u rfl
  cases hparenthesis

end Unsized

/-- A type of one word, which takes none of the tokens behind it. -/
def TakesNone (s : List Token) (type : DataType) (u : List Token) : Prop :=
  u = s ∧ ∀ name, type ≠ .plain "INTERVAL" name

theorem forall_mem_some {type : DataType} {u : List Token} (h : TakesNone s type u) :
    ∀ found ∈ some type, TakesNone s found u := by
  rintro _ ⟨⟩
  exact h

theorem characterType_tries (h : FollowsName s) (word name : String) :
    Tries (characterType word name) s (TakesNone s) := by
  refine .ite_false (keyword_miss (h.keyword_ne (by decide))) ?_
  refine .ite_false (keywords_miss (h.keyword_ne (by decide))) ?_
  refine .look (characterLength?_none h.parenthesis_ne) fun _ _ => .pure (⟨rfl, nofun⟩)

theorem timeType_tries (h : FollowsName s) (word name : String) :
    Tries (timeType word name) s (TakesNone s) := by
  refine .look (size?_none h.parenthesis_ne) fun _ _ => ?_
  have hzone : Reads true (oneOf? ["WITH", "WITHOUT"]) [] s (· = none) := by
    refine oneOf?_miss fun w hw => h.keyword_ne ?_
    revert w
    decide
  refine .look hzone ?_
  rintro _ rfl
  exact .pure (⟨rfl, nofun⟩)

theorem lookup_mem {γ : Type} {table : List (String × γ)} {word : String} {c : γ}
    (h : table.lookup word = some c) : (word, c) ∈ table := by
  rw [List.lookup_eq_some_iff] at h
  obtain ⟨before, behind, rfl, -⟩ := h
  simp

theorem keywordType?_tries {word : String} (hword : word ≠ "INTERVAL") (h : FollowsName s) :
    Tries (keywordType? word) s fun found u => ∀ type ∈ found, TakesNone s type u := by
  have hparenthesis := h.parenthesis_ne
  have hsized :
      ∀ {γ : Type} {p : Reader γ} {form : γ → DataType}, Reads true p [] s (fun _ => True) →
      (∀ c name, form c ≠ .plain "INTERVAL" name) → Tries (do return some (form (← p))) s
        fun found u => ∀ type ∈ found, TakesNone s type u := fun hp hform =>
    .look hp fun c _ => .pure (forall_mem_some ⟨rfl, hform c⟩)
  have hsize : Reads true size? [] s fun _ => True :=
    (size?_none hparenthesis).mono fun _ _ => trivial
  have hlength : Reads true characterLength? [] s fun _ => True :=
    (characterLength?_none hparenthesis).mono fun _ _ => trivial
  have hscale : Reads true precisionScale? [] s fun _ => True :=
    (precisionScale?_none hparenthesis).mono fun _ _ => trivial
  have hnone : ∀ {word}, word ∉ followWords → Reads true (keyword word) [] s (· = false) :=
    fun hword => keyword_miss (h.keyword_ne hword)
  have henumeration : ∀ bits, Tries (do return some (← enumeration bits)) s
      fun found u => ∀ type ∈ found, TakesNone s type u := fun bits =>
    ((parenthesized_tries hparenthesis _).bind fun _ _ h => h.elim).bind fun _ _ htype =>
      .pure (forall_mem_some htype)
  unfold keywordType?
  split
  · rename_i shown name _ _ _ hlookup
    have hplain : ∀ entry ∈ plainTypes, entry.2.1 = "INTERVAL" → entry.1 = "INTERVAL" := by decide
    refine .pure (forall_mem_some ⟨rfl, fun other heq => hword ?_⟩)
    cases heq
    exact hplain _ (lookup_mem hlookup) rfl
  · exact hsized hsize nofun
  · exact .look hsize
      fun _ _ => .ite_false (hnone (by decide)) (.pure (forall_mem_some ⟨rfl, nofun⟩))
  · exact hsized hscale nofun
  · split
    · refine .ite_false (hnone (by decide)) (.pure (forall_mem_some ⟨rfl, fun name heq => ?_⟩))
      rw [DataType.plain.injEq] at heq
      exact absurd heq.1 (by decide)
    · exact hsized hlength nofun
    · exact hsized hlength nofun
    · exact (characterType_tries h _ _).bind fun _ _ htype => .pure (forall_mem_some htype)
    · exact (characterType_tries h _ _).bind fun _ _ htype => .pure (forall_mem_some htype)
    · exact .ite_false (hnone (by decide)) (hsized hsize nofun)
    · exact (timeType_tries h _ _).bind fun _ _ htype => .pure (forall_mem_some htype)
    · exact (timeType_tries h _ _).bind fun _ _ htype => .pure (forall_mem_some htype)
    · exact hsized hsize nofun
    · exact hsized hsize nofun
    · exact (parenthesized_tries hparenthesis _).bind fun _ _ h => h.elim
    · exact (parenthesized_tries hparenthesis _).bind fun _ _ h => h.elim
    · exact henumeration none
    · exact henumeration (some 8)
    · exact henumeration (some 16)
    · exact (parenthesized_tries hparenthesis _).bind fun _ _ h => h.elim
    · exact .pure nofun

/-- A word for a type may name a column. -/
theorem untyped_name {name : String} (hname : Text.upper name ∉ ["ARRAY", "INTERVAL"])
    (hmore : FollowsName more) : Untyped (.word name none :: more) := by
  simp only [List.mem_cons, List.not_mem_nil, or_false, not_or] at hname
  intro L
  refine Tries.attempt (typedString_tries hname.1 ?_)
  refine (keywordType?_tries hname.2 hmore).mono fun found u hfound type htype => ?_
  obtain ⟨rfl, hproper⟩ := hfound type htype
  exact ⟨hproper, literalString_tries hmore⟩

/-- A word for a type that takes no arguments may name a function. -/
theorem untyped_plain {word : String} (hplain : word ∈ plainTypes.map (·.1))
    (hword : word ≠ "INTERVAL")
    {t : Token} (ht : spelled t = word) : Untyped (t :: .symbol "(" :: more) := by
  have hwords : ∀ entry ∈ plainTypes, entry.1 ≠ "ARRAY" ∧
      plainTypes.lookup entry.1 = some entry.2 ∧
      (entry.1 ≠ "INTERVAL" → entry.2.1 ≠ "INTERVAL") := by
    decide
  obtain ⟨⟨word, shown, label⟩, hentry, rfl⟩ := List.mem_map.1 hplain
  obtain ⟨harray, hlookup, hshown⟩ := hwords _ hentry
  intro L
  refine Tries.attempt (typedString_tries (ht ▸ harray) ?_)
  rw [ht]
  unfold keywordType?
  rw [hlookup]
  refine .pure ?_
  rintro _ ⟨⟩
  refine ⟨?_, literalString_symbol "("⟩
  rintro name ⟨⟩
  exact hshown hword rfl

/-- The length of a type is one number. -/
theorem size?_tries : Tries size? (.symbol "(" :: more) fun _ u =>
    ∃ digits long, more = .number digits long :: .symbol ")" :: u := by
  refine (Tries.of_reads (symbol_hit "(")).bind ?_
  rintro _ _ ⟨rfl, rfl⟩
  refine natural_tries.bind ?_
  rintro _ u ⟨digits, long, rfl⟩
  refine (expectSymbol_tries ")").bind ?_
  rintro _ v rfl
  exact .pure ⟨digits, long, rfl⟩

theorem untyped_call {name : String} (hname : Text.upper name = "DATETIME")
    (hmore : ∀ digits long u, more = .number digits long :: .symbol ")" :: u → Ends u) :
    Untyped (.word name none :: .symbol "(" :: more) := by
  have hspelled : spelled (.word name none) = "DATETIME" := hname
  intro L
  refine Tries.attempt (typedString_tries (by rw [hspelled]; decide) ?_)
  rw [hspelled]
  refine size?_tries.bind ?_
  rintro size u ⟨digits, long, heq⟩
  refine .pure ?_
  rintro _ ⟨⟩
  exact ⟨nofun, literalString_tries (.inl (hmore digits long u heq))⟩

end LogicalSql.Surface.Reader
