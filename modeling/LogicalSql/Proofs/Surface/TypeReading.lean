import LogicalSql.Proofs.Surface.Calls

/-! Types are read as they are shown, up to the parenthesis behind them. -/
namespace LogicalSql.Surface.Reader

open Token (commas)

variable {rest more : List Token} {type : DataType} {word label : String}

/-! Lengths. -/

theorem next_reads (t : Token) : Reads true next [t] rest (· = t) := by
  refine .cons (q := fun l => Pure.pure t) ?_ fun l _ => .pure rfl
  rintro l ls rfl
  rfl

theorem literalString_reads (text : String) :
    Reads true literalString [.string text] rest (· = text) := by
  refine (next_reads (.string text)).step (u := []) ?_
  rintro _ rfl
  exact .pure rfl

/-- What is returned behind a closing parenthesis. -/
theorem closed_reads {α : Type} (a : α) :
    Reads true (do
      expectSymbol ")"
      return a) [.symbol ")"] rest (· = a) :=
  (expectSymbol_reads ")").step (u := []) fun _ _ => .pure rfl

theorem natural_reads {n : Nat} (h : isLength n = true) :
    Reads true natural [naturalToken n] rest (· = n) := by
  refine (next_reads (naturalToken n)).step (u := []) ?_
  rintro _ rfl
  dsimp only [naturalToken]
  rw [Text.readNat?_toString]
  dsimp only
  rw [if_pos (of_decide_eq_true h)]
  exact .pure rfl

theorem size?_reads {size : Option Nat} (h : size.all isLength = true)
    (hrest : headIs (isSymbol "(") rest = false) :
    Reads true size? (lengthTokens size) rest (· = size) := by
  cases size with
  | none => exact Reads.ite_false (u := []) (symbol_miss hrest) (.pure rfl)
  | some n =>
    refine Reads.ite_true (u := [naturalToken n, .symbol ")"]) (symbol_hit "(") ?_
    refine (natural_reads h).step (u := [.symbol ")"]) ?_
    rintro _ rfl
    exact closed_reads _

theorem characterLength?_reads {length : Option CharacterLength}
    (h : length.all CharacterLength.legible = true)
    (hrest : headIs (isSymbol "(") rest = false) :
    Reads true characterLength? (charactersTokens length) rest (· = length) := by
  cases length with
  | none => exact Reads.ite_false (u := []) (symbol_miss hrest) (.pure rfl)
  | some length =>
    refine Reads.ite_true (u := length.tokens ++ [.symbol ")"]) (symbol_hit "(") ?_
    cases length with
    | max =>
      refine Reads.ite_true (u := [.symbol ")"]) (keyword_hit "MAX" rfl) ?_
      rw [pure_bind]
      exact closed_reads _
    | count n unit =>
      rw [Option.all_some, CharacterLength.legible, Bool.and_eq_true] at h
      refine Reads.ite_false (keyword_miss rfl) ?_
      refine (natural_reads h.1).step ?_
      rintro _ rfl
      cases unit with
      | none =>
        refine (oneOf?_miss fun _ _ => rfl).look (u := [.symbol ")"]) ?_
        rintro _ rfl
        rw [pure_bind]
        exact closed_reads _
      | some unit =>
        have hupper : ∀ w ∈ ["CHARACTERS", "OCTETS"], Text.upper w = w := by decide
        have hunit := hupper unit (List.contains_iff_mem.1 h.2)
        refine (oneOf?_hit h.2 hunit).step (u := [.symbol ")"]) ?_
        rintro _ rfl
        rw [pure_bind]
        exact closed_reads _

theorem precisionScale?_reads {places : Option (Nat × Option Nat)}
    (h : (places.all fun (precision, scale) => isLength precision && scale.all isLength) = true)
    (hrest : headIs (isSymbol "(") rest = false) :
    Reads true precisionScale? (placesTokens places) rest (· = places) := by
  cases places with
  | none => exact Reads.ite_false (u := []) (symbol_miss hrest) (.pure rfl)
  | some places =>
    obtain ⟨precision, scale⟩ := places
    rw [Option.all_some, Bool.and_eq_true] at h
    cases scale with
    | none =>
      refine Reads.ite_true (u := [naturalToken precision, .symbol ")"]) (symbol_hit "(") ?_
      refine (natural_reads h.1).step (u := [.symbol ")"]) ?_
      rintro _ rfl
      refine (option_none (symbol_miss rfl)).look (u := [.symbol ")"]) ?_
      rintro _ rfl
      exact closed_reads _
    | some scale =>
      refine Reads.ite_true (u := naturalToken precision :: .symbol "," ::
        [naturalToken scale, .symbol ")"]) (symbol_hit "(") ?_
      refine (natural_reads h.1).step (u := .symbol "," :: [naturalToken scale, .symbol ")"]) ?_
      rintro _ rfl
      have hscale : Reads true (option (symbol ",") natural) [.symbol ",", naturalToken scale]
          (.symbol ")" :: rest) _ := option_some (symbol_hit ",") (natural_reads h.2)
      refine hscale.step (u := [.symbol ")"]) ?_
      rintro _ ⟨_, rfl, rfl⟩
      exact closed_reads _

/-! The tables of types, by the words that are shown. -/

theorem plainTypes_shown : ∀ entry ∈ plainTypes, wordsOf entry.2.1 = [entry.2.1] ∧
    Text.upper entry.2.1 ≠ "ARRAY" ∧ plainTypes.lookup (Text.upper entry.2.1) = some entry.2 := by
  decide +kernel

theorem lengthTypes_shown : ∀ entry ∈ lengthTypes, wordsOf entry.1 = [entry.1] ∧
    Text.upper entry.1 = entry.1 ∧ entry.1 ≠ "ARRAY" ∧ plainTypes.lookup entry.1 = none ∧
    lengthTypes.lookup entry.1 = some entry.2 := by
  decide +kernel

theorem integerTypes_shown : ∀ entry ∈ integerTypes, wordsOf entry.1 = [entry.1] ∧
    Text.upper entry.1 = entry.1 ∧ entry.1 ≠ "ARRAY" ∧ plainTypes.lookup entry.1 = none ∧
    lengthTypes.lookup entry.1 = none ∧ integerTypes.lookup entry.1 = some entry.2 := by
  decide +kernel

theorem numericTypes_shown : ∀ entry ∈ numericTypes, wordsOf entry.1 = [entry.1] ∧
    Text.upper entry.1 = entry.1 ∧ entry.1 ≠ "ARRAY" ∧ plainTypes.lookup entry.1 = none ∧
    lengthTypes.lookup entry.1 = none ∧ integerTypes.lookup entry.1 = none ∧
    numericTypes.lookup entry.1 = some entry.2 := by
  decide +kernel

/-! Types that a keyword begins. -/

/-- The type is shown as this text. -/
def IsShown (text : String) (found : Option DataType) : Prop :=
  ∃ type, found = some type ∧ type.show = text

theorem Reads.shown {p : Reader DataType} {tokens : List Token} {text : String}
    (h : Reads true p tokens rest fun type => type.show = text) :
    Reads true (do return some (← p)) tokens rest (IsShown text) :=
  h.map fun type hshow => ⟨type, rfl, hshow⟩

/-- The first word of the type, behind which the reader goes on with the tokens `more`. -/
structure Heads (type : DataType) (word : String) (more : List Token) : Prop where
  tokens : type.tokens = .keyword word :: more
  array_ne : Text.upper word ≠ "ARRAY"
  reads : ∀ {rest}, TypeEnds rest →
    Reads true (keywordType? (Text.upper word)) more rest (IsShown type.show)

theorem wordTokens_eq {text : String} (words : List String) (h : wordsOf text = words) :
    wordTokens text = words.map .keyword := by
  rw [wordTokens, h]

theorem heads_plain {shown : String} (h : plainShown.contains shown = true) :
    ∃ word more, Heads (.plain shown label) word more := by
  have hmem := List.contains_iff_mem.1 h
  rw [plainShown, List.mem_append] at hmem
  rcases hmem with htable | hdouble
  · obtain ⟨⟨key, shown, label⟩, hentry, rfl⟩ := List.mem_map.1 htable
    obtain ⟨hwords, harray, hlookup⟩ := plainTypes_shown _ hentry
    refine ⟨shown, [], ?_, harray, fun _ => ?_⟩
    · rw [DataType.tokens, wordTokens_eq _ hwords, List.map_singleton]
    · unfold keywordType?
      rw [hlookup]
      exact .pure ⟨_, rfl, rfl⟩
  · rw [List.mem_cons, List.mem_singleton] at hdouble
    rcases hdouble with rfl | rfl
    · refine ⟨"DOUBLE", [], wordTokens_eq ["DOUBLE"] (by decide +kernel), by decide,
        fun hends => ?_⟩
      exact Reads.ite_false (u := []) (keyword_miss (hends.keyword_ne _)) (.pure ⟨_, rfl, rfl⟩)
    · refine ⟨"DOUBLE", [.keyword "PRECISION"],
        wordTokens_eq ["DOUBLE", "PRECISION"] (by decide +kernel), by decide, fun _ => ?_⟩
      exact Reads.ite_true (u := []) (keyword_hit "PRECISION" rfl) (.pure ⟨_, rfl, rfl⟩)

/-- What may stand behind the words of a type. -/
def IsArguments (tokens : List Token) : Prop := tokens = [] ∨ ∃ more, tokens = .symbol "(" :: more

theorem lengthTokens_opens (size : Option Nat) : IsArguments (lengthTokens size) := by
  cases size with
  | none => exact .inl rfl
  | some n => exact .inr ⟨_, rfl⟩

theorem charactersTokens_opens (length : Option CharacterLength) :
    IsArguments (charactersTokens length) := by
  cases length with
  | none => exact .inl rfl
  | some length => exact .inr ⟨_, rfl⟩

theorem arguments_keyword_ne (hends : TypeEnds rest) (h : IsArguments more) (word : String) :
    headIs (·.isKeyword word) (more ++ rest) = false := by
  rcases h with rfl | ⟨_, rfl⟩
  · exact hends.keyword_ne word
  · rfl

theorem sized_reads {size : Option Nat} (h : size.all isLength = true) (hends : TypeEnds rest) :
    Reads true (do return some (.sized word label (← size?))) (lengthTokens size) rest
      (IsShown (word ++ showSize size)) := by
  refine Reads.map (size?_reads h (hends.symbol_ne (by decide))) ?_
  rintro _ rfl
  exact ⟨_, rfl, rfl⟩

theorem heads_integer {size : Option Nat} (h : integerShown.contains word = true)
    (hsize : size.all isLength = true) :
    Heads (.sized word label size) word (lengthTokens size) ∧
      Heads (.unsigned word label size) word (lengthTokens size ++ [.keyword "UNSIGNED"]) := by
  obtain ⟨⟨key, name⟩, hentry, rfl⟩ := List.mem_map.1 (List.contains_iff_mem.1 h)
  obtain ⟨hwords, hupper, harray, hplain, hlength, hlookup⟩ := integerTypes_shown _ hentry
  have hword := wordTokens_eq _ hwords
  dsimp only at hupper hplain hlength hlookup
  have hne : Text.upper key ≠ "ARRAY" := by rwa [hupper]
  refine ⟨⟨?_, hne, fun hends => ?_⟩, ?_, hne, fun hends => ?_⟩
  · rw [DataType.tokens, hword]
    rfl
  · unfold keywordType?
    rw [hupper, hplain, hlength, hlookup]
    refine (size?_reads hsize (hends.symbol_ne (by decide))).andLook ?_
    rintro _ rfl
    exact Reads.ite_false (u := []) (keyword_miss (hends.keyword_ne _)) (.pure ⟨_, rfl, rfl⟩)
  · rw [DataType.tokens, hword]
    rfl
  · unfold keywordType?
    rw [hupper, hplain, hlength, hlookup]
    refine (size?_reads hsize rfl).step ?_
    rintro _ rfl
    exact Reads.ite_true (u := []) (keyword_hit "UNSIGNED" rfl) (.pure ⟨_, rfl, rfl⟩)

theorem heads_length {size : Option Nat} (h : word ∈ lengthTypes.map (·.1))
    (hsize : size.all isLength = true) :
    Heads (.sized word label size) word (lengthTokens size) := by
  obtain ⟨⟨key, name⟩, hentry, rfl⟩ := List.mem_map.1 h
  obtain ⟨hwords, hupper, harray, hplain, hlookup⟩ := lengthTypes_shown _ hentry
  dsimp only at hupper hplain hlookup
  refine ⟨?_, by rwa [hupper], fun hends => ?_⟩
  · rw [DataType.tokens, wordTokens_eq _ hwords]
    rfl
  · unfold keywordType?
    rw [hupper, hplain, hlookup]
    exact sized_reads hsize hends

/-- Large objects of characters. -/
theorem largeObject_reads {size : Option Nat} (h : size.all isLength = true)
    (hends : TypeEnds rest) :
    Reads true (do return some (← characterType word label))
      (.keyword "LARGE" :: .keyword "OBJECT" :: lengthTokens size) rest
      (IsShown (word ++ " LARGE OBJECT" ++ showSize size)) := by
  refine .shown (Reads.ite_false (keyword_miss rfl) ?_)
  refine Reads.ite_true (u := lengthTokens size) (keywords_hit ["LARGE", "OBJECT"] (by decide)) ?_
  refine Reads.map (size?_reads h (hends.symbol_ne (by decide))) ?_
  rintro _ rfl
  rfl

theorem heads_sized {shown : String} {size : Option Nat} (h : sizedShown.contains shown = true)
    (hsize : size.all isLength = true) :
    ∃ word more, Heads (.sized shown label size) word more := by
  have hmem := List.contains_iff_mem.1 h
  rw [sizedShown, List.mem_append, List.mem_append] at hmem
  rcases hmem with (hlength | hinteger) | hother
  · exact ⟨shown, _, heads_length hlength hsize⟩
  · exact ⟨shown, _, (heads_integer (List.contains_iff_mem.2 hinteger) hsize).1⟩
  · simp only [List.mem_cons, List.not_mem_nil, or_false] at hother
    have htokens : ∀ words : List String, wordsOf shown = words →
        (DataType.sized shown label size).tokens = words.map .keyword ++ lengthTokens size := by
      intro words hwords
      rw [DataType.tokens, wordTokens_eq _ hwords]
    rcases hother with rfl | rfl | rfl | rfl
    · refine ⟨"BIT", _, htokens ["BIT"] (by decide +kernel), by decide, fun hends => ?_⟩
      have hmiss := arguments_keyword_ne hends (lengthTokens_opens size) "VARYING"
      exact Reads.ite_false (keyword_miss hmiss) (sized_reads hsize hends)
    · refine ⟨"BIT", _, htokens ["BIT", "VARYING"] (by decide +kernel), by decide, fun hends => ?_⟩
      exact Reads.ite_true (u := lengthTokens size) (keyword_hit "VARYING" rfl)
        (sized_reads hsize hends)
    · exact ⟨"CHAR", _, htokens ["CHAR", "LARGE", "OBJECT"] (by decide +kernel), by decide,
        largeObject_reads hsize⟩
    · exact ⟨"CHARACTER", _, htokens ["CHARACTER", "LARGE", "OBJECT"] (by decide +kernel),
        by decide, largeObject_reads hsize⟩

/-! Types of characters. -/

section Characters

variable {length : Option CharacterLength} (h : length.all CharacterLength.legible = true)
  (hends : TypeEnds rest)

include h hends

theorem characters_reads {name : String} :
    Reads true (do return some (.characters word name (← characterLength?)))
      (charactersTokens length) rest (IsShown (DataType.characters word label length).show) := by
  refine Reads.map (characterLength?_reads h (hends.symbol_ne (by decide))) ?_
  rintro length rfl
  refine ⟨_, rfl, ?_⟩
  cases length <;> rfl

theorem characterType_reads {name : String} :
    Reads true (do return some (← characterType word name)) (charactersTokens length) rest
      (IsShown (DataType.characters word label length).show) := by
  have hmiss := arguments_keyword_ne hends (charactersTokens_opens length)
  refine .shown (Reads.ite_false (keyword_miss (hmiss "VARYING")) ?_)
  refine Reads.ite_false (keywords_miss (hmiss "LARGE")) ?_
  refine Reads.map (characterLength?_reads h (hends.symbol_ne (by decide))) ?_
  rintro length rfl
  cases length <;> rfl

theorem varyingType_reads {name : String} :
    Reads true (do return some (← characterType word name))
      (.keyword "VARYING" :: charactersTokens length) rest
      (IsShown (DataType.characters (word ++ " VARYING") label length).show) := by
  refine .shown (Reads.ite_true (keyword_hit "VARYING" rfl) ?_)
  refine Reads.map (characterLength?_reads h (hends.symbol_ne (by decide))) ?_
  rintro length rfl
  cases length <;> rfl

end Characters

theorem heads_characters {shown : String} {length : Option CharacterLength}
    (h : charactersShown.contains shown = true)
    (hlength : length.all CharacterLength.legible = true) :
    ∃ word more, Heads (.characters shown label length) word more := by
  have hmem := List.contains_iff_mem.1 h
  have htokens : ∀ words : List String, wordsOf shown = words →
      (DataType.characters shown label length).tokens =
        words.map .keyword ++ charactersTokens length := by
    intro words hwords
    rw [DataType.tokens, wordTokens_eq _ hwords]
  simp only [charactersShown, List.mem_cons, List.not_mem_nil, or_false] at hmem
  rcases hmem with rfl | rfl | rfl | rfl | rfl | rfl
  · exact ⟨"VARCHAR", _, htokens ["VARCHAR"] (by decide +kernel), by decide,
      fun hends => characters_reads hlength hends⟩
  · exact ⟨"NVARCHAR", _, htokens ["NVARCHAR"] (by decide +kernel), by decide,
      fun hends => characters_reads hlength hends⟩
  · exact ⟨"CHAR", _, htokens ["CHAR"] (by decide +kernel), by decide,
      fun hends => characterType_reads hlength hends⟩
  · exact ⟨"CHARACTER", _, htokens ["CHARACTER"] (by decide +kernel), by decide,
      fun hends => characterType_reads hlength hends⟩
  · exact ⟨"CHAR", _, htokens ["CHAR", "VARYING"] (by decide +kernel), by decide,
      fun hends => varyingType_reads hlength hends⟩
  · exact ⟨"CHARACTER", _, htokens ["CHARACTER", "VARYING"] (by decide +kernel), by decide,
      fun hends => varyingType_reads hlength hends⟩

theorem heads_exact {places : Option (Nat × Option Nat)} (h : numericShown.contains word = true)
    (hplaces : (places.all fun (precision, scale) =>
      isLength precision && scale.all isLength) = true) :
    Heads (.exact word label places) word (placesTokens places) := by
  obtain ⟨⟨key, name⟩, hentry, rfl⟩ := List.mem_map.1 (List.contains_iff_mem.1 h)
  obtain ⟨hwords, hupper, harray, hplain, hlength, hinteger, hlookup⟩ := numericTypes_shown _ hentry
  dsimp only at hupper hplain hlength hinteger hlookup
  refine ⟨?_, by rwa [hupper], fun hends => ?_⟩
  · rw [DataType.tokens, wordTokens_eq _ hwords]
    rfl
  · unfold keywordType?
    rw [hupper, hplain, hlength, hinteger, hlookup]
    refine Reads.map (precisionScale?_reads hplaces (hends.symbol_ne (by decide))) ?_
    rintro places rfl
    refine ⟨_, rfl, ?_⟩
    rcases places with _ | ⟨_, _ | _⟩ <;> rfl

/-! Types of times. -/

theorem time_reads {precision : Option Nat} (h : precision.all isLength = true)
    (hends : TypeEnds rest) {name : String} :
    Reads true (do return some (← timeType word name)) (lengthTokens precision) rest
      (IsShown (DataType.time word label precision .unsaid).show) := by
  refine .shown ((size?_reads h (hends.symbol_ne (by decide))).andLook ?_)
  rintro _ rfl
  refine (oneOf?_miss fun w _ => hends.keyword_ne w).look (u := []) ?_
  rintro _ rfl
  exact .pure rfl

/-- The word in front of `TIME ZONE`, with what it says. -/
def zoneSigns : List (String × ZoneMark) := [("WITH", .aware), ("WITHOUT", .unaware)]

theorem signedTime_reads {precision : Option Nat} (h : precision.all isLength = true)
    {sign : String} {zone : ZoneMark} (hsign : (sign, zone) ∈ zoneSigns) {name : String} :
    Reads true (do return some (← timeType word name))
      (lengthTokens precision ++ [.keyword sign, .keyword "TIME", .keyword "ZONE"]) rest
      (IsShown (DataType.time word label precision zone).show) := by
  have hwords : ∀ entry ∈ zoneSigns, ["WITH", "WITHOUT"].contains entry.1 = true ∧
      Text.upper entry.1 = entry.1 ∧
      (if entry.1 = "WITH" then ZoneMark.aware else .unaware) = entry.2 := by
    decide
  obtain ⟨hmem, hupper, hzone⟩ := hwords _ hsign
  have htype : Reads true (timeType word name)
      (lengthTokens precision ++ [.keyword sign, .keyword "TIME", .keyword "ZONE"]) rest
      fun type => type = .time word name precision zone := by
    refine (size?_reads h rfl).step ?_
    rintro _ rfl
    refine (oneOf?_hit hmem hupper).step (u := [.keyword "TIME", .keyword "ZONE"]) ?_
    rintro _ rfl
    refine (expectKeywords_reads ["TIME", "ZONE"] (by decide)).andLook fun _ _ => .pure ?_
    exact congrArg _ hzone
  refine .shown (htype.mono ?_)
  rintro _ rfl
  cases zone <;> rfl

theorem shortTime_reads {precision : Option Nat} (h : precision.all isLength = true)
    (hends : TypeEnds rest) {name : String} :
    Reads true (do return some (.time word name (← size?) .short)) (lengthTokens precision) rest
      (IsShown (DataType.time word label precision .short).show) := by
  refine Reads.map (size?_reads h (hends.symbol_ne (by decide))) ?_
  rintro _ rfl
  exact ⟨_, rfl, rfl⟩

theorem heads_time {shown : String} {precision : Option Nat} {zone : ZoneMark}
    (h : timeShown.contains shown = true) (hprecision : precision.all isLength = true) :
    ∃ word more, Heads (.time shown label precision zone) word more := by
  have hmem := List.contains_iff_mem.1 h
  have hshown : ∀ shown ∈ timeShown, wordsOf shown = [shown] ∧
      wordsOf (shown ++ "TZ") = [shown ++ "TZ"] ∧ Text.upper shown ≠ "ARRAY" ∧
      Text.upper (shown ++ "TZ") ≠ "ARRAY" := by
    decide +kernel
  have hzones : wordsOf "WITH TIME ZONE" = ["WITH", "TIME", "ZONE"] ∧
      wordsOf "WITHOUT TIME ZONE" = ["WITHOUT", "TIME", "ZONE"] := by
    decide +kernel
  obtain ⟨hword, hshort, hne, hshortNe⟩ := hshown shown hmem
  rw [timeShown, List.mem_cons, List.mem_singleton] at hmem
  cases zone with
  | unsaid =>
    refine ⟨shown, lengthTokens precision, ?_, hne, fun hends => ?_⟩
    · rw [DataType.tokens, wordTokens_eq _ hword]
      rfl
    · rcases hmem with rfl | rfl
      · exact time_reads hprecision hends
      · exact time_reads hprecision hends
  | aware =>
    refine ⟨shown, lengthTokens precision ++ ["WITH", "TIME", "ZONE"].map .keyword, ?_, hne,
      fun _ => ?_⟩
    · rw [DataType.tokens, wordTokens_eq _ hword, wordTokens_eq _ hzones.1]
      rfl
    · rcases hmem with rfl | rfl
      · exact signedTime_reads hprecision (by decide)
      · exact signedTime_reads hprecision (by decide)
  | unaware =>
    refine ⟨shown, lengthTokens precision ++ ["WITHOUT", "TIME", "ZONE"].map .keyword, ?_, hne,
      fun _ => ?_⟩
    · rw [DataType.tokens, wordTokens_eq _ hword, wordTokens_eq _ hzones.2]
      rfl
    · rcases hmem with rfl | rfl
      · exact signedTime_reads hprecision (by decide)
      · exact signedTime_reads hprecision (by decide)
  | short =>
    refine ⟨shown ++ "TZ", lengthTokens precision, ?_, hshortNe, fun hends => ?_⟩
    · rw [DataType.tokens, wordTokens_eq _ hshort]
      rfl
    · rcases hmem with rfl | rfl
      · exact shortTime_reads hprecision hends
      · exact shortTime_reads hprecision hends

theorem zonedTime_reads {precision : Nat} {zone : Option String} (h : isLength precision = true)
    (hzone : Reads true (option (symbol ",") literalString) more (.symbol ")" :: rest) (· = zone)) :
    Reads true (do return some (← zonedTime))
      (.symbol "(" :: (naturalToken precision :: more ++ [.symbol ")"])) rest
      (IsShown (DataType.zonedTime precision zone).show) := by
  have hinner : Reads true (do
      let precision ← natural
      return DataType.zonedTime precision (← option (symbol ",") literalString))
      (naturalToken precision :: more) (.symbol ")" :: rest) (· = .zonedTime precision zone) := by
    refine (natural_reads h).step ?_
    rintro _ rfl
    refine hzone.map ?_
    rintro _ rfl
    rfl
  refine (parenthesized_reads hinner).map ?_
  rintro _ rfl
  exact ⟨_, rfl, rfl⟩

theorem heads_zonedTime {precision : Nat} {zone : Option String} (h : isLength precision = true) :
    ∃ word more, Heads (.zonedTime precision zone) word more := by
  cases zone with
  | none =>
    refine ⟨"DateTime64", _, rfl, by decide, fun {rest} _ => ?_⟩
    have hnone :
        Reads true (option (symbol ",") literalString) [] (.symbol ")" :: rest) (· = none) :=
      option_none (symbol_miss rfl)
    exact zonedTime_reads h hnone
  | some zone =>
    refine ⟨"DateTime64", _, rfl, by decide, fun {rest} _ => ?_⟩
    have hsome : Reads true (option (symbol ",") literalString) [.symbol ",", .string zone]
        (.symbol ")" :: rest) (· = some zone) := by
      refine (option_some (symbol_hit ",") (literalString_reads zone)).mono ?_
      rintro _ ⟨_, rfl, rfl⟩
      rfl
    exact zonedTime_reads h hsome

theorem heads_fixedString {length : Nat} (h : isLength length = true) :
    ∃ word more, Heads (.fixedString length) word more := by
  refine ⟨"FixedString", _, rfl, by decide, fun _ => ?_⟩
  refine (parenthesized_reads (natural_reads h)).map ?_
  rintro _ rfl
  exact ⟨_, rfl, rfl⟩

/-! Enumerations and sets. -/

theorem forall₂_eq {α : Type} {xs ys : List α} (h : List.Forall₂ Eq xs ys) : ys = xs := by
  rw [List.forall₂_eq_eq_eq] at h
  exact h.symm

theorem setMember_reads (text : String) : Reads true setMember [.string text] rest (text = ·) := by
  refine (next_reads (.string text)).step (u := []) ?_
  rintro _ rfl
  exact .pure rfl

theorem heads_set {values : List String} (hne : values ≠ []) :
    ∃ word more, Heads (.set values) word more := by
  refine ⟨"SET", _, rfl, by decide, fun {rest} _ => ?_⟩
  have hvalues : Reads true (commaSeparated setMember) (commas (values.map fun v => [.string v]))
      (.symbol ")" :: rest) (List.Forall₂ Eq values) :=
    list_reads hne (fun v _ _ _ => setMember_reads v) rfl
  refine (parenthesized_reads hvalues).map fun found hfound => ?_
  rw [forall₂_eq hfound]
  exact ⟨_, rfl, rfl⟩

theorem numberValue_reads (digits : String) :
    Reads true numberValue [.number digits false] rest (· = .number digits false) := by
  have hconstant : Reads true constant [.number digits false] rest (· = .number digits false) := by
    refine (next_reads (.number digits false)).step (u := []) ?_
    rintro _ rfl
    exact .pure rfl
  refine hconstant.step (u := []) ?_
  rintro _ rfl
  exact .pure rfl

theorem enumMember_named {name digits : String} {sign : Option UnaryOp} (h : sign ≠ some .not) :
    Reads true enumMember
      (.string name :: .symbol "=" ::
        ((sign.map fun op => .symbol op.sql).toList ++ [.number digits false])) rest
      (⟨name, some (sign, .number digits false)⟩ = ·) := by
  have hnumber : ∀ sign : Option UnaryOp, Reads true (do
      let sign ← Pure.pure sign
      return (⟨name, some (sign, ← numberValue)⟩ : EnumMember))
      [.number digits false] rest (⟨name, some (sign, .number digits false)⟩ = ·) := by
    intro sign
    rw [pure_bind]
    refine (numberValue_reads digits).map ?_
    rintro _ rfl
    rfl
  refine (literalString_reads name).step (u := .symbol "=" :: _) ?_
  rintro _ rfl
  refine Reads.ite_true (symbol_hit "=") ?_
  match sign with
  | none =>
    refine Reads.ite_false (u := [.number digits false]) (symbol_miss rfl) ?_
    exact Reads.ite_false (u := [.number digits false]) (symbol_miss rfl) (hnumber none)
  | some .plus => exact Reads.ite_true (symbol_hit "+") (hnumber (some .plus))
  | some .minus =>
    refine Reads.ite_false (u := .symbol "-" :: [.number digits false]) (symbol_miss rfl) ?_
    exact Reads.ite_true (symbol_hit "-") (hnumber (some .minus))
  | some .not => exact absurd rfl h

theorem enumMember_reads {m : EnumMember} (h : m.legible = true)
    (hrest : headIs (isSymbol "=") rest = false) :
    Reads true enumMember m.tokens rest (m = ·) := by
  obtain ⟨name, value⟩ := m
  rw [EnumMember.legible, Bool.and_eq_true] at h
  cases value with
  | none =>
    refine (literalString_reads name).step (u := []) ?_
    rintro _ rfl
    exact Reads.ite_false (u := []) (symbol_miss hrest) (.pure rfl)
  | some value =>
    obtain ⟨sign, constant⟩ := value
    cases constant with
    | number digits long =>
      simp only [Bool.and_eq_true, bne_iff_ne, Bool.not_eq_true'] at h
      obtain ⟨_, ⟨hsign, _⟩, rfl⟩ := h
      exact enumMember_named hsign
    | _ => cases h.2

theorem enumeration_reads {members : List EnumMember} (hne : members ≠ [])
    (h : ∀ m ∈ members, m.legible = true) (bits : Option Nat) :
    Reads true (do return some (← enumeration bits))
      (.symbol "(" :: (commas (members.map EnumMember.tokens) ++ [.symbol ")"])) rest
      (IsShown (DataType.enumeration members bits).show) := by
  have hmembers : Reads true (commaSeparated enumMember) (commas (members.map EnumMember.tokens))
      (.symbol ")" :: rest) (List.Forall₂ Eq members) := by
    refine list_reads hne (fun m hm behind hbehind => enumMember_reads (h m hm) ?_) rfl
    rcases hbehind with rfl | hcomma
    · rfl
    · simp [headIs, hcomma, isSymbol]
  refine .shown ((parenthesized_reads hmembers).map fun found hfound => ?_)
  rw [forall₂_eq hfound]

theorem heads_enumeration {members : List EnumMember} (hne : members ≠ [])
    (h : ∀ m ∈ members, m.legible = true) {bits : Option Nat}
    (hbits : [none, some 8, some 16].contains bits = true) :
    ∃ word more, Heads (.enumeration members bits) word more := by
  have hmem := List.contains_iff_mem.1 hbits
  have hwords : ∀ bits ∈ [none, some 8, some 16], Text.upper (enumWord bits) ≠ "ARRAY" := by decide
  refine ⟨enumWord bits, _, rfl, hwords bits hmem, fun _ => ?_⟩
  simp only [List.mem_cons, List.not_mem_nil, or_false] at hmem
  rcases hmem with rfl | rfl | rfl
  · exact enumeration_reads hne h none
  · exact enumeration_reads hne h (some 8)
  · exact enumeration_reads hne h (some 16)

/-! Arrays. -/

/-- The brackets of an array. -/
def arrayTokens (size : Option Nat) : List Token :=
  .symbol "[" :: ((size.map naturalToken).toList ++ [.symbol "]"])

theorem arraySize?_reads {size : Option Nat} (h : size.all isLength = true) :
    Reads true arraySize? (arrayTokens size) rest fun found => ∃ n, found = some n ∧ size = n := by
  have hsize : Reads true (attempt natural) (size.map naturalToken).toList (.symbol "]" :: rest)
      (· = size) := by
    cases size with
    | none =>
      refine (natural_tries.mono ?_).attempt
      rintro _ _ ⟨_, _, hnumber⟩
      cases hnumber
    | some n =>
      refine (attempt_reads (natural_reads h)).mono ?_
      rintro _ ⟨_, rfl, rfl⟩
      rfl
  refine Reads.ite_true (symbol_hit "[") (hsize.step (u := [.symbol "]"]) ?_)
  rintro _ rfl
  exact (expectSymbol_reads "]").step (u := []) fun _ _ => .pure ⟨_, rfl, rfl⟩

theorem arraySizes_reads {sizes : List (Option Nat)} (h : ∀ size ∈ sizes, size.all isLength = true)
    (hrest : headIs (isSymbol "[") rest = false) :
    Reads true arraySizes (sizes.flatMap arrayTokens) rest (· = sizes) := by
  have hread : Reads true arraySizes (sizes.flatMap arrayTokens) rest (List.Forall₂ Eq sizes) := by
    refine many_reads (fun size _ => List.cons_ne_nil _ _) (fun pre size post heq => ?_)
      (arraySize?_none hrest)
    exact arraySize?_reads (h size (heq ▸ List.mem_append_right pre List.mem_cons_self))
  exact hread.mono fun _ => forall₂_eq

/-- What is shown of an array goes by what is shown of its elements. -/
theorem show_foldl_array {type type' : DataType} (h : type'.show = type.show)
    (sizes : List (Option Nat)) :
    (sizes.foldl DataType.array type').show = (sizes.foldl DataType.array type).show := by
  induction sizes generalizing type type' with
  | nil => exact h
  | cons size sizes ih => exact ih (by rw [DataType.show, DataType.show, h])

/-- Marks that close the place of a type. -/
def typeMarks : List String := [")", ">"]

theorem typeEnds_sizes {mark : String} (hmark : mark ∈ typeMarks) (sizes : List (Option Nat)) :
    TypeEnds (sizes.flatMap arrayTokens ++ .symbol mark :: rest) := by
  cases sizes with
  | nil => exact ⟨mark, List.mem_cons_of_mem _ hmark, _, rfl⟩
  | cons size sizes => exact ⟨"[", by decide, _, rfl⟩

/-! Types of other names. -/

theorem modifier_reads {m : String} {ms : List String} {n : Nat}
    (h : Reads true (typeModifiers n) more rest (· = ms)) :
    Reads true (typeModifiers (n + 1)) (modifierToken m :: more) rest (· = m :: ms) := by
  have hmodifiers : Reads true (do return m :: (← typeModifiers n)) more rest (· = m :: ms) := by
    refine h.map ?_
    rintro _ rfl
    rfl
  rw [modifierToken]
  split
  · refine (next_reads (.word m none)).step ?_
    rintro _ rfl
    exact hmodifiers
  · refine (next_reads (.number m false)).step ?_
    rintro _ rfl
    exact hmodifiers

/-- A modifier takes two steps of the reader, one of them for the symbol behind it. -/
theorem typeModifiers_reads {m : String} {ms : List String} {n : Nat} (hn : 2 * ms.length + 2 ≤ n) :
    Reads true (typeModifiers n)
      (commas ((m :: ms).map fun m => [modifierToken m]) ++ [.symbol ")"]) rest
      (· = m :: ms) := by
  obtain ⟨k, rfl⟩ : ∃ k, n = k + 2 := ⟨n - 2, by omega⟩
  induction ms generalizing m k with
  | nil =>
    refine modifier_reads ((next_reads (.symbol ")")).step (u := []) ?_)
    rintro _ rfl
    exact .pure rfl
  | cons m' ms ih =>
    rw [List.length_cons] at hn
    obtain ⟨k, rfl⟩ : ∃ j, k = j + 2 := ⟨k - 2, by omega⟩
    have hcommas : commas ((m :: m' :: ms).map fun m => [modifierToken m]) ++ [.symbol ")"] =
        modifierToken m :: .symbol "," ::
          (commas ((m' :: ms).map fun m => [modifierToken m]) ++ [.symbol ")"]) := by
      simp [commas]
    rw [hcommas]
    refine modifier_reads ((next_reads (.symbol ",")).step ?_)
    rintro _ rfl
    exact ih k (by omega)

theorem length_modifiers (m : String) (ms : List String) :
    (commas ((m :: ms).map fun m => [modifierToken m])).length = 2 * ms.length + 1 := by
  induction ms generalizing m with
  | nil => rfl
  | cons m' ms ih =>
    have htail := ih m'
    rw [commas, List.map_cons] at htail ⊢
    rw [List.map_cons, List.intercalate_cons_cons, List.length_append, htail]
    simp only [List.length_append, List.length_cons, List.length_nil]
    omega

theorem customType_reads {i : Ident} {is : List Ident} (modifiers : List String)
    (hends : TypeEnds rest) :
    Reads true customType (DataType.custom (i :: is) modifiers).tokens rest
      fun type => type.show = (DataType.custom (i :: is) modifiers).show := by
  cases modifiers with
  | nil =>
    refine (objectName_reads i is (hends.symbol_ne (by decide))).andLook fun name hname => ?_
    refine Reads.ite_false (u := []) (symbol_miss (hends.symbol_ne (by decide))) (.pure ?_)
    exact showName_congr hname
  | cons m ms =>
    refine (objectName_reads i is rfl).step fun name hname => ?_
    refine Reads.ite_true (u := commas ((m :: ms).map fun m => [modifierToken m]) ++ [.symbol ")"])
      (symbol_hit "(") (Reads.get fun ls hls => ?_)
    have hlength : 2 * ms.length + 2 ≤ ls.length + 1 := by
      have htokens := congrArg List.length hls
      rw [List.length_map, List.length_append, List.length_append, length_modifiers] at htokens
      omega
    refine (typeModifiers_reads hlength).map ?_
    rintro _ rfl
    exact congrArg (fun text => text ++ "(" ++ commaList (m :: ms) ++ ")") (showName_congr hname)

/-! Types with their sizes. -/

theorem sizes_nil : ∀ size ∈ ([] : List (Option Nat)), size.all isLength = true := nofun

section Sizes

variable {mark : String} (hmark : mark ∈ typeMarks) {sizes : List (Option Nat)}
  (hsizes : ∀ size ∈ sizes, size.all isLength = true)

include hmark hsizes

omit hsizes in
theorem bracket_ne : headIs (isSymbol "[") (.symbol mark :: rest) = false := by
  have hmarks : ∀ mark ∈ typeMarks, ("[" == mark) = false := by decide
  exact hmarks mark hmark

theorem sizes_reads {found : DataType} (h : found.show = type.show) :
    Reads true (do
      let sizes ← arraySizes
      return (⟨sizes.foldl DataType.array found, false⟩ : ClosedType))
      (sizes.flatMap arrayTokens) (.symbol mark :: rest)
      fun c => c.closed = false ∧ c.type.show = (sizes.foldl DataType.array type).show := by
  refine (arraySizes_reads hsizes (bracket_ne hmark)).andLook ?_
  rintro _ rfl
  exact .pure ⟨rfl, show_foldl_array h _⟩

theorem typeWith_heads (h : ∃ word more, Heads type word more) (inner : Reader ClosedType) :
    Reads true (typeWith inner) (type.tokens ++ sizes.flatMap arrayTokens) (.symbol mark :: rest)
      fun c => c.closed = false ∧ c.type.show = (sizes.foldl DataType.array type).show := by
  obtain ⟨word, more, h⟩ := h
  rw [h.tokens]
  refine Reads.get fun ls _ => (next_reads (.word word none)).step ?_
  rintro _ rfl
  dsimp only [Token.keyword?, Option.getD_some]
  rw [if_neg h.array_ne]
  refine (h.reads (typeEnds_sizes hmark sizes)).step ?_
  rintro _ ⟨found, rfl, hfound⟩
  exact sizes_reads hmark hsizes hfound

omit hmark hsizes in
theorem spelled_token_not_mem {i : Ident} {words : List String} (h : i.spells words = false)
    (hempty : "" ∉ words) : spelled i.token ∉ words := by
  rw [spelled]
  cases hword : i.token.keyword? with
  | none => exact hempty
  | some word =>
    intro hmem
    have hkeyword := Ident.token_isKeyword h hmem
    simp [Token.isKeyword, hword] at hkeyword

theorem typeWith_custom {i : Ident} {is : List Ident} {modifiers : List String}
    (hquote : (i.quote != some '\'') = true) (hwords : i.spells typeWords = false)
    (inner : Reader ClosedType) :
    Reads true (typeWith inner)
      ((DataType.custom (i :: is) modifiers).tokens ++ sizes.flatMap arrayTokens)
      (.symbol mark :: rest)
      fun c => c.closed = false ∧
        c.type.show = (sizes.foldl DataType.array (.custom (i :: is) modifiers)).show := by
  obtain ⟨more, htokens⟩ :
    ∃ more, (DataType.custom (i :: is) modifiers).tokens = i.token :: more := by
    cases modifiers with
    | nil => exact ⟨_, rfl⟩
    | cons m ms => exact ⟨_, rfl⟩
  have htoken : i.token = .word i.text i.quote := by
    rw [Ident.token, if_neg (bne_iff_ne.1 hquote)]
  have hword := spelled_token_not_mem hwords (by decide)
  have harray : spelled i.token ≠ "ARRAY" := fun heq => hword (heq ▸ by decide)
  rw [htoken, spelled] at hword harray
  refine Reads.of_bracketed fun hbrackets => Reads.get fun ls hls => ?_
  rw [htokens, List.cons_append, htoken]
  refine (next_reads (.word i.text i.quote)).step ?_
  rintro _ rfl
  dsimp only
  rw [if_neg harray, keywordType?_eq_none hword, pure_bind]
  -- the word is read once more, as a name
  refine Reads.set hls hbrackets ?_
  exact (customType_reads modifiers (typeEnds_sizes hmark sizes)).step
    fun _ hshow => sizes_reads hmark hsizes hshow

omit hmark hsizes in
theorem angleArray_reads {element : DataType} {inner : Reader ClosedType}
    (h : Reads true inner element.tokens (.symbol ">" :: rest)
      fun c => c.closed = false ∧ c.type.show = element.show) :
    Reads true (angleArray inner) (.symbol "<" :: (element.tokens ++ [.symbol ">"])) rest
      fun c => c.closed = false ∧ c.type.show = (DataType.angleArray element).show := by
  refine (expectSymbol_reads "<").step fun _ _ => h.step ?_
  rintro ⟨found, _⟩ ⟨rfl, hfound⟩
  refine Reads.ite_false (u := [.symbol ">"]) (symbol_miss rfl) ?_
  refine (expectSymbol_reads ">").step (u := []) fun _ _ => .pure ⟨rfl, ?_⟩
  rw [DataType.show, DataType.show, hfound]

theorem typeWith_angle {element : DataType} {inner : Reader ClosedType}
    (h : ∀ {rest}, Reads true inner element.tokens (.symbol ">" :: rest)
      fun c => c.closed = false ∧ c.type.show = element.show) :
    Reads true (typeWith inner) ((DataType.angleArray element).tokens ++ sizes.flatMap arrayTokens)
      (.symbol mark :: rest)
      fun c => c.closed = false ∧
        c.type.show = (sizes.foldl DataType.array (.angleArray element)).show := by
  refine Reads.get fun ls _ => (next_reads (.keyword "ARRAY")).step ?_
  rintro _ rfl
  refine (angleArray_reads h).step ?_
  rintro ⟨found, _⟩ ⟨rfl, hfound⟩
  exact sizes_reads hmark hsizes hfound

/-- The sizes of an array stand behind those of its elements. Tokens bound the nesting. -/
theorem typeWith_reads (h : type.legible = true) {n : Nat} (hn : type.tokens.length ≤ n) :
    Reads true (typeWith (nestedType n)) (type.tokens ++ sizes.flatMap arrayTokens)
      (.symbol mark :: rest)
      fun c => c.closed = false ∧ c.type.show = (sizes.foldl DataType.array type).show := by
  induction type generalizing mark sizes rest n with
  | plain shown label => exact typeWith_heads hmark hsizes (heads_plain h) _
  | sized shown label size =>
    rw [DataType.legible, Bool.and_eq_true] at h
    exact typeWith_heads hmark hsizes (heads_sized h.1 h.2) _
  | unsigned shown label size =>
    rw [DataType.legible, Bool.and_eq_true] at h
    exact typeWith_heads hmark hsizes ⟨shown, _, (heads_integer h.1 h.2).2⟩ _
  | characters shown label length =>
    rw [DataType.legible, Bool.and_eq_true] at h
    exact typeWith_heads hmark hsizes (heads_characters h.1 h.2) _
  | exact shown label places =>
    rw [DataType.legible, Bool.and_eq_true] at h
    exact typeWith_heads hmark hsizes ⟨shown, _, heads_exact h.1 h.2⟩ _
  | time shown label precision zone =>
    rw [DataType.legible, Bool.and_eq_true] at h
    exact typeWith_heads hmark hsizes (heads_time h.1 h.2) _
  | zonedTime precision zone =>
    rw [DataType.legible, Bool.and_eq_true] at h
    exact typeWith_heads hmark hsizes (heads_zonedTime h.1) _
  | fixedString length => exact typeWith_heads hmark hsizes (heads_fixedString h) _
  | custom name modifiers =>
    cases name with
    | nil => cases h
    | cons i is =>
      simp only [DataType.legible, Bool.and_eq_true, Bool.not_eq_true'] at h
      exact typeWith_custom hmark hsizes h.1.1.2 h.1.2 _
  | array element size ih =>
    rw [DataType.legible, Bool.and_eq_true] at h
    have hall : ∀ n ∈ size :: sizes, n.all isLength = true := by
      rw [List.forall_mem_cons]
      exact ⟨h.2, hsizes⟩
    rw [DataType.tokens, List.length_append] at hn
    rw [DataType.tokens, List.append_assoc]
    exact ih hmark hall h.1 (by omega)
  | enumeration members bits =>
    simp only [DataType.legible, Bool.and_eq_true, Bool.not_eq_true', List.isEmpty_eq_false_iff,
      List.all_eq_true] at h
    exact typeWith_heads hmark hsizes (heads_enumeration h.1.1 h.1.2 h.2) _
  | set values =>
    rw [DataType.legible, Bool.and_eq_true, Bool.not_eq_true', List.isEmpty_eq_false_iff] at h
    exact typeWith_heads hmark hsizes (heads_set h.1) _
  | angleArray element ih =>
    rw [DataType.legible, Bool.and_eq_true] at h
    rw [DataType.tokens, List.length_cons, List.length_cons, List.length_append] at hn
    obtain ⟨k, rfl⟩ : ∃ k, n = k + 1 := ⟨n - 1, by omega⟩
    refine typeWith_angle hmark hsizes fun {rest} => ?_
    have helement : Reads true (typeWith (nestedType k)) (element.tokens ++ [].flatMap arrayTokens)
        (.symbol ">" :: rest) _ := ih (by decide) sizes_nil h.1 (by omega)
    rwa [List.flatMap_nil, List.append_nil] at helement

end Sizes

theorem dataType_reads (h : type.legible = true) :
    Reads true dataType type.tokens (.symbol ")" :: rest) (·.show = type.show) := by
  refine Reads.get fun ls hls => ?_
  have hlength : type.tokens.length ≤ ls.length := by
    have htokens := congrArg List.length hls
    rw [List.length_map, List.length_append] at htokens
    omega
  have htype : Reads true (typeWith (nestedType ls.length)) (type.tokens ++ [].flatMap arrayTokens)
      (.symbol ")" :: rest) _ := typeWith_reads (by decide) sizes_nil h hlength
  rw [List.flatMap_nil, List.append_nil] at htype
  refine htype.andLook ?_
  rintro ⟨type, _⟩ ⟨rfl, hshow⟩
  exact .pure hshow

end LogicalSql.Surface.Reader
