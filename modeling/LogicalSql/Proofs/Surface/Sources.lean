import LogicalSql.Proofs.Query.Legible
import LogicalSql.Proofs.Surface.Primaries
import LogicalSql.Surface.Reader.Table

/-! How the tables of a query are read, and the joins between them, given how the queries and
expressions inside them are. -/
namespace LogicalSql.Surface.Reader

variable {L : Level} {rest : List Token} {words : List String} {a : Option String}

/-! Aliases. -/

theorem aliasName?_none (reserved : List String) (hrest : Stops words rest)
    (hwords : words ⊆ sourceWords) (has : "AS" ∉ words) (hreserved : ∀ w ∈ words, w ∈ reserved) :
    Reads true (aliasName? reserved) [] rest (· = none) := by
  refine (keyword_miss (hrest.keyword_ne hwords has)).look ?_
  rintro _ rfl
  refine Reads.get fun ls hls => ?_
  rw [List.nil_append] at hls
  cases ls with
  | nil => exact .pure rfl
  | cons l ls =>
    obtain ⟨t, extent, blanks⟩ := l
    have htoken : t = .symbol ")" ∨ t = .symbol "," ∨ ∃ w ∈ words, t = .keyword w := by
      rcases hrest with hfollowed | hcomma
      · rcases hfollowed t (by rw [← hls]; rfl) with hclose | hword
        · exact .inl hclose
        · exact .inr (.inr hword)
      · rw [← hls] at hcomma
        exact .inr (.inl (Option.some.inj hcomma))
    rcases htoken with rfl | rfl | ⟨w, hw, rfl⟩
    · exact .pure rfl
    · exact .pure rfl
    · have hcontains : reserved.contains (Text.upper w) = true := by
        rw [upper_of_mem_sourceWords w (hwords hw)]
        exact List.contains_iff_mem.2 (hreserved w hw)
      dsimp only [Token.keyword?]
      rw [if_neg (by rw [hcontains]; exact Bool.false_ne_true)]
      exact .pure rfl

theorem aliasName?_some (reserved : List String) (name : String) :
    Reads true (aliasName? reserved) [.keyword "AS", .word name none] rest
      fun i => i.map (·.text) = some name := by
  refine (keyword_hit "AS" rfl).step (u := [.word name none]) ?_
  rintro _ rfl
  refine .cons (q := fun l => Pure.pure (some ⟨name, none, l.extent⟩)) ?_ fun l _ => .pure rfl
  rintro ⟨_, extent, blanks⟩ ls rfl
  rfl

theorem aliasName?_reads (reserved : List String) (hrest : Stops words rest)
    (hwords : words ⊆ sourceWords) (has : "AS" ∉ words) (hreserved : ∀ w ∈ words, w ∈ reserved) :
    Reads true (aliasName? reserved) (aliasTokens a) rest fun i => i.map (·.text) = a := by
  cases a with
  | none =>
    refine (aliasName?_none reserved hrest hwords has hreserved).mono ?_
    rintro _ rfl
    rfl
  | some name => exact aliasName?_some reserved name

/-- The words that may follow a table. -/
def sourceEnds : List String := "ON" :: "USING" :: clauseWords.drop 1

theorem sourceEnds_subset : sourceEnds ⊆ sourceWords := by
  intro w hw
  simp only [sourceEnds, List.mem_cons] at hw
  rcases hw with rfl | rfl | hw
  · exact List.mem_cons_self
  · exact List.mem_cons_of_mem _ List.mem_cons_self
  · exact clauseWords_subset (List.mem_of_mem_drop hw)

theorem tableAlias?_reads (hrest : Stops sourceEnds rest) :
    Reads true tableAlias? (aliasTokens a) rest fun t => aliasName t = a := by
  have hname :=
    aliasName?_reads (a := a) reservedForTableAliases hrest sourceEnds_subset (by decide)
    (by decide)
  refine hname.andLook fun i hi => ?_
  cases i with
  | none => exact .pure hi
  | some i =>
    have hcolumns : Reads true aliasColumns [] rest (· = []) :=
      Reads.ite_false (u := []) (symbol_miss (hrest.symbol_ne (by decide))) (.pure rfl)
    exact hcolumns.map fun _ _ => hi

/-! What follows the name of a table. -/

theorem alias_symbol_ne (hrest : Stops sourceEnds rest) {text : String}
    (htext : text ≠ ")" ∧ text ≠ ",") : headIs (isSymbol text) (aliasTokens a ++ rest) = false := by
  cases a with
  | none => exact hrest.symbol_ne htext
  | some name => rfl

theorem alias_keyword_ne (hrest : Stops sourceEnds rest) {word : String} (has : word ≠ "AS")
    (hword : word ∉ sourceEnds) : headIs (·.isKeyword word) (aliasTokens a ++ rest) = false := by
  cases a with
  | none => exact hrest.keyword_ne sourceEnds_subset hword
  | some name => exact isKeyword_eq_false fun heq => has heq.symm

theorem pivots_none (hrest : Stops sourceEnds rest) (factor : TableFactor) :
    Reads true (pivots L factor) [] rest (· = factor) := by
  refine Reads.get fun ls _ => ?_
  cases ls.length with
  | zero => exact .pure rfl
  | succ n =>
    refine (oneOf?_miss fun w hw => hrest.keyword_ne sourceEnds_subset ?_).look ?_
    · have hwords : ∀ w ∈ ["PIVOT", "UNPIVOT"], w ∉ sourceEnds := by decide
      exact hwords w hw
    · rintro _ rfl
      exact .pure rfl

theorem tableHints_none (hrest : Stops sourceEnds rest) :
    Reads true (tableHints L) [] rest (· = []) := by
  refine Reads.get fun ls _ => ?_
  exact Reads.ite_false (u := []) (keyword_miss (hrest.keyword_ne sourceEnds_subset (by decide)))
    (.pure rfl)

/-- What stands behind the name and arguments of a table. -/
theorem tableEnd_reads (hrest : Stops sourceEnds rest) (name : ObjectName)
    (args : Option (List Argument)) :
    Reads true (do
      let ordinality ← Reader.keywords ["WITH", "ORDINALITY"]
      let a ← tableAlias?
      pivots L (.table name args ordinality a (← tableHints L))) (aliasTokens a) rest
      fun factor => ∃ t, factor = .table name args false t [] ∧ aliasName t = a := by
  refine (keywords_miss (alias_keyword_ne hrest (by decide) (by decide))).look ?_
  rintro _ rfl
  refine (tableAlias?_reads hrest).andLook fun t ht => ?_
  refine (tableHints_none hrest).look ?_
  rintro _ rfl
  refine (pivots_none hrest _).mono ?_
  rintro _ rfl
  exact ⟨t, rfl, ht⟩

/-! Tables. -/

/-- The source is read from its tokens, whatever ends it. -/
def ReadsSource (L : Level) (s : Source) : Prop :=
  ∀ rest, Stops sourceEnds rest →
    Reads true (tableFactor L) s.tokens rest fun x => x.interpret = .ok s

theorem keywordCall_miss {word : String} (h : headIs (·.isKeyword word) rest = false ∨
      headIs (isSymbol "(") rest.tail = false) :
    Reads true (keywordCall word) [] rest (· = false) := by
  refine (peekKeyword_reads word).look ?_
  rintro _ rfl
  have hsecond : Reads true peekSecond? [] ([] ++ rest) (· = rest.tail.head?) := by
    intro _ ls hls
    refine ⟨_, ls, rfl, hls, ?_⟩
    rw [List.nil_append, List.nil_append] at hls
    rw [← hls]
    cases ls with
    | nil => rfl
    | cons l ls => cases ls <;> rfl
  refine hsecond.look ?_
  rintro _ rfl
  refine (if_neg ?_ : _ = _) ▸ .pure rfl
  rw [Bool.and_eq_true, beq_iff_eq]
  rintro ⟨hword, hparenthesis⟩
  rcases h with hne | hne
  · exact absurd hword (Bool.eq_false_iff.1 hne)
  · rw [headIs, hparenthesis] at hne
    cases hne

theorem tableFactor_named {i : Ident} {more : List Token} {P : TableFactor → Prop}
    (hname : i.spells tableWords = false)
    (hcall : i.spells ["JSON_TABLE", "OPENJSON"] = false ∨
      headIs (isSymbol "(") (more ++ rest) = false)
    (h : Reads true (namedTable L) (i.token :: more) rest P) :
    Reads true (tableFactor L) (i.token :: more) rest P := by
  have hword : ∀ w ∈ tableWords, headIs (·.isKeyword w) (i.token :: more ++ rest) = false :=
    fun w hw => Ident.token_isKeyword hname hw
  have hcalls : ∀ w ∈ ["JSON_TABLE", "OPENJSON"],
      headIs (·.isKeyword w) (i.token :: more ++ rest) = false ∨
        headIs (isSymbol "(") (more ++ rest) = false :=
    fun w hw => hcall.imp (fun hne => Ident.token_isKeyword hne hw) id
  refine Reads.ite_false (keyword_miss (hword _ (by decide))) ?_
  refine Reads.ite_false (keyword_miss (hword _ (by decide))) ?_
  refine Reads.ite_false (symbol_miss (isSymbol_token i _)) ?_
  refine Reads.ite_false (keyword_miss (hword _ (by decide))) ?_
  refine Reads.ite_false (keywordCall_miss (hcalls _ (by decide))) ?_
  exact Reads.ite_false (keywordCall_miss (hcalls _ (by decide))) h

theorem interpretTable_texts (is : List Ident) : interpretTable is a =
    match is.map (·.text) with
    | [table] => .table none table a
    | [schema, table] => .table (some schema) table a
    | _ => .table none (showName is) a := by
  match is with
  | [] => rfl
  | [_] => rfl
  | [_, _] => rfl
  | _ :: _ :: _ :: _ => rfl

theorem interpretTable_congr {is js : List Ident}
    (h : is.map Ident.unplaced = js.map Ident.unplaced) :
    interpretTable is a = interpretTable js a := by
  rw [interpretTable_texts, map_text_congr h, showName_congr h, ← interpretTable_texts]

theorem readsSource_name {schema : Option String} {name : String} {i : Ident} {is : List Ident}
    (htokens : qualifiedTokens schema name = pointed (i :: is)) (hi : i.spells tableWords = false)
    (hname : ∀ a, interpretTable (i :: is) a = .table schema name a) :
    ReadsSource L (.table schema name a) := by
  intro rest hrest
  have hpoint : headIs (isSymbol ".") (aliasTokens a ++ rest) = false :=
    alias_symbol_ne hrest (by decide)
  have hparenthesis : headIs (isSymbol "(") (aliasTokens a ++ rest) = false :=
    alias_symbol_ne hrest (by decide)
  have hnamed : Reads true (namedTable L) (pointed (i :: is) ++ aliasTokens a) rest
      fun x => x.interpret = .ok (.table schema name a) := by
    refine (objectName_reads i is hpoint).step fun parts hparts => ?_
    refine (option_none (symbol_miss hparenthesis)).look ?_
    rintro _ rfl
    refine (tableEnd_reads hrest parts none).mono ?_
    rintro _ ⟨t, rfl, rfl⟩
    exact congrArg Except.ok ((interpretTable_congr hparts).trans (hname _))
  rw [Source.tokens, htokens]
  refine tableFactor_named hi (.inr ?_) hnamed
  cases is with
  | nil => exact hparenthesis
  | cons j is => rfl

theorem readsSource_table {schema : Option String} {name : String}
    (h : isQualifiedName isTableText isTableName schema name = true) :
    ReadsSource L (.table schema name a) := by
  cases schema with
  | none =>
    obtain ⟨i, is, hparts, -, rfl, htest⟩ := isNameOf_eq_true.1 h
    simp only [Bool.and_eq_true, Bool.not_eq_true', Bool.or_eq_true, decide_eq_true_eq,
      Option.isNone_iff_eq_none, List.isEmpty_iff] at htest
    have htokens : qualifiedTokens none (showName (i :: is)) = pointed (i :: is) := by
      rw [qualifiedTokens, shownTokens, hparts]
    refine readsSource_name htokens htest.1 fun a => ?_
    rcases htest.2 with ⟨rfl, hquote⟩ | hlength
    · rw [showName_singleton hquote]
      rfl
    · match is, hlength with
      | _ :: _ :: _, _ => rfl
  | some schema =>
    rw [isQualifiedName, isTableName, Bool.and_eq_true, Bool.and_eq_true, Bool.not_eq_true'] at h
    have htokens : qualifiedTokens (some schema) name =
        pointed [⟨schema, none, .nowhere⟩, ⟨name, none, .nowhere⟩] := rfl
    exact readsSource_name htokens h.1.2 fun _ => rfl

theorem tableArguments_reads {args : List LogicalSql.Expr}
    (hargs : ReadsArguments L (fun _ => true) args) :
    Reads true (tableArguments L) (Token.commas (exprTokens args) ++ [.symbol ")"]) rest
      fun as => interpretArguments as = .ok args := by
  cases args with
  | nil => exact Reads.ite_true (u := []) (symbol_hit ")") (.pure rfl)
  | cons e es =>
    have hstart := (hargs.start rest).parenthesis_ne
    have hlist : Reads true (commaSeparated (argument L)) (Token.commas (exprTokens (e :: es)))
        (.symbol ")" :: rest) (List.Forall₂ IsArgument (e :: es)) :=
      all_fits (e :: es) ▸ hargs.list (List.cons_ne_nil e es)
    refine Reads.ite_false (symbol_miss (by simpa using hstart)) ?_
    refine hlist.step fun as has => (expectSymbol_reads ")").step (u := []) fun _ _ => .pure ?_
    exact interpretArguments_eq has

theorem readsSource_function {name : String} {args : List LogicalSql.Expr}
    (hname : isTableFunctionName name = true) (hargs : ReadsArguments L (fun _ => true) args) :
    ReadsSource L (.function name args a) := by
  intro rest hrest
  obtain ⟨i, is, hparts, -, rfl, htest⟩ := isNameOf_eq_true.1 hname
  simp only [Bool.and_eq_true, Bool.not_eq_true', Bool.or_eq_true] at htest
  have harguments : Reads true (option (symbol "(") (tableArguments L))
      ([.symbol "("] ++ (Token.commas (exprTokens args) ++ [.symbol ")"])) (aliasTokens a ++ rest)
      fun as => ∃ xs, as = some xs ∧ interpretArguments xs = .ok args :=
    option_some (symbol_hit "(") (tableArguments_reads hargs)
  have htokens : (Source.function (showName (i :: is)) args a).tokens = pointed (i :: is) ++
      (([.symbol "("] ++ (Token.commas (exprTokens args) ++ [.symbol ")"])) ++ aliasTokens a) := by
    rw [Source.tokens, shownTokens, hparts]
    simp
  rw [htokens]
  refine tableFactor_named htest.1 ?_ ?_
  · cases is with
    | nil => exact .inl (htest.2.resolve_left (by simp))
    | cons j is => exact .inr rfl
  · refine (objectName_reads i is rfl).step fun parts hparts => harguments.step ?_
    rintro _ ⟨as, rfl, has⟩
    refine (tableEnd_reads hrest parts (some as)).mono ?_
    rintro _ ⟨t, rfl, rfl⟩
    rw [TableFactor.interpret, has, showName_congr hparts]
    rfl

theorem readsSource_derived {q : LogicalSql.Query} {name : String} (hq : ReadsQuery L q) :
    ReadsSource L (.subquery q name) := by
  intro rest hrest
  rw [Source.tokens]
  have hderived : Reads true (derivedTable L false)
      (q.tokens ++ .symbol ")" :: aliasTokens (some name)) rest
      fun x => x.interpret = .ok (.subquery q name) := by
    refine (hq.reads _ followedBy_parenthesis).step fun x hx => ?_
    refine (expectSymbol_reads ")").step fun _ _ => ?_
    refine (tableAlias?_reads (a := some name) hrest).map fun t ht => ?_
    cases t with
    | none => cases ht
    | some t =>
      rw [TableFactor.interpret, hx]
      exact congrArg (fun a => Except.ok (Source.subquery q a)) (Option.some.inj ht)
  refine Reads.ite_false (keyword_miss rfl) ?_
  refine Reads.ite_false (keyword_miss rfl) ?_
  refine Reads.ite_true (symbol_hit "(") ?_
  refine (attempt_reads hderived).andLook ?_
  rintro _ ⟨x, rfl, hx⟩
  refine (pivots_none hrest x).mono ?_
  rintro _ rfl
  exact hx

/-! Joins. -/

/-- The parts of a join are read from their tokens, and it has the condition that its kind asks
for. -/
structure ReadsJoin (L : Level) (j : LogicalSql.Join) : Prop where
  source : ReadsSource L j.source
  on : ∀ e, j.condition = some (.on e) → ReadsAny L true e
  columns : ∀ names, j.condition = some (.using names) →
    names ≠ [] ∧ ∀ name ∈ names, isPartName name = true
  cross : j.kind = .cross → j.condition = none

/-- The join is interpreted part by part. -/
structure IsJoin (j : LogicalSql.Join) (x : Join) : Prop where
  kind : x.operator.interpret x.constraint = .ok j.kind
  condition : x.constraint.interpret = .ok j.condition
  source : x.factor.interpret = .ok j.source

theorem interpretJoins_eq {js : List LogicalSql.Join} {xs : List Join}
    (h : List.Forall₂ IsJoin js xs) : interpretJoins xs = .ok js := by
  induction h with
  | nil => rfl
  | @cons j x _ _ hhead _ ih =>
    obtain ⟨kind, source, condition⟩ := j
    obtain ⟨isGlobal, operator, factor, constraint⟩ := x
    rw [interpretJoins, hhead.kind, hhead.condition, hhead.source, ih]
    rfl

theorem sideJoin_reads (side name : String) (kind : JoinKind) :
    Reads true (sideJoin side name kind) [.keyword "JOIN"] rest (· = .known kind) := by
  refine (expectOneOf_hit (by decide) rfl).step (u := []) ?_
  rintro _ rfl
  exact .pure rfl

theorem joinOperator?_reads {kind : JoinKind} (hkind : kind ≠ .cross) :
    Reads true joinOperator? kind.tokens rest (· = some (.known kind)) := by
  cases kind with
  | inner =>
    refine (oneOf?_hit (by decide) rfl).step (u := []) ?_
    rintro _ rfl
    exact .pure rfl
  | left =>
    refine (oneOf?_hit (by decide) rfl).step (u := [.keyword "JOIN"]) ?_
    rintro _ rfl
    exact (sideJoin_reads _ _ _).map fun _ h => congrArg some h
  | right =>
    refine (oneOf?_hit (by decide) rfl).step (u := [.keyword "JOIN"]) ?_
    rintro _ rfl
    exact (sideJoin_reads _ _ _).map fun _ h => congrArg some h
  | full =>
    refine (oneOf?_hit (by decide) rfl).step (u := [.keyword "JOIN"]) ?_
    rintro _ rfl
    refine (keyword_miss rfl).look fun _ _ => ?_
    exact (expectKeyword_reads "JOIN" rfl).step (u := []) fun _ _ => .pure rfl
  | cross => exact absurd rfl hkind

/-- A name of one part is shown with its quotes. -/
theorem part_reads {name : String} (h : isPartName name = true) :
    Reads true identifier (shownTokens name) rest fun i => i.show = name := by
  obtain ⟨i, is, hparts, -, rfl, hempty⟩ := isNameOf_eq_true.1 h
  obtain rfl := List.isEmpty_iff.1 hempty
  rw [shownTokens, hparts]
  refine (identifier_reads i).mono fun j hj => ?_
  rw [showName, List.map_singleton, String.intercalate_singleton]
  have hshow : j.unplaced.show = i.unplaced.show := congrArg Ident.show hj
  exact hshow

theorem parts_reads {names : List String} (hne : names ≠ [])
    (h : ∀ name ∈ names, isPartName name = true) :
    Reads true (commaSeparated identifier) (Token.commas (names.map shownTokens))
      (.symbol ")" :: rest)
      (List.Forall₂ (fun name i => i.show = name) names) :=
  list_reads hne (fun name hname _ _ => part_reads (h name hname)) rfl

theorem show_parts {names : List String} {is : List Ident}
    (h : List.Forall₂ (fun name i => Ident.show i = name) names is) :
    is.map Ident.show = names := by
  induction h with
  | nil => rfl
  | cons hhead _ ih => rw [List.map_cons, hhead, ih]

/-- The words that may follow a join. -/
abbrev joinEnds : List String := clauseWords.drop 1

theorem joinEnds_subset : joinEnds ⊆ sourceWords :=
  fun _ h => clauseWords_subset (List.mem_of_mem_drop h)

/-- The condition behind a join, if it has one. -/
def conditionTokens : Option JoinCondition → List Token
  | some (.on e) => .keyword "ON" :: e.tokens
  | some (.using names) =>
    .keyword "USING" :: .symbol "(" :: (Token.commas (names.map shownTokens) ++ [.symbol ")"])
  | some .natural => []
  | none => []

theorem constraint_reads {condition : Option JoinCondition} (hnatural : condition ≠ some .natural)
    (hon : ∀ e, condition = some (.on e) → ReadsAny L true e)
    (hcolumns : ∀ names, condition = some (.using names) →
      names ≠ [] ∧ ∀ name ∈ names, isPartName name = true)
    (hrest : Stops joinEnds rest) :
    Reads true (constraint L) (conditionTokens condition) rest
      fun x => x.interpret = .ok condition ∧ ∀ kind : JoinKind,
        (JoinOperator.known kind).interpret x = .ok kind := by
  cases condition with
  | none =>
    refine Reads.ite_false (keyword_miss (hrest.keyword_ne joinEnds_subset (by decide))) ?_
    refine Reads.ite_false (u := [])
      (keyword_miss (hrest.keyword_ne joinEnds_subset (by decide))) ?_
    exact .pure ⟨rfl, fun _ => rfl⟩
  | some condition =>
    cases condition with
    | on e =>
      refine Reads.ite_true (keyword_hit "ON" rfl) ?_
      refine Reads.map (hon e rfl rest (hrest.closes (List.drop_subset 1 _)))
        fun x hx => ⟨?_, fun _ => rfl⟩
      rw [Constraint.interpret, hx]
      rfl
    | «using» names =>
      refine Reads.ite_false (keyword_miss rfl) (Reads.ite_true (keyword_hit "USING" rfl) ?_)
      obtain ⟨hne, hnames⟩ := hcolumns names rfl
      refine (parenthesized_reads (parts_reads hne hnames)).map fun is his => ⟨?_, fun _ => rfl⟩
      rw [Constraint.interpret, show_parts his]
      rfl
    | natural => exact absurd rfl hnatural

/-- A join of a kind that may have a condition. -/
theorem join?_known {kind : JoinKind} (hkind : kind ≠ .cross) (natural : Bool) {source : Source}
    {u : List Token} {P : Constraint → Prop} (hsource : ReadsSource L source)
    (hends : Stops sourceEnds (u ++ rest))
    (hconstraint : Reads true (if natural then Pure.pure .natural else constraint L) u rest P) :
    Reads true (join? L)
      ((if natural then [.keyword "NATURAL"] else []) ++ (kind.tokens ++ (source.tokens ++ u))) rest
      fun found => ∃ factor condition, found = some ⟨false, .known kind, factor, condition⟩ ∧
        factor.interpret = .ok source ∧ P condition := by
  have hoperator : ∀ k : Option JoinOperator → Reader (Option Join),
      (k (some (.known kind)) = do
        let factor ← tableFactor L
        return some ⟨false, .known kind, factor,
          ← if natural then Pure.pure .natural else constraint L⟩) →
      Reads true (joinOperator? >>= k) (kind.tokens ++ (source.tokens ++ u)) rest
        fun found => ∃ factor condition, found = some ⟨false, .known kind, factor, condition⟩ ∧
          factor.interpret = .ok source ∧ P condition := by
    intro k hk
    refine (joinOperator?_reads hkind).step ?_
    rintro _ rfl
    rw [hk]
    refine (hsource _ hends).step fun factor hfactor => ?_
    have hjoin : ∀ {p : Reader Constraint}, Reads true p u rest P →
        Reads true (do return some ⟨false, .known kind, factor, ← p⟩) u rest
          fun found : Option Join => ∃ factor condition,
            found = some ⟨false, .known kind, factor, condition⟩ ∧
              factor.interpret = .ok source ∧ P condition :=
      fun hp => hp.map fun condition hcondition => ⟨factor, condition, rfl, hfactor, hcondition⟩
    cases natural with
    | true => exact hjoin hconstraint
    | false => exact hjoin hconstraint
  have hmiss : ∀ w ∈ ["GLOBAL", "CROSS", "OUTER", "ASOF"], headIs (·.isKeyword w)
      ((if natural then [.keyword "NATURAL"] else []) ++ (kind.tokens ++ (source.tokens ++ u)) ++
        rest)
        = false := by
    have hheads : ∀ w ∈ ["GLOBAL", "CROSS", "OUTER", "ASOF"],
        ∀ t ∈ ["NATURAL", "JOIN", "LEFT", "RIGHT", "FULL"], Text.upper t ≠ w := by decide
    intro w hw
    cases natural with
    | true => exact isKeyword_eq_false (hheads w hw _ (by decide))
    | false =>
      cases kind with
      | cross => exact absurd rfl hkind
      | _ => exact isKeyword_eq_false (hheads w hw _ (by decide))
  refine (keyword_miss (hmiss _ (by decide))).look ?_
  rintro _ rfl
  refine Reads.ite_false (keyword_miss (hmiss _ (by decide))) ?_
  refine Reads.ite_false (keyword_miss (hmiss _ (by decide))) ?_
  refine Reads.ite_false (keyword_miss (hmiss _ (by decide))) ?_
  cases natural with
  | true =>
    refine (keyword_hit "NATURAL" rfl).step ?_
    rintro _ rfl
    exact hoperator _ rfl
  | false =>
    refine (keyword_miss ?_).look ?_
    · cases kind with
      | cross => exact absurd rfl hkind
      | _ => rfl
    · rintro _ rfl
      exact hoperator _ rfl

theorem join?_cross {source : Source} (hsource : ReadsSource L source)
    (hends : Stops sourceEnds rest) :
    Reads true (join? L) (JoinKind.cross.tokens ++ source.tokens) rest
      fun found => ∃ factor, found = some ⟨false, .known .cross, factor, .none⟩ ∧
        factor.interpret = .ok source := by
  refine (keyword_miss rfl).look ?_
  rintro _ rfl
  refine Reads.ite_true (u := .keyword "JOIN" :: source.tokens) (keyword_hit "CROSS" rfl) ?_
  refine (expectOneOf_hit (by decide) rfl).step ?_
  rintro _ rfl
  exact (hsource _ hends).map fun factor hfactor => ⟨factor, rfl, hfactor⟩

theorem Stops.mono {words' : List String} (h : Stops words rest) (hwords : words ⊆ words') :
    Stops words' rest := h.imp (·.mono hwords) id

theorem joinEnds_subset_sourceEnds : joinEnds ⊆ sourceEnds :=
  fun _ h => List.mem_cons_of_mem _ (List.mem_cons_of_mem _ h)

/-- What follows the table of a join. -/
theorem stops_conditionTokens (condition : Option JoinCondition) (hrest : Stops joinEnds rest) :
    Stops sourceEnds (conditionTokens condition ++ rest) := by
  have hplain := hrest.mono joinEnds_subset_sourceEnds
  cases condition with
  | none => exact hplain
  | some condition =>
    cases condition with
    | on e => exact .inl (followedBy_keyword (by decide))
    | «using» names => exact .inl (followedBy_keyword (by decide))
    | natural => exact hplain

theorem join?_reads {j : LogicalSql.Join} (h : ReadsJoin L j) (hrest : Stops joinEnds rest) :
    Reads true (join? L) j.tokens rest fun found => ∃ x, found = some x ∧ IsJoin j x := by
  obtain ⟨kind, source, condition⟩ := j
  obtain ⟨hsource, hon, hcolumns, hcross⟩ := h
  have hends := stops_conditionTokens condition hrest
  -- a join with no condition, or with one behind it
  have hknown : kind ≠ .cross → condition ≠ some .natural → Reads true (join? L)
      (kind.tokens ++ (source.tokens ++ conditionTokens condition)) rest
      fun found => ∃ x, found = some x ∧ IsJoin ⟨kind, source, condition⟩ x := by
    intro hkind hnatural
    refine (join?_known hkind false hsource hends
      (constraint_reads hnatural hon hcolumns hrest)).mono ?_
    rintro _ ⟨factor, constraint, rfl, hfactor, hconstraint⟩
    exact ⟨_, rfl, hconstraint.2 kind, hconstraint.1, hfactor⟩
  cases condition with
  | none =>
    rw [Join.tokens]
    by_cases hkind : kind = .cross
    · subst hkind
      refine (join?_cross hsource hends).mono ?_
      rintro _ ⟨factor, rfl, hfactor⟩
      exact ⟨_, rfl, rfl, rfl, hfactor⟩
    · have hread := hknown hkind (Option.some_ne_none _).symm
      rwa [conditionTokens, List.append_nil] at hread
  | some condition =>
    have hkind : kind ≠ .cross := fun heq => Option.some_ne_none _ (hcross heq)
    cases condition with
    | on e =>
      rw [Join.tokens, JoinCondition.tokens, List.append_assoc]
      exact hknown hkind (by simp)
    | «using» names =>
      rw [Join.tokens, JoinCondition.tokens, List.append_assoc]
      exact hknown hkind (by simp)
    | natural =>
      rw [Join.tokens, JoinCondition.tokens]
      have hread := join?_known hkind true (u := []) hsource hends (.pure rfl)
      rw [List.append_nil] at hread
      refine hread.mono ?_
      rintro _ ⟨factor, _, rfl, hfactor, rfl⟩
      exact ⟨_, rfl, rfl, rfl, hfactor⟩

theorem join?_none (hrest : Stops (clauseWords.drop 7) rest) :
    Reads true (join? L) [] rest (· = none) := by
  have hsubset : clauseWords.drop 7 ⊆ sourceWords :=
    fun _ h => clauseWords_subset (List.mem_of_mem_drop h)
  refine (keyword_miss (hrest.keyword_ne hsubset (by decide))).look ?_
  rintro _ rfl
  refine Reads.ite_false (u := []) (keyword_miss (hrest.keyword_ne hsubset (by decide))) ?_
  refine Reads.ite_false (u := []) (keyword_miss (hrest.keyword_ne hsubset (by decide))) ?_
  refine Reads.ite_false (u := []) (keyword_miss (hrest.keyword_ne hsubset (by decide))) ?_
  refine (keyword_miss (hrest.keyword_ne hsubset (by decide))).look ?_
  rintro _ rfl
  have hoperator : Reads true joinOperator? [] rest (· = none) := by
    refine (oneOf?_miss fun w hw => hrest.keyword_ne hsubset ?_).look ?_
    · have hwords : ∀ w ∈ ["INNER", "JOIN", "LEFT", "RIGHT", "FULL", "SEMI", "ANTI"],
          w ∉ clauseWords.drop 7 := by decide
      exact hwords w hw
    · rintro _ rfl
      exact .pure rfl
  refine hoperator.look ?_
  rintro _ rfl
  exact .pure rfl

/-! Tables with the tables joined to them. -/

theorem joinTokens_eq (js : List LogicalSql.Join) : joinTokens js = js.flatMap Join.tokens := by
  induction js with
  | nil => rfl
  | cons j js ih => rw [joinTokens, ih, List.flatMap_cons]

theorem exists_joinTokens (j : LogicalSql.Join) :
    ∃ word more, j.tokens = .keyword word :: more ∧ word ∈ joinEnds := by
  obtain ⟨kind, source, condition⟩ := j
  have hkind : ∃ word more, kind.tokens = .keyword word :: more ∧ word ∈ joinEnds := by
    cases kind with
    | inner => exact ⟨_, _, rfl, by decide⟩
    | left => exact ⟨_, _, rfl, by decide⟩
    | right => exact ⟨_, _, rfl, by decide⟩
    | full => exact ⟨_, _, rfl, by decide⟩
    | cross => exact ⟨_, _, rfl, by decide⟩
  obtain ⟨word, more, htokens, hword⟩ := hkind
  cases condition with
  | none =>
    rw [Join.tokens, htokens]
    exact ⟨word, _, rfl, hword⟩
  | some condition =>
    cases condition with
    | on e =>
      rw [Join.tokens, JoinCondition.tokens, htokens]
      exact ⟨word, _, rfl, hword⟩
    | «using» names =>
      rw [Join.tokens, JoinCondition.tokens, htokens]
      exact ⟨word, _, rfl, hword⟩
    | natural =>
      rw [Join.tokens, JoinCondition.tokens]
      exact ⟨"NATURAL", _, rfl, by decide⟩

theorem stops_joins (js : List LogicalSql.Join) (hrest : Stops (clauseWords.drop 7) rest) :
    Stops joinEnds (js.flatMap Join.tokens ++ rest) := by
  cases js with
  | nil => exact hrest.mono (List.drop_subset_drop_left _ (by decide))
  | cons j js =>
    obtain ⟨word, more, htokens, hword⟩ := exists_joinTokens j
    rw [List.flatMap_cons, htokens]
    exact .inl (followedBy_keyword hword)

theorem joins_reads {js : List LogicalSql.Join} (hjs : ∀ j ∈ js, ReadsJoin L j)
    (hrest : Stops (clauseWords.drop 7) rest) :
    Reads true (many (join? L)) (joinTokens js) rest fun xs => interpretJoins xs = .ok js := by
  rw [joinTokens_eq]
  refine (many_reads (R := IsJoin) (fun j _ => ?_) (fun pre j post heq => ?_)
    (join?_none hrest)).mono
    fun xs hxs => interpretJoins_eq hxs
  · obtain ⟨word, more, htokens, -⟩ := exists_joinTokens j
    rw [htokens]
    exact List.cons_ne_nil _ _
  · refine join?_reads (hjs j ?_) (stops_joins post hrest)
    rw [heq]
    exact List.mem_append_right pre List.mem_cons_self

/-- A source with the joins behind it. -/
theorem tableItem_reads {s : Source} {js : List LogicalSql.Join}
    (hs : ∀ L' : Level, L'.expr = L.expr → L'.query = L.query → ReadsSource L' s)
    (hjs : ∀ L' : Level, L'.expr = L.expr → L'.query = L.query → ∀ j ∈ js, ReadsJoin L' j)
    (hrest : Stops (clauseWords.drop 7) rest) :
    Reads true (tableItem L) (s.tokens ++ joinTokens js) rest
      fun t => t.factor.interpret = .ok s ∧ interpretJoins t.joins = .ok js := by
  refine Reads.get fun ls _ => ?_
  have hends : Stops sourceEnds (joinTokens js ++ rest) := by
    rw [joinTokens_eq]
    exact (stops_joins js hrest).mono joinEnds_subset_sourceEnds
  let inner : Level := { L with tableItem := tableItemLoop L ls.length }
  refine (hs inner rfl rfl _ hends).step fun factor hfactor => ?_
  exact (joins_reads (hjs inner rfl rfl) hrest).map fun xs hxs => ⟨hfactor, hxs⟩

end LogicalSql.Surface.Reader
