import LogicalSql.Proofs.Surface.TypedStrings
import LogicalSql.Surface.Interpret

/-! How names and the arguments of calls are read, given how the expressions inside them are. -/
namespace LogicalSql.Surface.Reader

variable {α β : Type} {f : Bool} {p : Reader α} {P : α → Prop} {s rest : List Token} {L : Level}

/-- What is read off the first lexeme and the rest of them. -/
theorem Reads.cons {t : Token} {q : Lexeme → Reader α}
    (hp : ∀ l ls, l.token = t → p (l :: ls) = q l ls)
    (hq : ∀ l, l.token = t → Reads f (q l) s rest P) : Reads f p (t :: s) rest P := by
  intro hbrackets ls hls
  cases ls with
  | nil => cases hls
  | cons l ls =>
    rw [List.map_cons, List.cons_append, List.cons.injEq] at hls
    have hrun := hq l hls.1 hbrackets.tail ls hls.2
    rwa [hp l ls hls.1]

/-- The expression is read from its tokens, whatever closes it. -/
def ReadsAny (L : Level) (fits : Bool) (e : LogicalSql.Expr) : Prop :=
  ∀ rest, Closes rest → Reads fits L.anyExpr e.tokens rest fun x => x.interpret = .ok e

/-- The tokens of the expression are known for such by the first of them. -/
def Opens (e : LogicalSql.Expr) : Prop := ∀ rest, Ends rest → Starts (e.tokens ++ rest)

/-! Names. -/

theorem identifier_reads (i : Ident) :
    Reads true identifier [i.token] rest fun j => j.unplaced = i.unplaced := by
  obtain ⟨text, quote, place⟩ := i
  rw [Ident.token]
  split
  · rename_i hquote
    subst hquote
    refine .cons (q := fun l => Pure.pure ⟨text, some '\'', .nowhere⟩) ?_ fun l _ => .pure rfl
    rintro ⟨_, extent, blanks⟩ ls rfl
    rfl
  · refine .cons (q := fun l => Pure.pure ⟨text, quote, l.extent⟩) ?_ fun l _ => .pure rfl
    rintro ⟨_, extent, blanks⟩ ls rfl
    rfl

theorem isSymbol_token (i : Ident) (text : String) : isSymbol text i.token = false := by
  rw [Ident.token]
  split <;> rfl

theorem word_reads (text : String) :
    Reads true identifier [.word text none] rest fun i => i.text = text ∧ i.quote = none := by
  refine (identifier_reads ⟨text, none, .nowhere⟩).mono ?_
  rintro ⟨_, _, _⟩ ⟨⟩
  exact ⟨rfl, rfl⟩

theorem intercalate_pointed (i : Ident) (is : List Ident) :
    [.symbol "."].intercalate ((i :: is).map fun j => [j.token]) = pointed (i :: is) := by
  induction is generalizing i with
  | nil => simp [pointed, behindPoints]
  | cons j is ih =>
    have hj := ih j
    rw [List.map_cons] at hj ⊢
    rw [List.map_cons, List.intercalate_cons_cons, hj]
    rfl

theorem map_unplaced_eq {is js : List Ident}
    (h : List.Forall₂ (fun i j => Ident.unplaced j = i.unplaced) is js) :
    js.map Ident.unplaced = is.map Ident.unplaced := by
  induction h with
  | nil => rfl
  | cons hhead _ ih => rw [List.map_cons, List.map_cons, hhead, ih]

theorem objectName_reads (i : Ident) (is : List Ident) (h : headIs (isSymbol ".") rest = false) :
    Reads true objectName (pointed (i :: is)) rest
      fun name => name.map Ident.unplaced = (i :: is).map Ident.unplaced := by
  rw [← intercalate_pointed, ← all_fits (i :: is)]
  have hparts := separated_reads (List.cons_ne_nil i is) (fun j _ _ _ => identifier_reads j) h
  exact hparts.mono fun name hname => map_unplaced_eq hname

theorem dottedPartsLoop_stops (h : headIs (isSymbol ".") rest = false) (n : Nat) :
    Reads true (dottedPartsLoop n) [] rest (· = ([], none)) := by
  cases n with
  | zero => exact .pure rfl
  | succ n => exact Reads.ite_false (u := []) (symbol_miss h) (.pure rfl)

theorem dottedPartsLoop_star (n : Nat) :
    Reads true (dottedPartsLoop (n + 1)) [.symbol ".", .symbol "*"] rest
      fun r => ∃ extent, r = ([], some extent) := by
  refine Reads.ite_true (u := [.symbol "*"]) (symbol_hit ".") ?_
  refine .cons (q := fun l => Pure.pure ([], some l.extent)) ?_ fun l _ => .pure ⟨l.extent, rfl⟩
  rintro ⟨_, extent, blanks⟩ ls rfl
  rfl

/-- Parts are read one by one, and then what ends them. -/
theorem dottedPartsLoop_reads {is : List Ident} {u : List Token} {n m : Nat}
    {P : Option Extent → Prop}
    (hend : Reads true (dottedPartsLoop m) u rest fun r => r.1 = [] ∧ P r.2)
    (hn : n = is.length + m) :
    Reads true (dottedPartsLoop n) (behindPoints is ++ u) rest
      fun r => r.1.map Ident.unplaced = is.map Ident.unplaced ∧ P r.2 := by
  induction is generalizing n with
  | nil =>
    rw [List.length_nil, Nat.zero_add] at hn
    subst hn
    refine hend.mono ?_
    rintro ⟨_, star⟩ ⟨rfl, hstar⟩
    exact ⟨rfl, hstar⟩
  | cons i is ih =>
    obtain ⟨k, rfl⟩ : ∃ k, n = k + 1 := ⟨is.length + m, by rw [hn, List.length_cons]; omega⟩
    have htail := ih (n := k) (by rw [List.length_cons] at hn; omega)
    refine Reads.ite_true (u := i.token :: (behindPoints is ++ u)) (symbol_hit ".") ?_
    refine Reads.get fun ls hls => ?_
    split
    · exact absurd (List.cons.inj hls).1 (Ne.symm (i.token_ne_symbol _))
    · refine (identifier_reads i).step (u := behindPoints is ++ u) fun j hj => ?_
      refine htail.andLook ?_
      rintro ⟨js, star⟩ ⟨hjs, hstar⟩
      exact .pure ⟨by rw [List.map_cons, List.map_cons, hj, hjs], hstar⟩

theorem length_behindPoints (is : List Ident) : (behindPoints is).length = 2 * is.length := by
  induction is with
  | nil => rfl
  | cons i is ih =>
    rw [behindPoints] at ih ⊢
    rw [List.flatMap_cons, List.length_append, ih]
    simp only [List.length_cons, List.length_nil]
    omega

theorem dottedParts_reads (is : List Ident) (h : headIs (isSymbol ".") rest = false) :
    Reads true dottedParts (behindPoints is) rest
      fun r => r.1.map Ident.unplaced = is.map Ident.unplaced ∧ r.2 = none := by
  refine Reads.get fun ls hls => ?_
  have hlength : is.length ≤ ls.length := by
    have htokens := congrArg List.length hls
    rw [List.length_map, List.length_append, length_behindPoints] at htokens
    omega
  have hend : Reads true (dottedPartsLoop (ls.length - is.length)) [] rest
      fun r => r.1 = [] ∧ r.2 = none := by
    refine (dottedPartsLoop_stops h _).mono ?_
    rintro _ rfl
    exact ⟨rfl, rfl⟩
  have hread := dottedPartsLoop_reads (P := (· = none)) hend (Nat.add_sub_of_le hlength).symm
  rwa [List.append_nil] at hread

theorem dottedParts_star (is : List Ident) :
    Reads true dottedParts (behindPoints is ++ [.symbol ".", .symbol "*"]) rest
      fun r => r.1.map Ident.unplaced = is.map Ident.unplaced ∧ ∃ extent, r.2 = some extent := by
  refine Reads.get fun ls hls => ?_
  have hlength : is.length < ls.length := by
    have htokens := congrArg List.length hls
    simp only [List.length_map, List.length_append, length_behindPoints,
      List.length_cons] at htokens
    omega
  have hsteps : ls.length = is.length + (ls.length - is.length - 1 + 1) := by omega
  refine dottedPartsLoop_reads (P := fun star => ∃ extent, star = some extent) ?_ hsteps
  refine (dottedPartsLoop_star _).mono ?_
  rintro _ ⟨extent, rfl⟩
  exact ⟨rfl, extent, rfl⟩

/-! Stars in the place of fields and arguments. -/

theorem wildcard?_star :
    Reads true wildcard? [.symbol "*"] rest fun i => ∃ extent, i = some (.wildcard extent) := by
  refine .cons (q := fun l => Pure.pure (some (.wildcard l.extent))) ?_
    fun l _ => .pure ⟨l.extent, rfl⟩
  rintro ⟨_, extent, blanks⟩ ls rfl
  rfl

/-- A name with a point behind its first part is read to its end, and put back where no star ends
it. -/
theorem wildcard?_eq {l : Lexeme} {ls : List Lexeme} {i : Ident} {more : List Token}
    (hl : l.token = i.token) (hls : ls.map (·.token) = .symbol "." :: more) :
    wildcard? (l :: ls) = (do
      let first ← identifier
      let (parts, star) ← dottedParts
      match star with
      | some extent => return some (.wildcardOf (first :: parts) extent)
      | none =>
        set (l :: ls)
        return none : Reader (Option Item)) (l :: ls) := by
  obtain ⟨text, quote, place⟩ := i
  obtain ⟨t, extent, blanks⟩ := l
  cases ls with
  | nil => cases hls
  | cons l' ls =>
    obtain ⟨t', extent', blanks'⟩ := l'
    obtain rfl : t' = .symbol "." := (List.cons.inj hls).1
    obtain rfl : t = _ := hl
    rw [Ident.token]
    split <;> rfl

theorem wildcard?_starOf (i : Ident) (is : List Ident) :
    Reads true wildcard? (pointed (i :: is) ++ [.symbol ".", .symbol "*"]) rest
      fun x => ∃ name extent, x = some (.wildcardOf name extent) ∧
        name.map Ident.unplaced = (i :: is).map Ident.unplaced := by
  intro hbrackets ls hls
  have hname : ∀ start : List Lexeme, Reads true (do
      let first ← identifier
      let (parts, star) ← dottedParts
      match star with
      | some extent => return some (.wildcardOf (first :: parts) extent)
      | none =>
        set start
        return none : Reader (Option Item)) (pointed (i :: is) ++ [.symbol ".", .symbol "*"]) rest
      fun x => ∃ name extent, x = some (.wildcardOf name extent) ∧
        name.map Ident.unplaced = (i :: is).map Ident.unplaced := by
    intro start
    refine (identifier_reads i).step (u := behindPoints is ++ [.symbol ".", .symbol "*"]) ?_
    intro first hfirst
    refine (dottedParts_star is).andLook ?_
    rintro ⟨parts, _⟩ ⟨hparts, extent, rfl⟩
    exact .pure ⟨first :: parts, extent, rfl, by rw [List.map_cons, List.map_cons, hfirst, hparts]⟩
  obtain ⟨l, ls, rfl, hl, htail⟩ := List.map_eq_cons_iff.1 hls
  obtain ⟨more, hmore⟩ : ∃ more, behindPoints is ++ [.symbol ".", .symbol "*"] ++ rest =
      .symbol "." :: more := by
    cases is with
    | nil => exact ⟨_, rfl⟩
    | cons j is => exact ⟨_, rfl⟩
  have hrun := hname (l :: ls) hbrackets (l :: ls) hls
  rw [if_pos rfl] at hrun ⊢
  rwa [wildcard?_eq hl (htail.trans hmore)]

theorem wildcard?_none (hfirst : headIs begins rest = true)
    (hpoint : headIs (isSymbol ".") rest.tail = false) :
    Reads true wildcard? [] rest (· = none) := by
  refine Reads.get fun ls hls => ?_
  rw [List.nil_append] at hls
  subst hls
  split
  · exact absurd hfirst Bool.false_ne_true
  · cases hpoint
  · cases hpoint
  · exact .pure rfl

theorem Starts.wildcard?_reads (h : Starts rest) : Reads true wildcard? [] rest (· = none) := by
  rcases h.point with hpoint | ⟨i, _ | ⟨j, is⟩, more, htokens, hmore⟩
  · exact wildcard?_none h.first hpoint
  · exact wildcard?_none h.first (by rw [htokens]; exact hmore)
  · -- the name is read to its end, where no star stands, and put back
    intro hbrackets ls hls
    rw [List.nil_append] at hbrackets hls
    rw [htokens] at hbrackets hls
    obtain ⟨first, ls₁, hfirst, hls₁, -⟩ := identifier_reads i hbrackets ls hls
    obtain ⟨⟨parts, _⟩, ls₂, hparts, hls₂, -, rfl⟩ := dottedParts_reads (j :: is) hmore
      hbrackets.tail ls₁ hls₁
    obtain ⟨l, ls, rfl, hl, htail⟩ := List.map_eq_cons_iff.1 hls
    refine ⟨none, l :: ls, ?_, by rw [hls, htokens], rfl⟩
    rw [wildcard?_eq hl htail, bind_of_ok hfirst, bind_of_ok hparts]
    rfl

/-! Arguments. -/

/-- The argument stands for this expression, or is a star as it is. -/
def IsArgument (e : LogicalSql.Expr) (a : Argument) : Prop :=
  ∀ {as es}, interpretArguments as = .ok es → interpretArguments (a :: as) = .ok (e :: es)

/-- An argument is read from the tokens of the expression, whatever closes it. -/
def ReadsArgument (L : Level) (fits : Bool) (e : LogicalSql.Expr) : Prop :=
  ∀ rest, Closes rest → Reads fits (argument L) e.tokens rest (IsArgument e)

theorem argumentOperator?_reads (h : Ends rest) :
    Reads true argumentOperator? [] rest (· = none) := by
  refine Reads.ite_false (keyword_miss (h.keyword_ne (by decide))) ?_
  refine Reads.ite_false (symbol_miss (h.symbol_ne rfl)) ?_
  exact Reads.ite_false (u := []) (symbol_miss (h.symbol_ne rfl)) (.pure rfl)

theorem argumentOf_eq {x : Expr} {e : LogicalSql.Expr} (h : x.interpret = .ok e) :
    argumentOf x = .expr x := by
  cases x with
  | wildcardOf => cases h
  | _ => rfl

theorem ReadsAny.argument {e : LogicalSql.Expr} (h : ReadsAny L f e) (hopens : Opens e) :
    ReadsArgument L f e := by
  intro rest hcloses
  refine Reads.get fun start hstart hbrackets ls hls => ?_
  have hrun := attempt_reads (h rest hcloses) hbrackets ls hls
  cases f with
  | false => exact bind_of_error hrun
  | true =>
    obtain ⟨_, ls₁, hexpr, hls₁, x, rfl, hx⟩ := hrun
    obtain ⟨_, ls₂, hoperator, hls₂, rfl⟩ := argumentOperator?_reads hcloses.ends
      hbrackets.of_append ls₁ hls₁
    obtain ⟨_, ls₃, hwildcard, -, rfl⟩ :=
      (hopens rest hcloses.ends).wildcard?_reads hbrackets start hstart
    refine ⟨.expr x, ls₂, ?_, hls₂, fun has => ?_⟩
    · -- the tokens of the value are looked at once more, and left behind again
      have hget : (get : Reader (List Lexeme)) ls₂ = .ok (ls₂, ls₂) := rfl
      have hset : (set start : Reader PUnit) ls₂ = .ok (⟨⟩, start) := rfl
      rw [bind_of_ok hexpr]
      dsimp only
      rw [bind_of_ok hoperator]
      dsimp only
      rw [bind_of_ok hget, bind_of_ok hset, bind_of_ok hwildcard]
      change Except.ok (argumentOf x, ls₂) = _
      rw [argumentOf_eq hx]
    · rw [interpretArguments, hx, has]
      rfl

/-- A star is no expression, but an argument. -/
theorem readsArgument_wildcard
    (h : ∀ rest, Reads true (attempt L.anyExpr) [] (.symbol "*" :: rest) (· = none)) :
    ReadsArgument L true .wildcard := by
  intro rest _
  refine Reads.get fun start _ => (h rest).look (u := [.symbol "*"]) ?_
  rintro _ rfl
  refine wildcard?_star.step (u := []) ?_
  rintro _ ⟨extent, rfl⟩
  refine .pure fun has => ?_
  rw [interpretArguments, has]
  rfl

/-- The values of the arguments, in their order. -/
theorem interpretArguments_eq {es : List LogicalSql.Expr} {as : List Argument}
    (h : List.Forall₂ IsArgument es as) : interpretArguments as = .ok es := by
  induction h with
  | nil => rfl
  | cons hhead _ ih => exact hhead ih

/-- No word that may stand in front of arguments is the first token. -/
structure StartsArgument (tokens : List Token) : Prop where
  parenthesis_ne : headIs (isSymbol ")") tokens = false
  keyword_ne : ∀ w ∈ leadingWords, headIs (·.isKeyword w) tokens = false
  null : headIs (·.isKeyword "NULL") tokens = true → Ends tokens.tail

theorem Starts.argument (h : Starts s) : StartsArgument s :=
  ⟨h.symbol_ne rfl, fun _ hw => h.keyword_ne hw, h.null⟩

theorem startsArgument_star : StartsArgument (.symbol "*" :: rest) := ⟨rfl, fun _ _ => rfl, nofun⟩

/-- Nothing is said about missing values. -/
theorem nullClause?_none (habsent : headIs (·.isKeyword "ABSENT") rest = false)
    (hnull : headIs (·.isKeyword "NULL") rest = true → Ends rest.tail) :
    Reads true nullClause? [] rest (· = none) := by
  refine Reads.ite_false (keywords_miss habsent) ?_
  refine Reads.ite_false (u := []) (keywords_of_startsWith fun ls hls => ?_) (.pure rfl)
  cases ls with
  | nil => rfl
  | cons l ls =>
    rw [List.nil_append] at hls
    rw [startsWith]
    cases hl : l.token.isKeyword "NULL" with
    | false => rfl
    | true =>
      subst hls
      have hends : Ends (ls.map (·.token)) := hnull hl
      rw [startsWith_eq_false (hends.keyword_ne (by decide))]
      rfl

theorem nullClause?_of_ne (habsent : headIs (·.isKeyword "ABSENT") rest = false)
    (hnull : headIs (·.isKeyword "NULL") rest = false) :
    Reads true nullClause? [] rest (· = none) :=
  nullClause?_none habsent fun h => absurd (hnull.symm.trans h) Bool.false_ne_true

theorem argumentClauses_reads :
    Reads true (argumentClauses L) [] (.symbol ")" :: rest) (· = []) := by
  have horder : Reads true (orderBy? L) [] (.symbol ")" :: rest) (· = []) :=
    Reads.ite_false (u := []) (keywords_miss rfl) (.pure rfl)
  have hoverflow : Reads true (overflowClause? L) [] (.symbol ")" :: rest) (· = none) :=
    Reads.ite_false (u := []) (keywords_miss rfl) (.pure rfl)
  refine horder.look ?_
  rintro _ rfl
  refine (option_none (keyword_miss rfl)).look ?_
  rintro _ rfl
  refine hoverflow.look ?_
  rintro _ rfl
  refine (nullClause?_of_ne rfl rfl).look ?_
  rintro _ rfl
  exact .pure rfl

theorem exprTokens_eq (es : List LogicalSql.Expr) : exprTokens es = es.map (·.tokens) := by
  induction es with
  | nil => rfl
  | cons e es ih => rw [exprTokens, ih, List.map_cons]

/-- Behind the first expression of a list stands a comma or the end of the list. -/
theorem commas_cons (e : LogicalSql.Expr) (es : List LogicalSql.Expr) (rest : List Token) :
    ∃ more, Token.commas (exprTokens (e :: es)) ++ .symbol ")" :: rest = e.tokens ++ more ∧
      Closes more := by
  cases es with
  | nil => exact ⟨.symbol ")" :: rest, by simp [Token.commas, exprTokens], closes_parenthesis⟩
  | cons e' es =>
    refine ⟨.symbol "," :: (Token.commas (exprTokens (e' :: es)) ++ .symbol ")" :: rest), ?_,
      closes_comma⟩
    simp [Token.commas, exprTokens]

/-- How the arguments of a call are read, and what they start with. -/
structure ReadsArguments (L : Level) (fits : LogicalSql.Expr → Bool) (args : List LogicalSql.Expr) :
    Prop where
  reads : ∀ e ∈ args, ReadsArgument L (fits e) e
  starts : ∀ e ∈ args, ∀ rest, Ends rest → StartsArgument (e.tokens ++ rest)

section Arguments

variable {args : List LogicalSql.Expr} {fits : LogicalSql.Expr → Bool}

theorem ReadsArguments.start {e : LogicalSql.Expr} {es : List LogicalSql.Expr}
    (h : ReadsArguments L fits (e :: es)) (rest : List Token) :
    StartsArgument (Token.commas (exprTokens (e :: es)) ++ .symbol ")" :: rest) := by
  obtain ⟨more, hmore, hcloses⟩ := commas_cons e es rest
  rw [hmore]
  exact h.starts e List.mem_cons_self more hcloses.ends

theorem ReadsArguments.list (h : ReadsArguments L fits args) (hne : args ≠ []) :
    Reads (args.all fits) (commaSeparated (argument L)) (Token.commas (exprTokens args))
      (.symbol ")" :: rest) (List.Forall₂ IsArgument args) := by
  rw [exprTokens_eq]
  exact commaSeparated_reads hne
    (fun y hy behind hbehind => h.reads y hy behind (closes_behind closes_parenthesis hbehind)) rfl

theorem arguments_reads (hargs : ReadsArguments L fits args) {distinct : Bool}
    (hdistinct : distinct = true → args ≠ []) :
    Reads (args.all fits) (arguments L)
      (distinctTokens distinct ++ (Token.commas (exprTokens args) ++ [.symbol ")"])) rest
      fun a => a.interpret = .ok (args, distinct) := by
  cases args with
  | nil =>
    cases distinct with
    | true => exact absurd rfl (hdistinct rfl)
    | false =>
      refine (nullClause?_of_ne rfl rfl).look ?_
      rintro _ rfl
      exact Reads.ite_true (u := []) (symbol_hit ")") (.pure rfl)
  | cons e es =>
    have hstart : StartsArgument
        (Token.commas (exprTokens (e :: es)) ++ [.symbol ")"] ++ rest) := by
      simpa using hargs.start rest
    -- the arguments, behind the words in front of them
    have hlist : ∀ clauses : List Shown, Reads ((e :: es).all fits) (do
        let args ← commaSeparated (argument L)
        let more ← argumentClauses L
        expectSymbol ")"
        return Arguments.list (if distinct then some true else none) args (clauses ++ more))
        (Token.commas (exprTokens (e :: es)) ++ [.symbol ")"]) rest
        fun a => a.interpret = .ok (e :: es, distinct) := by
      intro clauses
      refine (hargs.list (List.cons_ne_nil e es)).andThen fun as has => ?_
      refine argumentClauses_reads.look ?_
      rintro _ rfl
      refine (expectSymbol_reads ")").step (u := []) fun _ _ => .pure ?_
      rw [Arguments.interpret, interpretArguments_eq has]
      cases distinct <;> rfl
    cases distinct with
    | false =>
      rw [distinctTokens, if_neg Bool.false_ne_true, List.nil_append]
      refine (nullClause?_none (hstart.keyword_ne _ (by decide)) hstart.null).look ?_
      rintro _ rfl
      refine Reads.ite_false (symbol_miss hstart.parenthesis_ne) ?_
      refine (keyword_miss (hstart.keyword_ne _ (by decide))).look ?_
      rintro _ rfl
      refine (keyword_miss (hstart.keyword_ne _ (by decide))).look ?_
      rintro _ rfl
      exact hlist []
    | true =>
      refine (nullClause?_of_ne rfl rfl).look ?_
      rintro _ rfl
      refine Reads.ite_false (symbol_miss rfl) ?_
      refine (keyword_miss rfl).look ?_
      rintro _ rfl
      refine (keyword_hit "DISTINCT" rfl).step ?_
      rintro _ rfl
      exact hlist []

/-! Calls. -/

/-- What follows the arguments: a condition on the rows, or nothing more of the call. -/
theorem filterClause?_reads {filter : Option LogicalSql.Expr}
    (hfilter : ∀ e ∈ filter, ReadsAny L true e) (hends : Ends rest) :
    Reads true (filterClause? L) (filterTokens filter) rest
      fun o => interpretOption o = .ok filter := by
  cases filter with
  | none =>
    refine Reads.ite_false (u := []) (keyword_miss (hends.keyword_ne (by decide))) (.pure ?_)
    rw [interpretOption]
    rfl
  | some e =>
    rw [filterTokens]
    refine Reads.ite_true (u := .symbol "(" :: _) (keyword_hit "FILTER" rfl) ?_
    refine Reads.ite_true (u := .keyword "WHERE" :: _) (symbol_hit "(") ?_
    refine Reads.ite_true (u := _ ++ _) (keyword_hit "WHERE" rfl) ?_
    refine (hfilter e rfl _ closes_parenthesis).step fun x hx => ?_
    refine (expectSymbol_reads ")").step (u := []) fun _ _ => .pure ?_
    rw [interpretOption, hx]
    rfl

theorem filterTokens_head (filter : Option LogicalSql.Expr) (hends : Ends rest) {word : String}
    (hword : word ∉ "FILTER" :: followWords) :
    headIs (·.isKeyword word) (filterTokens filter ++ rest) = false := by
  rw [List.mem_cons, not_or] at hword
  cases filter with
  | none => exact hends.keyword_ne hword.2
  | some e =>
    refine beq_eq_false_iff_ne.2 fun heq => hword.1 ?_
    exact (Option.some.inj heq).symm

theorem callOf_reads (hargs : ReadsArguments L fits args) {distinct : Bool}
    (hdistinct : distinct = true → args ≠ []) {filter : Option LogicalSql.Expr}
    (hfilter : ∀ e ∈ filter, ReadsAny L true e) (hends : Ends rest) (name : ObjectName) :
    Reads (args.all fits) (callOf L name)
      (.symbol "(" :: (distinctTokens distinct ++ (Token.commas (exprTokens args) ++ .symbol ")" ::
        filterTokens filter))) rest
      fun c => ∃ as filter', c = ⟨name, false, as, [], filter', none, none⟩ ∧
        as.interpret = .ok (args, distinct) ∧ interpretOption filter' = .ok filter := by
  have htokens : distinctTokens distinct ++ (Token.commas (exprTokens args) ++ .symbol ")" ::
      filterTokens filter) = distinctTokens distinct ++ (Token.commas (exprTokens args) ++
        [.symbol ")"]) ++ filterTokens filter := by simp
  rw [htokens]
  refine (expectSymbol_reads "(").step fun _ _ => (arguments_reads hargs hdistinct).andThen ?_
  intro as has
  refine Reads.ite_false (keywords_miss (filterTokens_head filter hends (by decide))) ?_
  have hnulls : Reads true nullTreatment? [] rest (· = none) := by
    refine (oneOf?_miss fun w hw => hends.keyword_ne ?_).look ?_
    · revert w
      decide
    · rintro _ rfl
      exact .pure rfl
  rw [pure_bind]
  refine (filterClause?_reads hfilter hends).andLook fun o ho => ?_
  refine hnulls.look ?_
  rintro _ rfl
  refine (option_none (keyword_miss (hends.keyword_ne (by decide)))).look ?_
  rintro _ rfl
  exact .pure ⟨as, o, rfl, has, ho⟩

end Arguments

end LogicalSql.Surface.Reader
