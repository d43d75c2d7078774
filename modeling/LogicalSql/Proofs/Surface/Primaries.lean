import LogicalSql.Proofs.Surface.TypeReading
import LogicalSql.Surface.Reader.Primary

/-! How names, constants, calls, cases, casts, sub-queries and what stands behind a sign are read,
given how the expressions and queries inside them are. -/
namespace LogicalSql.Surface.Reader

variable {α β : Type} {f : Bool} {s rest : List Token} {L : Level}

/-! Names. -/

theorem nameForm_identifier (hends : Ends rest) (name : Ident) :
    Reads true (nameForm L name) [] rest (· = .identifier name) := by
  refine peek?_reads.look ?_
  rintro _ rfl
  cases rest with
  | nil => exact .pure rfl
  | cons t rest =>
    dsimp only [List.nil_append, List.head?_cons]
    split
    case h_1 heq => cases heq; cases hends
    case h_2 heq => cases heq; cases hends
    case h_3 heq => cases heq; cases hends
    case h_4 heq => cases heq; cases hends
    case h_5 => exact .pure rfl

theorem nameForm_compound (hends : Ends rest) {name i : Ident} (hname : name.unplaced = i.unplaced)
    {is : List Ident} (hne : is ≠ []) :
    Reads true (nameForm L name) (behindPoints is) rest
      fun x => ∃ parts, x = .compound parts ∧
        parts.map Ident.unplaced = (i :: is).map Ident.unplaced := by
  obtain ⟨j, is, rfl⟩ := List.exists_cons_of_ne_nil hne
  refine peek?_reads.look ?_
  rintro _ rfl
  refine (dottedParts_reads (j :: is) (hends.symbol_ne rfl)).andLook ?_
  rintro ⟨parts, _⟩ ⟨hparts, rfl⟩
  refine Reads.ite_false (u := []) ((peekSymbol_reads "(").mono ?_) (.pure ⟨_, rfl, ?_⟩)
  · rintro _ rfl
    exact hends.symbol_ne rfl
  · rw [List.map_cons, List.map_cons, hname, hparts]

/-- A call stands for the function of its name. -/
theorem nameForm_call {args : List LogicalSql.Expr} {fits : LogicalSql.Expr → Bool}
    (hargs : ReadsArguments L fits args) {distinct : Bool} (hdistinct : distinct = true → args ≠ [])
    {filter : Option LogicalSql.Expr} (hfilter : ∀ e ∈ filter, ReadsAny L true e)
    (hends : Ends rest)
    {name i : Ident} (hname : name.unplaced = i.unplaced) (is : List Ident) :
    Reads (args.all fits) (nameForm L name)
      (behindPoints is ++ .symbol "(" :: (distinctTokens distinct ++
        (Token.commas (exprTokens args) ++ .symbol ")" :: filterTokens filter))) rest
      fun x => x.interpret =
        applyFunction (Text.upper (showName (i :: is))) args distinct filter := by
  have hcall : ∀ parts : List Ident, parts.map Ident.unplaced = (i :: is).map Ident.unplaced →
      Reads (args.all fits) (do return Expr.function (← callOf L parts))
        (.symbol "(" :: (distinctTokens distinct ++ (Token.commas (exprTokens args) ++
          .symbol ")" :: filterTokens filter))) rest
        fun x => x.interpret =
          applyFunction (Text.upper (showName (i :: is))) args distinct filter := by
    intro parts hparts
    refine (callOf_reads hargs hdistinct hfilter hends parts).map ?_
    rintro _ ⟨as, o, rfl, has, ho⟩
    rw [Expr.interpret, showName_congr hparts, ho, has]
    rfl
  refine peek?_reads.look ?_
  rintro _ rfl
  cases is with
  | nil => exact hcall [name] (by rw [List.map_singleton, List.map_singleton, hname])
  | cons j is =>
    refine (dottedParts_reads (j :: is) rfl).step ?_
    rintro ⟨parts, _⟩ ⟨hparts, rfl⟩
    refine Reads.ite_true (s := []) ((peekSymbol_reads "(").mono ?_) (hcall _ ?_)
    · rintro _ rfl
      rfl
    · rw [List.map_cons, List.map_cons, hname, hparts]

/-! Words. -/

theorem untypedForm_name {i : Ident} (hquote : i.quote ≠ some '\'') {P : Expr × Bool → Prop}
    (h : ∀ name : Ident, name.unplaced = i.unplaced →
      Reads f (wordForm L (spelled i.token) name) s rest P) :
    Reads f (untypedForm L) (i.token :: s) rest P := by
  have htoken : i.token = .word i.text i.quote := by rw [Ident.token, if_neg hquote]
  rw [htoken] at h ⊢
  refine .cons
    (q := fun l => wordForm L (spelled (.word i.text i.quote)) ⟨i.text, i.quote, l.extent⟩)
    ?_ fun l _ => h _ rfl
  rintro ⟨_, extent, blanks⟩ ls rfl
  have hset : ∀ ls' : List Lexeme, (set ls : Reader PUnit) ls' = .ok (⟨⟩, ls) := fun _ => rfl
  rw [untypedForm, bind_of_ok rfl]
  dsimp only
  rw [bind_of_ok (hset _)]
  rfl

theorem untypedForm_word {text : String} {P : Expr × Bool → Prop}
    (h : ∀ name : Ident, name.unplaced = ⟨text, none, .nowhere⟩ →
      Reads f (wordForm L (Text.upper text) name) s rest P) :
    Reads f (untypedForm L) (.word text none :: s) rest P :=
  untypedForm_name (i := ⟨text, none, .nowhere⟩) nofun h

theorem untypedForm_symbol {text : String} {P : Expr × Bool → Prop}
    (h : Reads f (symbolForm L text) s rest fun x => P (x, false)) :
    Reads f (untypedForm L) (.symbol text :: s) rest P := by
  refine .cons (q := fun _ => do return (← symbolForm L text, false)) ?_
    fun l _ => h.map fun x hx => hx
  rintro ⟨_, extent, blanks⟩ ls rfl
  rfl

/-- Tokens that are a constant by themselves. -/
theorem untypedForm_constant {t : Token} {value : Constant}
    (h : ∀ extent blanks ls, untypedForm L (⟨t, extent, blanks⟩ :: ls) =
      .ok ((.constant value, false), ls)) :
    Reads true (untypedForm L) [t] rest (· = (.constant value, false)) := by
  refine .cons (q := fun _ => Pure.pure (.constant value, false)) ?_ fun l _ => .pure rfl
  rintro ⟨_, extent, blanks⟩ ls rfl
  exact h extent blanks ls

theorem keywordForm?_eq_none {word : String} (hform : word ∉ formWords) (hcall : word ∉ callWords)
    (name : Ident) : keywordForm? L word name = Pure.pure none := by
  unfold keywordForm?
  split
  all_goals first
    | rfl
    | exact absurd (by decide) hform
    | exact absurd (by decide) hcall

/-- A word that begins no form is a name. -/
theorem wordForm_name {word : String} (hform : word ∉ formWords) (hcall : word ∉ callWords)
    {name : Ident} {P : Expr → Prop} (h : Reads f (nameForm L name) s rest P) :
    Reads f (wordForm L word name) s rest fun r => P r.1 := by
  rw [wordForm, keywordForm?_eq_none hform hcall]
  refine (recover_reads (P := (· = none)) (.pure rfl)).look ?_
  rintro _ ⟨_, rfl, rfl⟩
  exact h.map fun x hx => hx

/-- Forms that need a parenthesis are not met without one. -/
theorem keywordForm?_tries {word : String} (hword : word ∈ callWords) (name : Ident)
    (h : headIs (isSymbol "(") s = false) :
    Tries (keywordForm? L word name) s fun found u => u = s ∧ found = none := by
  have hform : ∀ p : Reader Expr, Tries (do return some (← parenthesized p)) s
      fun found u => u = s ∧ found = none := fun p =>
    (parenthesized_tries h p).bind fun _ _ hfalse => hfalse.elim
  by_cases hposition : word = "POSITION"
  · subst hposition
    refine .look (peekSymbol_reads "(") ?_
    rintro _ rfl
    rw [h]
    exact .pure ⟨rfl, rfl⟩
  · simp only [callWords, List.mem_cons, List.not_mem_nil, or_false, hposition, false_or] at hword
    rcases hword with rfl | rfl | rfl | rfl | rfl | rfl | rfl | rfl | rfl
    all_goals exact hform _

/-- A word is a name too where its form is not met. -/
theorem wordForm_column {word : String} (hform : word ∉ formWords)
    (hrest : headIs (isSymbol "(") (s ++ rest) = false) {name : Ident} {P : Expr → Prop}
    (h : Reads true (nameForm L name) s rest P) :
    Reads true (wordForm L word name) s rest fun r => P r.1 := by
  by_cases hcall : word ∈ callWords
  · have hreserved : ∀ w ∈ callWords, reservedForColumns.contains w = false := by decide
    refine (keywordForm?_tries hcall name hrest).recover.look ?_
    rintro _ (rfl | ⟨_, rfl, rfl⟩)
    · dsimp only
      rw [hreserved word hcall]
      refine (recover_reads h).andLook ?_
      rintro _ ⟨x, rfl, hx⟩
      exact .pure hx
    · exact h.map fun x hx => hx
  · exact wordForm_name hform hcall h

/-- A keyword whose form is read is no name. -/
theorem wordForm_form {word : String} {name : Ident} {P : Expr → Prop}
    (h : Reads true (keywordForm? L word name) s rest fun found => ∃ x, found = some x ∧ P x) :
    Reads true (wordForm L word name) s rest fun r => P r.1 := by
  refine (recover_reads h).andLook ?_
  rintro _ ⟨_, rfl, x, rfl, hx⟩
  exact .pure hx

/-! Cases. -/

/-- What follows a result: another case, or what follows all of them. -/
theorem closes_whenTokens (whens : List (LogicalSql.Expr × LogicalSql.Expr)) (hrest : Closes rest) :
    Closes (whenTokens whens ++ rest) := by
  cases whens with
  | nil => exact hrest
  | cons w whens => exact closes_keyword (by decide)

theorem whens_reads {whens : List (LogicalSql.Expr × LogicalSql.Expr)}
    {condition result : LogicalSql.Expr}
    (hconditions : ∀ w ∈ (condition, result) :: whens, ReadsAny L true w.1)
    (hresults : ∀ w ∈ (condition, result) :: whens, ReadsAny L true w.2)
    (hrest : Closes rest) (hstop : headIs (·.isKeyword "WHEN") rest = false) {n : Nat}
    (hn : whens.length < n) :
    Reads true (Reader.whens L n)
      (condition.tokens ++ .keyword "THEN" :: (result.tokens ++ whenTokens whens)) rest
      fun ws => interpretWhens ws = .ok ((condition, result) :: whens) := by
  induction n generalizing condition result whens with
  | zero => exact absurd hn (Nat.not_lt_zero _)
  | succ n ih =>
    rw [List.forall_mem_cons] at hconditions hresults
    refine (hconditions.1 _ (closes_keyword (by decide))).step fun x hx => ?_
    refine (expectKeyword_reads "THEN" rfl).step (u := result.tokens ++ _) fun _ _ => ?_
    refine (hresults.1 _ (closes_whenTokens whens hrest)).step fun y hy => ?_
    cases whens with
    | nil =>
      refine Reads.ite_false (u := []) (keyword_miss hstop) (.pure ?_)
      rw [interpretWhens, hx, hy]
      rfl
    | cons w whens =>
      have htail := ih hconditions.2 hresults.2 (Nat.lt_of_succ_lt_succ hn)
      refine Reads.ite_true (keyword_hit "WHEN" rfl) (htail.map fun ws hws => ?_)
      rw [interpretWhens, hx, hy, hws]
      rfl

theorem length_le_whenTokens (whens : List (LogicalSql.Expr × LogicalSql.Expr)) :
    whens.length ≤ (whenTokens whens).length := by
  induction whens with
  | nil => exact Nat.le_refl _
  | cons w whens ih =>
    rw [whenTokens]
    simp only [List.length_cons, List.length_append]
    omega

/-- An expression behind a keyword, if there is one. -/
theorem option_reads {word : String} (hupper : Text.upper word = word) {o : Option LogicalSql.Expr}
    (h : ∀ e ∈ o, ReadsAny L true e) (hcloses : Closes rest)
    (hword : headIs (·.isKeyword word) rest = false) :
    Reads true (option (keyword word) L.anyExpr) (optionTokens [.keyword word] o) rest
      fun x => interpretOption x = .ok o := by
  cases o with
  | none =>
    refine (option_none (keyword_miss hword)).mono ?_
    rintro _ rfl
    rfl
  | some e =>
    refine (option_some (keyword_hit word hupper) (h e rfl rest hcloses)).mono ?_
    rintro _ ⟨x, rfl, hx⟩
    rw [interpretOption, hx]
    rfl

/-- The word that follows the last result. -/
theorem elseTokens_head (otherwise : Option LogicalSql.Expr) (rest : List Token) :
    Closes (optionTokens [.keyword "ELSE"] otherwise ++ .keyword "END" :: rest) ∧
      headIs (·.isKeyword "WHEN")
      (optionTokens [.keyword "ELSE"] otherwise ++ .keyword "END" :: rest)
        = false := by
  cases otherwise with
  | none => exact ⟨closes_keyword (by decide), rfl⟩
  | some e => exact ⟨closes_keyword (by decide), rfl⟩

theorem caseExpr_reads {operand otherwise : Option LogicalSql.Expr}
    {whens : List (LogicalSql.Expr × LogicalSql.Expr)} (hne : whens ≠ [])
    (hoperand : ∀ e ∈ operand, ReadsAny L true e ∧ Opens e)
    (hconditions : ∀ w ∈ whens, ReadsAny L true w.1) (hresults : ∀ w ∈ whens, ReadsAny L true w.2)
    (hotherwise : ∀ e ∈ otherwise, ReadsAny L true e) :
    Reads true (caseExpr L) (optionTokens [] operand ++ (whenTokens whens ++
      (optionTokens [.keyword "ELSE"] otherwise ++ [.keyword "END"]))) rest
      fun x => x.interpret = .ok (.case operand whens otherwise) := by
  obtain ⟨⟨condition, result⟩, whens, rfl⟩ := List.exists_cons_of_ne_nil hne
  -- the cases, behind the first `WHEN`
  have hcases : ∀ o, interpretOption o = .ok operand → Reads true (do
      let whens ← Reader.whens L ((← get).length + 1)
      let otherwise ← option (keyword "ELSE") L.anyExpr
      expectKeyword "END"
      return Expr.case o whens otherwise)
      (condition.tokens ++ .keyword "THEN" :: (result.tokens ++ whenTokens whens) ++
        (optionTokens [.keyword "ELSE"] otherwise ++ [.keyword "END"])) rest
      fun x => x.interpret = .ok (.case operand ((condition, result) :: whens) otherwise) := by
    intro o ho
    refine Reads.get fun ls hls => ?_
    have hlength : whens.length < ls.length + 1 := by
      have hwhens := length_le_whenTokens whens
      have htokens := congrArg List.length hls
      simp only [List.length_append, List.length_cons, List.length_map] at htokens
      omega
    have hhead := elseTokens_head otherwise rest
    refine (whens_reads hconditions hresults ?_ ?_ hlength).step fun ws hws => ?_
    · simpa using hhead.1
    · simpa using hhead.2
    · refine (option_reads rfl hotherwise (closes_keyword (by decide)) rfl).step
        (u := [.keyword "END"]) fun e he => ?_
      refine (expectKeyword_reads "END" rfl).step (u := []) fun _ _ => .pure ?_
      rw [Expr.interpret, hws, ho, he]
      rfl
  rw [whenTokens, List.cons_append]
  cases operand with
  | none =>
    rw [optionTokens, List.nil_append]
    exact Reads.ite_true (keyword_hit "WHEN" rfl) (hcases none rfl)
  | some e =>
    obtain ⟨hreads, hopens⟩ := hoperand e rfl
    have hcloses : Closes (.keyword "WHEN" :: (condition.tokens ++
        .keyword "THEN" :: (result.tokens ++ whenTokens whens) ++
        (optionTokens [.keyword "ELSE"] otherwise ++ [.keyword "END"]) ++ rest)) :=
      closes_keyword (by decide)
    rw [optionTokens, List.nil_append]
    refine Reads.ite_false (keyword_miss ?_) ?_
    · rw [List.append_assoc]
      exact (hopens _ hcloses.ends).keyword_ne (by decide)
    · refine (hreads _ hcloses).step fun x hx => ?_
      refine (expectKeyword_reads "WHEN" rfl).step (u := _ ++ _) fun _ _ => ?_
      rw [pure_bind]
      exact hcases (some x) (by rw [interpretOption, hx]; rfl)

/-! Sub-queries. -/

/-- The query is read from its tokens, whatever ends it. -/
structure ReadsQuery (L : Level) (q : LogicalSql.Query) : Prop where
  opens : ∀ rest, headIs (·.isKeyword "SELECT") (q.tokens ++ rest) = true ∨
    headIs (·.isKeyword "SELECT") (q.tokens ++ rest) = false ∧
      headIs (·.isKeyword "WITH") (q.tokens ++ rest) = true
  reads : ∀ rest, FollowedBy [] rest → Reads true L.query q.tokens rest
    fun x => x.interpret = .ok q

variable {q : LogicalSql.Query}

theorem ReadsQuery.peekQuery_reads (h : ReadsQuery L q) :
    Reads true peekQuery [] (q.tokens ++ rest) (· = true) := by
  refine (peekKeyword_reads "SELECT").look ?_
  rintro _ rfl
  rcases h.opens rest with hselect | ⟨hselect, hwith⟩
  · rw [List.nil_append, hselect]
    exact .pure rfl
  · rw [List.nil_append, hselect]
    exact (peekKeyword_reads "WITH").map fun _ hfound => hfound.trans hwith

theorem Starts.peekQuery_reads (h : Starts rest) : Reads true peekQuery [] rest (· = false) := by
  refine (peekKeyword_reads "SELECT").look ?_
  rintro _ rfl
  rw [List.nil_append, h.keyword_ne (by decide)]
  exact (peekKeyword_reads "WITH").map fun _ hfound => hfound.trans (h.keyword_ne (by decide))

theorem existsExpr_reads (h : ReadsQuery L q) (negated : Bool) :
    Reads true (existsExpr L negated) (.symbol "(" :: (q.tokens ++ [.symbol ")"])) rest
      fun x => x.interpret = .ok (if negated then .unary .not (.exists q) else .exists q) := by
  refine (parenthesized_reads (h.reads _ followedBy_parenthesis)).map fun x hx => ?_
  rw [Expr.interpret, hx]
  cases negated <;> rfl

/-! What stands behind a word or a symbol. -/

theorem notExpr_reads {e : LogicalSql.Expr}
    (h : Reads true (L.expr notStrength) e.tokens rest fun x => x.interpret = .ok e)
    (hexists : headIs (·.isKeyword "EXISTS") (e.tokens ++ rest) = false) :
    Reads true (notExpr L) e.tokens rest fun x => x.interpret = .ok (.unary .not e) := by
  refine Reads.ite_false (keyword_miss hexists) (h.map fun x hx => ?_)
  rw [Expr.interpret, hx]
  rfl

theorem exprs_reads {es : List LogicalSql.Expr} (hne : es ≠ []) {fits : LogicalSql.Expr → Bool}
    (hes : ∀ e ∈ es, ReadsAny L (fits e) e) (hrest : Closes rest)
    (hcomma : headIs (isSymbol ",") rest = false) :
    Reads (es.all fits) L.exprs (Token.commas (exprTokens es)) rest
      (List.Forall₂ (fun e x => x.interpret = .ok e) es) := by
  rw [exprTokens_eq]
  exact commaSeparated_reads hne
    (fun y hy behind hbehind => hes y hy behind (closes_behind hrest hbehind)) hcomma

theorem interpretExprs_eq {es : List LogicalSql.Expr} {xs : List Expr}
    (h : List.Forall₂ (fun e x => x.interpret = .ok e) es xs) : interpretExprs xs = .ok es := by
  induction h with
  | nil => rfl
  | cons hhead _ ih =>
    rw [interpretExprs, hhead, ih]
    rfl

/-- No field of the value is asked for. -/
theorem closing_reads (hends : Ends rest) (x : Expr) :
    Reads true (do
      expectSymbol ")"
      if ← symbol "." then
        match ← nextLexeme with
        | ⟨.word text quote, extent, _⟩ =>
          let key : Ident := ⟨text, quote, extent⟩
          return .other ⟨x.show ++ "." ++ key.show,
            Outline.record "CompositeAccess" [("expr", x.outline), ("key", key.outline)]⟩
        | _ => fail
      else return x) [.symbol ")"] rest (· = x) := by
  refine (expectSymbol_reads ")").step (u := []) fun _ _ => ?_
  exact Reads.ite_false (u := []) (symbol_miss (hends.symbol_ne rfl)) (.pure rfl)

theorem parenthesizedForm_nested {e : LogicalSql.Expr} (he : ReadsAny L f e) (hopens : Opens e)
    (hends : Ends rest) :
    Reads f (parenthesizedForm L) (e.tokens ++ [.symbol ")"]) rest
      fun x => x.interpret = .ok (.nested e) := by
  have hlist : Reads f L.exprs e.tokens ([.symbol ")"] ++ rest)
      (List.Forall₂ (fun e x => x.interpret = .ok e) [e]) := by
    have hitems : ∀ y ∈ [e], ReadsAny L f y := by simpa using he
    simpa [Token.commas, exprTokens] using
      exprs_reads (List.cons_ne_nil e []) hitems closes_parenthesis rfl
  have hstarts : Starts (e.tokens ++ [.symbol ")"] ++ rest) := by
    rw [List.append_assoc]
    exact hopens _ closes_parenthesis.ends
  refine Reads.ite_false hstarts.peekQuery_reads (hlist.andThen ?_)
  intro xs hxs
  cases hxs with
  | cons hx hnil =>
    cases hnil
    dsimp only
    rw [pure_bind]
    refine (closing_reads hends _).mono ?_
    rintro _ rfl
    rw [Expr.interpret, hx]
    rfl

theorem parenthesizedForm_subquery (h : ReadsQuery L q) (hends : Ends rest) :
    Reads true (parenthesizedForm L) (q.tokens ++ [.symbol ")"]) rest
      fun x => x.interpret = .ok (.subquery q) := by
  have hpeek : Reads true peekQuery [] (q.tokens ++ [.symbol ")"] ++ rest) (· = true) := by
    rw [List.append_assoc]
    exact h.peekQuery_reads
  refine hpeek.look ?_
  rintro _ rfl
  refine (h.reads _ followedBy_parenthesis).step fun x hx => ?_
  rw [pure_bind]
  refine (closing_reads hends _).mono ?_
  rintro _ rfl
  rw [Expr.interpret, hx]
  rfl

theorem symbolForm_sign {op : UnaryOp} (hop : op ≠ .not) {e : LogicalSql.Expr}
    (h : Reads f (L.expr productStrength) e.tokens rest fun x => x.interpret = .ok e) :
    Reads f (symbolForm L op.sql) e.tokens rest fun x => x.interpret = .ok (.unary op e) := by
  have hsign : Reads f (do return Expr.unary (.known op) (← L.expr productStrength)) e.tokens rest
      fun x => x.interpret = .ok (.unary op e) := by
    refine h.map fun x hx => ?_
    rw [Expr.interpret, hx]
    rfl
  cases op with
  | not => exact absurd rfl hop
  | minus => exact hsign
  | plus => exact hsign

/-! Substrings and casts. -/

/-- The length behind the start of a substring, if it has one, and what is made of it. -/
theorem substringLength_reads {o : Option LogicalSql.Expr} (h : ∀ e ∈ o, ReadsAny L true e)
    {k : Option Expr → Expr} {e : LogicalSql.Expr}
    (hk : ∀ x, interpretOption x = .ok o → (k x).interpret = .ok e) :
    Reads true (do
      let hasLength ← if ← keyword "FOR" then pure true else symbol ","
      let length ← option (pure hasLength) L.anyExpr
      return k length) (optionTokens [.symbol ","] o) (.symbol ")" :: rest)
      fun x => x.interpret = .ok e := by
  refine Reads.ite_false (keyword_miss (by cases o <;> rfl)) ?_
  cases o with
  | none =>
    refine (symbol_miss rfl).look (u := []) ?_
    rintro _ rfl
    refine (option_none (.pure rfl)).look ?_
    rintro _ rfl
    exact .pure (hk none rfl)
  | some length =>
    refine (symbol_hit ",").step ?_
    rintro _ rfl
    refine (option_some (s := []) (.pure rfl) (h length rfl _ closes_parenthesis)).andLook ?_
    rintro _ ⟨x, rfl, hx⟩
    refine .pure (hk (some x) ?_)
    rw [interpretOption, hx]
    rfl

theorem substringExpr_reads {args : List LogicalSql.Expr} (hne : args ≠ []) (hle : args.length ≤ 3)
    (hargs : ∀ e ∈ args, ReadsAny L true e) :
    Reads true (substringExpr L)
      (.symbol "(" :: (Token.commas (exprTokens args) ++ [.symbol ")"])) rest
      fun x => x.interpret = .ok (.call .substring args) := by
  obtain ⟨e, args, rfl⟩ := List.exists_cons_of_ne_nil hne
  refine parenthesized_reads ?_
  cases args with
  | nil =>
    rw [show Token.commas (exprTokens [e]) = e.tokens by simp [Token.commas, exprTokens]]
    refine (hargs e List.mem_cons_self _ closes_parenthesis).andLook fun x hx => ?_
    refine (symbol_miss rfl).look ?_
    rintro _ rfl
    refine (keyword_miss rfl).look ?_
    rintro _ rfl
    refine (option_none (.pure rfl)).look ?_
    rintro _ rfl
    refine substringLength_reads (o := none) (fun _ hnone => ?_) fun length hlength => ?_
    · cases hnone
    · rw [Expr.interpret, hx, hlength]
      rfl
  | cons start args =>
    -- the third argument is the length
    obtain ⟨o, rfl⟩ : ∃ o : Option LogicalSql.Expr, args = o.toList := by
      cases args with
      | nil => exact ⟨none, rfl⟩
      | cons length args =>
        cases args with
        | nil => exact ⟨some length, rfl⟩
        | cons =>
          simp only [List.length_cons] at hle
          omega
    have htokens : Token.commas (exprTokens (e :: start :: o.toList)) =
        e.tokens ++ .symbol "," :: (start.tokens ++ optionTokens [.symbol ","] o) := by
      cases o <;> simp [Token.commas, exprTokens, optionTokens]
    have hcloses : Closes (optionTokens [.symbol ","] o ++ .symbol ")" :: rest) := by
      cases o with
      | none => exact closes_parenthesis
      | some length => exact closes_comma
    rw [htokens]
    refine (hargs e (by simp) _ closes_comma).step fun x hx => ?_
    refine (symbol_hit ",").step (u := _ ++ _) ?_
    rintro _ rfl
    dsimp only
    rw [if_pos rfl, pure_bind]
    refine (option_some (s := []) (.pure rfl) (hargs start (by simp) _ hcloses)).step ?_
    rintro _ ⟨y, rfl, hy⟩
    refine substringLength_reads (fun length hlength => hargs length ?_) fun length hlength => ?_
    · simpa using .inr (.inr hlength)
    · rw [Expr.interpret, hx, interpretOption, hy, hlength]
      rfl

theorem castExpr_reads {e : LogicalSql.Expr} (he : ReadsAny L true e) {name : String}
    (hname : isTypeText name = true) (word label : String) :
    Reads true (castExpr L word label)
      (.symbol "(" :: (e.tokens ++ .keyword "AS" :: (typeTokens name ++ [.symbol ")"]))) rest
      fun x => x.interpret = .ok (.cast e name) := by
  obtain ⟨type, hlegible, rfl, htype⟩ := exists_of_isTypeText hname
  have htokens : e.tokens ++ .keyword "AS" :: (typeTokens type.show ++ [.symbol ")"]) =
      e.tokens ++ .keyword "AS" :: type.tokens ++ [.symbol ")"] := by simp [htype]
  rw [htokens]
  refine parenthesized_reads ?_
  refine (he _ (closes_keyword (by decide))).step fun x hx => ?_
  refine (expectKeyword_reads "AS" rfl).step (u := type.tokens) fun _ _ => ?_
  refine (dataType_reads hlegible).andLook fun type hshow => ?_
  refine Reads.map (P := (· = none)) (Reads.ite_false (u := []) (keyword_miss rfl) (.pure rfl)) ?_
  rintro _ rfl
  rw [Expr.interpret, hx, hshow]
  rfl

/-- An expression before any operator is the form that its tokens have. -/
theorem primary_reads {P : Expr → Prop} (huntyped : Untyped (s ++ rest)) (hends : Ends rest)
    (h : ∀ L' : Level, L'.expr = L.expr → L'.query = L.query →
      Reads f (untypedForm L') s rest fun r => P r.1) :
    Reads f (primary L) s rest P := by
  refine Reads.get fun ls _ => ?_
  have hform := h { L with primary := primaryLoop L ls.length } rfl rfl
  rw [primaryLoop, primaryForm]
  refine (huntyped _).look ?_
  rintro _ rfl
  refine hform.andLook ?_
  rintro ⟨x, isName⟩ hx
  cases isName with
  | false =>
    exact Reads.ite_false (u := []) (keyword_miss (hends.keyword_ne (by decide))) (.pure hx)
  | true => exact .pure hx

end LogicalSql.Surface.Reader
