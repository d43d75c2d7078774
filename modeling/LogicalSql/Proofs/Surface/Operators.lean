import LogicalSql.Proofs.Query.Grouping
import LogicalSql.Proofs.Surface.Primaries

/-! How operators between and behind expressions are read, given how their operands are. -/
namespace LogicalSql.Surface.Reader

variable {α : Type} {f g : Bool} {s rest : List Token} {L : Level} {x : Expr} {P : Expr → Prop}

/-! Which operator comes. -/

theorem startsWith_map (words : List String) (ls : List Lexeme) :
    startsWith words ((ls.map (·.token)).map fun t => ⟨t, .nowhere, []⟩) = startsWith words ls := by
  induction words generalizing ls with
  | nil => rfl
  | cons w words ih =>
    cases ls with
    | nil => rfl
    | cons l ls => simp only [List.map_cons, startsWith, ih]

/-- Only tokens decide how strongly an operator binds. -/
theorem strength_eq (ls : List Lexeme) : strength ls = strengthOf (ls.map (·.token)) := by
  cases ls with
  | nil => rfl
  | cons l ls =>
    obtain ⟨t, extent, blanks⟩ := l
    cases t with
    | word text quote =>
      simp only [strengthOf, List.map_cons, strength]
      rw [startsWith_map, List.map_map, List.head?_map]
      cases ls.head? <;> rfl
    | _ => rfl

/-- `LIKE` and its kin are tests, the others stand between two operands. -/
def isLike (op : BinaryOp) : Bool :=
  op == .like || op == .iLike || op == .notLike || op == .notILike

theorem strengthOf_tokens (op : BinaryOp) : strengthOf (op.tokens ++ rest) = 10 * op.binding := by
  cases op <;> rfl

theorem operator?_reads {op : BinaryOp} (hop : isLike op = false) :
    Reads true operator? op.tokens rest (· = some (.known op)) := by
  cases op with
  | like | iLike | notLike | notILike => cases hop
  | _ =>
    refine .cons (q := fun _ => Pure.pure _) ?_ fun _ _ => .pure rfl
    rintro ⟨_, _, _⟩ ls rfl
    rfl

/-- Words that a test or its negation begins with. -/
def beginWords : List String := ["BETWEEN", "ILIKE", "IN", "IS", "LIKE", "NOT"]

theorem operator?_none {word : String} (hword : word ∈ beginWords) :
    Reads true operator? [] (.word word none :: rest) (· = none) := by
  have hnone :
      (["AND", "OR", "XOR", "OPERATOR"] : List String).contains (Text.upper word) = false := by
    revert word
    decide
  refine Reads.get fun ls hls => ?_
  split
  · cases hls
  · cases hls
  · refine Reads.look (P := (· = none)) (peekWord?_reads.look ?_) ?_
    · rintro _ rfl
      change Reads true (if _ then _ else _ : Reader (Option String)) [] _ _
      rw [hnone]
      exact .pure rfl
    · rintro _ rfl
      exact .pure rfl

theorem rightOperand_reads {l r : LogicalSql.Expr} {op : BinaryOp} {b : Nat}
    (hx : x.interpret = .ok l) (hstarts : Starts (r.tokens ++ rest))
    (hr : Reads f (L.expr b) r.tokens rest fun y => y.interpret = .ok r) :
    Reads f (rightOperand L x (.known op) b) r.tokens rest
      fun y => y.interpret = .ok (.binary l op r) := by
  have hwords : ∀ w ∈ ["ANY", "ALL", "SOME"], w ∈ leadingWords := by decide
  refine (oneOf?_miss fun w hw => hstarts.keyword_ne (hwords w hw)).look ?_
  rintro _ rfl
  refine hr.map fun y hy => ?_
  rw [Expr.interpret, hx, hy]
  rfl

theorem extend_binary {l r : LogicalSql.Expr} {op : BinaryOp} (hop : isLike op = false) {b : Nat}
    (hx : x.interpret = .ok l) (hstarts : Starts (r.tokens ++ rest))
    (hr : Reads f (L.expr b) r.tokens rest fun y => y.interpret = .ok r) :
    Reads f (extend L x b) (op.tokens ++ r.tokens) rest
      fun y => y.interpret = .ok (.binary l op r) := by
  refine (operator?_reads hop).step ?_
  rintro _ rfl
  exact rightOperand_reads hx hstarts hr

/-! Tests. -/

/-- Whether a test is negated, in front of its word. -/
theorem keyword_not (word : String) (hword : (Token.word word none).isKeyword "NOT" = false)
    (negated : Bool) :
    Reads true (keyword "NOT") (notTokens negated) (.word word none :: rest) (· = negated) := by
  cases negated with
  | false => exact keyword_miss hword
  | true => exact keyword_hit "NOT" rfl

theorem expectOneOf_reads {words : List String} (word : String) (hupper : Text.upper word = word)
    (hword : words.contains word = true) :
    Reads true (expectOneOf words) [.word word none] rest (· = word) := by
  have hone : Reads true (oneOf? words) [.word word none] rest (· = some word) := by
    refine peekWord?_reads.look ?_
    rintro _ rfl
    simp only [List.cons_append, List.head?_cons, Option.bind_some, Token.keyword?, hupper, hword,
      if_true]
    exact (skip_reads (.word word none)).step (u := []) fun _ _ => .pure rfl
  refine hone.step (u := []) ?_
  rintro _ rfl
  exact .pure rfl

/-- A test is its negation, its word and what follows that word. -/
theorem test_word {k : Bool → String → Reader α} {Q : α → Prop} (word : String)
    (hnot : (Token.word word none).isKeyword "NOT" = false) (hupper : Text.upper word = word)
    (hword : testWords.contains word = true) {negated : Bool}
    (h : Reads f (k negated word) s rest Q) :
    Reads f (do
      let negated ← keyword "NOT"
      let word ← expectOneOf testWords
      k negated word) (notTokens negated ++ .word word none :: s) rest Q := by
  refine (keyword_not word hnot negated).step (u := .word word none :: s) ?_
  rintro _ rfl
  refine (expectOneOf_reads word hupper hword).step (u := s) ?_
  rintro _ rfl
  exact h

theorem isTest_reads {e : LogicalSql.Expr} (hx : x.interpret = .ok e) (negated : Bool) :
    Reads true (isTest L x) (notTokens negated ++ [.keyword "NULL"]) rest
      fun y => y.interpret = .ok (.isNull e negated) := by
  refine (keyword_not "NULL" rfl negated).step (u := [.keyword "NULL"]) ?_
  rintro _ rfl
  refine Reads.ite_true (u := []) (keyword_hit "NULL" rfl) (.pure ?_)
  rw [Expr.interpret, hx]
  rfl

theorem test_in {e : LogicalSql.Expr} (hx : x.interpret = .ok e) {list : List LogicalSql.Expr}
    (hne : list ≠ []) {fits : LogicalSql.Expr → Bool} (hlist : ∀ e ∈ list, ReadsAny L (fits e) e)
    (hopens : ∀ e ∈ list, Opens e) (negated : Bool) :
    Reads (list.all fits) (test L x) (notTokens negated ++
      .keyword "IN" :: .symbol "(" :: (Token.commas (exprTokens list) ++ [.symbol ")"])) rest
      fun y => y.interpret = .ok (.inList e list negated) := by
  have hstarts : Starts (Token.commas (exprTokens list) ++ .symbol ")" :: rest) := by
    obtain ⟨e, list, rfl⟩ := List.exists_cons_of_ne_nil hne
    obtain ⟨more, hmore, hcloses⟩ := commas_cons e list rest
    rw [hmore]
    exact hopens e List.mem_cons_self more hcloses.ends
  refine test_word "IN" rfl rfl rfl ?_
  refine Reads.ite_false (keyword_miss rfl) (parenthesized_reads ?_)
  refine Reads.ite_false hstarts.peekQuery_reads ?_
  refine (exprs_reads hne hlist closes_parenthesis rfl).map fun xs hxs => ?_
  rw [Expr.interpret, hx, interpretExprs_eq hxs]
  rfl

theorem test_inSubquery {e : LogicalSql.Expr} (hx : x.interpret = .ok e) {q : LogicalSql.Query}
    (hq : ReadsQuery L q) (negated : Bool) :
    Reads true (test L x) (notTokens negated ++
      .keyword "IN" :: .symbol "(" :: (q.tokens ++ [.symbol ")"])) rest
      fun y => y.interpret = .ok (.inSubquery e q negated) := by
  refine test_word "IN" rfl rfl rfl ?_
  refine Reads.ite_false (keyword_miss rfl) (parenthesized_reads ?_)
  refine hq.peekQuery_reads.look ?_
  rintro _ rfl
  refine (hq.reads _ followedBy_parenthesis).map fun y hy => ?_
  rw [Expr.interpret, hx, hy]
  rfl

theorem test_between {e low high : LogicalSql.Expr} (hx : x.interpret = .ok e)
    (hlow : ∀ rest, Reads f (L.expr rangeStrength) low.tokens (.keyword "AND" :: rest)
      fun y => y.interpret = .ok low)
    (hhigh : Reads g (L.expr rangeStrength) high.tokens rest fun y => y.interpret = .ok high)
    (negated : Bool) :
    Reads (f && g) (test L x) (notTokens negated ++
      .keyword "BETWEEN" :: (low.tokens ++ .keyword "AND" :: high.tokens)) rest
      fun y => y.interpret = .ok (.between e low high negated) := by
  refine test_word "BETWEEN" rfl rfl rfl ?_
  refine (hlow _).bind fun y hy => ?_
  refine (expectKeyword_reads "AND" rfl).step (u := high.tokens) fun _ _ => hhigh.map fun z hz => ?_
  rw [Expr.interpret, hx, hy, hz]
  rfl

theorem likeTest_reads {e pattern : LogicalSql.Expr} (hx : x.interpret = .ok e)
    (hstarts : Starts (pattern.tokens ++ rest)) (hends : Ends rest)
    (hpattern : Reads f (L.expr rangeStrength) pattern.tokens rest
      fun y => y.interpret = .ok pattern)
    (ignoreCase negated : Bool) :
    Reads f (likeTest L x ignoreCase negated) pattern.tokens rest
      fun y => y.interpret = .ok (.binary e (likeOperator ignoreCase negated) pattern) := by
  refine (keyword_miss (hstarts.keyword_ne (by decide))).look ?_
  rintro _ rfl
  refine hpattern.andLook fun y hy =>
    (option_none (keyword_miss (hends.keyword_ne (by decide)))).look ?_
  rintro _ rfl
  refine .pure ?_
  rw [Expr.interpret, hx, hy]
  rfl

theorem test_like {e pattern : LogicalSql.Expr} {op : BinaryOp} (hop : isLike op = true)
    (hx : x.interpret = .ok e) (hstarts : Starts (pattern.tokens ++ rest)) (hends : Ends rest)
    (hpattern : Reads f (L.expr rangeStrength) pattern.tokens rest
      fun y => y.interpret = .ok pattern) :
    Reads f (test L x) (op.tokens ++ pattern.tokens) rest
      fun y => y.interpret = .ok (.binary e op pattern) := by
  have hlike : ∀ negated, Reads f (test L x)
      (notTokens negated ++ .keyword "LIKE" :: pattern.tokens) rest
      fun y => y.interpret = .ok (.binary e (likeOperator false negated) pattern) := by
    intro negated
    refine test_word "LIKE" rfl rfl rfl ?_
    exact likeTest_reads hx hstarts hends hpattern false negated
  have hiLike : ∀ negated, Reads f (test L x)
      (notTokens negated ++ .keyword "ILIKE" :: pattern.tokens) rest
      fun y => y.interpret = .ok (.binary e (likeOperator true negated) pattern) := by
    intro negated
    refine test_word "ILIKE" rfl rfl rfl ?_
    exact likeTest_reads hx hstarts hends hpattern true negated
  cases op with
  | like => exact hlike false
  | iLike => exact hiLike false
  | notLike => exact hlike true
  | notILike => exact hiLike true
  | _ => cases hop

/-! The operator that comes. -/

theorem extend_is {b : Nat} (h : Reads f (isTest L x) s rest P) :
    Reads f (extend L x b) (.keyword "IS" :: s) rest P := by
  refine (operator?_none (by simp [beginWords])).look (u := .keyword "IS" :: s) ?_
  rintro _ rfl
  refine Reads.ite_false (symbol_miss rfl) ?_
  refine Reads.ite_false (symbol_miss rfl) ?_
  refine Reads.ite_false (symbol_miss rfl) ?_
  exact Reads.ite_true (keyword_hit "IS" rfl) h

theorem extend_test {b : Nat} {word : String} (hword : word ∈ beginWords) (his : word ≠ "IS")
    (h : Reads f (test L x) (.word word none :: s) rest P) :
    Reads f (extend L x b) (.word word none :: s) rest P := by
  have hmiss : (Token.word word none).isKeyword "IS" = false ∧
      (Token.word word none).isKeyword "AT" = false := by
    clear h
    revert word
    decide
  refine (operator?_none hword).look (u := .word word none :: s) ?_
  rintro _ rfl
  refine Reads.ite_false (symbol_miss rfl) ?_
  refine Reads.ite_false (symbol_miss rfl) ?_
  refine Reads.ite_false (symbol_miss rfl) ?_
  refine Reads.ite_false (keyword_miss hmiss.1) ?_
  exact Reads.ite_false (keywords_miss hmiss.2) h

theorem extend_negated {b : Nat} {word : String} (hword : word ∈ beginWords) (his : word ≠ "IS")
    {negated : Bool} (h : Reads f (test L x) (notTokens negated ++ .keyword word :: s) rest P) :
    Reads f (extend L x b) (notTokens negated ++ .keyword word :: s) rest P := by
  cases negated with
  | false => exact extend_test hword his h
  | true => exact extend_test (by simp [beginWords]) (by decide) h

end LogicalSql.Surface.Reader
