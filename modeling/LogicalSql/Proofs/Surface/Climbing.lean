import LogicalSql.Proofs.Surface.Leading
import LogicalSql.Proofs.Surface.Operators
import LogicalSql.Surface.Reader.Statement

/-! How expressions are read back from their tokens. An operand is read up to an operator that binds
too weakly to be part of it, and what is read goes on with that operator. For each kind of
expression, it is said how it is read given how its parts are; what is nested in it is read one
level further down. -/
namespace LogicalSql

open Surface Surface.Reader

variable {e l : Expr} {n m b : Nat} {f g : Bool} {s u rest : List Token}

/-! How strongly an expression holds together. -/

/-- Expressions that begin with an operand. -/
def Expr.isInfix : Expr → Bool
  | .binary _ _ _ | .inList _ _ _ | .inSubquery _ _ _ | .between _ _ _ _ | .isNull _ _ => true
  | _ => false

/-- The strength of the operators that may stand behind an expression without becoming part of
it. None of them is stronger than a product. -/
def Expr.strength (e : Expr) : Nat := min (10 * e.binding .written) productStrength

/-- The expression is whole where it is read with operators above a strength. -/
def Expr.BindsAbove (e : Expr) (b : Nat) : Prop :=
  b ≤ e.strength ∧ (e.isInfix = true → b < e.strength)

theorem BinaryOp.binding_range (op : BinaryOp) :
    1 ≤ op.binding ∧ op.binding ≤ Binding.product ∧ op.binding ≠ Binding.negation := by
  cases op <;> decide

theorem Expr.binding_of_isInfix (h : e.isInfix = true) :
    1 ≤ e.binding .written ∧ e.binding .written ≤ Binding.product ∧
      e.binding .written ≠ Binding.negation := by
  cases e with
  | binary l op r => exact op.binding_range
  | inList | inSubquery | between | isNull =>
    simp [Expr.binding, Binding.membership, Binding.nullTest, Binding.product, Binding.negation]
  | _ => cases h

theorem Expr.strength_of_isInfix (h : e.isInfix = true) : e.strength = 10 * e.binding .written := by
  have hbinding := (Expr.binding_of_isInfix h).2.1
  rw [Expr.strength, productStrength]
  rw [Binding.product] at hbinding
  omega

theorem Expr.bindsAbove_zero (e : Expr) : e.BindsAbove 0 := by
  refine ⟨Nat.zero_le _, fun h => ?_⟩
  have hbinding := (Expr.binding_of_isInfix h).1
  rw [Expr.strength_of_isInfix h]
  omega

/-- An operand on the right binds more tightly than its operator. -/
theorem Expr.bindsAbove_of_lt (hm : m ≤ Binding.product) (h : m < e.binding .written) :
    e.BindsAbove (10 * m) := by
  rw [Binding.product] at hm
  refine ⟨?_, fun hoperator => ?_⟩
  · rw [Expr.strength, productStrength]
    omega
  · rw [Expr.strength_of_isInfix hoperator]
    omega

/-- The operand of a sign or a negation binds no less tightly. -/
theorem Expr.bindsAbove_of_unary {op : UnaryOp} (h : op.binding ≤ e.binding .written) :
    e.BindsAbove (Expr.unary op e).strength := by
  have hop : op.binding = Binding.negation ∨ op.binding = Binding.sign := by cases op <;> decide
  refine ⟨?_, fun hoperator => ?_⟩
  · simp only [Expr.strength, Expr.binding]
    omega
  · obtain ⟨-, hle, hne⟩ := Expr.binding_of_isInfix hoperator
    rw [Expr.strength_of_isInfix hoperator]
    simp only [Expr.strength, Expr.binding]
    simp only [Binding.negation, Binding.sign, Binding.product] at hop hle hne
    omega

/-! Reading goes on behind an operand. -/

/-- Where the tokens of the expression come first, it is read from them with these levels below, if
it fits, and the operators behind it follow. -/
def Expr.Climbs (n : Nat) (fits : Bool) (e : Expr) : Prop :=
  ∀ (b : Nat) (g : Bool) (s rest : List Token) (Q : Surface.Expr → Prop),
    e.BindsAbove b → Ends (s ++ rest) → strengthOf (s ++ rest) ≤ e.strength →
    (∀ x k, x.interpret = .ok e → (s ++ rest).length ≤ k →
      Reads g (extendLoop (level n) b k x) s rest Q) →
    Reads (fits && g) (Reader.expr (level n) b) (e.tokens ++ s) rest Q

/-- The expression is read with these levels, if it fits. Without a level nothing does. -/
def Expr.Fits : Nat → Bool → Expr → Prop
  | 0, fits, _ => fits = false
  | n + 1, fits, e => e.Climbs n fits

/-- What is nested is read with these levels. -/
structure Surface.Level.IsAt (L : Level) (n : Nat) : Prop where
  expr : L.expr = (level n).expr
  query : L.query = (level n).query

theorem extendLoop_stops {L : Level} (h : strengthOf rest ≤ b) (k : Nat) (x : Surface.Expr) :
    Reads true (extendLoop L b k x) [] rest (· = x) := by
  cases k with
  | zero => exact .pure rfl
  | succ k =>
    refine Reads.get fun ls hls => ?_
    rw [strength_eq, hls, List.nil_append, if_neg (Nat.not_lt.2 h)]
    exact .pure rfl

/-- One operator with its tokens `u` is read, which leaves enough steps for the tokens behind it. -/
theorem extendLoop_step {L : Level} {k : Nat} {x : Surface.Expr}
    {P Q : Surface.Expr → Prop} (hu : u ≠ []) (hk : (u ++ s ++ rest).length ≤ k)
    (h : b < strengthOf (u ++ (s ++ rest)))
    (hextend : Reads f (extend L x (strengthOf (u ++ (s ++ rest)))) u (s ++ rest) P)
    (hmore : ∀ y k, P y → (s ++ rest).length ≤ k → Reads g (extendLoop L b k y) s rest Q) :
    Reads (f && g) (extendLoop L b k x) (u ++ s) rest Q := by
  have hone : 1 ≤ u.length := List.length_pos_iff.2 hu
  rw [List.append_assoc, List.length_append] at hk
  cases k with
  | zero => omega
  | succ k =>
    refine Reads.get fun ls hls => ?_
    rw [List.append_assoc] at hls
    rw [strength_eq, hls, if_pos h]
    exact hextend.bind fun y hy => hmore y k hy (by omega)

/-- Expressions that do not begin with an operand. -/
theorem Expr.climbs_of_form (huntyped : ∀ rest, Ends rest → Untyped (e.tokens ++ rest))
    (h : ∀ L rest, L.IsAt n → Ends rest → strengthOf rest ≤ e.strength →
      Reads f (untypedForm L) e.tokens rest fun r => r.1.interpret = .ok e) :
    e.Climbs n f := by
  intro b g s rest Q _ hends hstrength hmore
  have hprimary : Reads f (primary (level n)) e.tokens (s ++ rest) fun x => x.interpret = .ok e :=
    primary_reads (huntyped _ hends) hends
    fun L hexpr hquery => h L _ ⟨hexpr, hquery⟩ hends hstrength
  refine hprimary.bind fun x hx => Reads.get fun ls hls => hmore x ls.length hx (Nat.le_of_eq ?_)
  rw [← hls, List.length_map]

/-- An operand with an operator and the rest of its tokens behind it. -/
theorem Expr.climbs_of_operator (hoperator : e.isInfix = true) (hl : l.Climbs n f)
    (hbinding : e.binding .written ≤ l.binding .written) (htokens : e.tokens = l.tokens ++ u)
    (hends : ∀ rest, Ends (u ++ rest))
    (hstrength : ∀ rest, strengthOf (u ++ rest) = 10 * e.binding .written)
    (hextend : ∀ rest x, Ends rest → strengthOf rest ≤ e.strength → x.interpret = .ok l →
      Reads g (extend (level n) x (10 * e.binding .written)) u rest fun y => y.interpret = .ok e) :
    e.Climbs n (f && g) := by
  intro b h s rest Q hb hrest hweak hmore
  obtain ⟨hpositive, hproduct, -⟩ := Expr.binding_of_isInfix hoperator
  have hown := Expr.strength_of_isInfix hoperator
  have hlt : b < 10 * e.binding .written := hown ▸ hb.2 hoperator
  have hleft : 10 * e.binding .written ≤ l.strength := by
    rw [Expr.strength, productStrength]
    rw [Binding.product] at hproduct
    omega
  have hhead := hstrength (s ++ rest)
  have hu : u ≠ [] := by
    rintro rfl
    have hnone : strengthOf ([] ++ []) = 0 := rfl
    rw [hstrength []] at hnone
    omega
  rw [Bool.and_assoc, htokens, List.append_assoc]
  refine hl b _ (u ++ s) rest Q ⟨by omega, fun _ => by omega⟩ ?_ ?_ ?_
  · rw [List.append_assoc]
    exact hends _
  · rw [List.append_assoc, hhead]
    exact hleft
  · intro x k hx hk
    refine extendLoop_step hu hk (by rw [hhead]; exact hlt) ?_ hmore
    rw [hhead]
    exact hextend (s ++ rest) x hrest hweak hx

theorem Expr.Fits.reads (he : e.Fits n f) (hb : e.BindsAbove b) (hends : Ends rest)
    (hrest : strengthOf rest ≤ b) :
    Reads f ((level n).expr b) e.tokens rest fun x => x.interpret = .ok e := by
  cases n with
  | zero =>
    cases he
    exact fun _ _ _ => rfl
  | succ n =>
    have hstop : ∀ x k, x.interpret = .ok e → ([] ++ rest).length ≤ k →
        Reads true (extendLoop (level n) b k x) [] rest fun x => x.interpret = .ok e := by
      intro x k hx _
      refine (extendLoop_stops hrest k x).mono ?_
      rintro _ rfl
      exact hx
    have hread := he b true [] rest _ hb hends (Nat.le_trans hrest hb.1) hstop
    rwa [Bool.and_true, List.append_nil] at hread

theorem Expr.Fits.readsAny (he : e.Fits n f) {L : Level} (hL : L.IsAt n) : ReadsAny L f e := by
  intro rest hcloses
  rw [Level.anyExpr, hL.expr]
  exact he.reads e.bindsAbove_zero hcloses.ends (Nat.le_of_eq hcloses.strength)

/-! Names and constants. -/

theorem Surface.Ident.spelled_not_mem {i : Ident} (h : i.isOperand = true) :
    spelled i.token ∉ formWords := by
  rw [Ident.isOperand, Bool.and_eq_true, Bool.not_eq_true'] at h
  exact spelled_token_not_mem h.1 (by decide)

/-- What stands behind the first part of a name. -/
theorem untyped_first {i : Ident} (hi : i.isOperand = true) (h : FollowsName rest) :
    Untyped (i.token :: rest) := by
  have hform := Ident.spelled_not_mem hi
  obtain ⟨text, quote, place⟩ := i
  cases quote with
  | none =>
    have hforms : ∀ w ∈ ["ARRAY", "INTERVAL"], w ∈ formWords := by decide
    exact untyped_name (fun hmem => hform (hforms _ hmem)) h
  | some quote =>
    refine untyped_of_head ?_
    rw [Ident.token]
    split <;> rfl

theorem untyped_function {i : Ident} (hi : i.isOperand = true)
    (hplain : i.spells (plainTypes.map (·.1)) = true) :
    Untyped (i.token :: .symbol "(" :: rest) := by
  have hform := Ident.spelled_not_mem hi
  obtain ⟨text, quote, place⟩ := i
  rw [Ident.spells, Bool.and_eq_true, Option.isNone_iff_eq_none] at hplain
  obtain ⟨rfl, hplain⟩ := hplain
  refine untyped_plain (List.contains_iff_mem.1 hplain) (fun heq => hform ?_) rfl
  rw [Ident.token_word, spelled, Token.keyword?, Option.getD_some, heq]
  decide

theorem followsName_behindPoints (is : List Ident) (hends : Ends rest) :
    FollowsName (behindPoints is ++ rest) := by
  cases is with
  | nil => exact .inl hends
  | cons j is => exact .inr rfl

theorem interpretParts_texts (is : List Ident) : interpretParts is =
    match is.map (·.text) with
    | [table, name] => .column (some table) name
    | texts => .column none (".".intercalate texts) := by
  match is with
  | [] => rfl
  | [_] => rfl
  | [_, _] => rfl
  | _ :: _ :: _ :: _ => rfl

theorem interpretParts_congr {is js : List Ident}
    (h : is.map Ident.unplaced = js.map Ident.unplaced) :
    interpretParts is = interpretParts js := by
  rw [interpretParts_texts, map_text_congr h, ← interpretParts_texts]

/-- Columns are read part by part. -/
theorem name_climbs {i : Ident} {is : List Ident} (htokens : e.tokens = pointed (i :: is))
    (hi : i.isOperand = true) (hquote : i.quote = none) (he : interpretParts (i :: is) = e) :
    e.Climbs n true := by
  refine Expr.climbs_of_form (fun rest hends => ?_) fun L rest _ hends _ => ?_
  · rw [htokens]
    exact untyped_first hi (followsName_behindPoints is hends)
  · rw [htokens]
    refine untypedForm_name (by rw [hquote]; nofun) fun first hfirst => ?_
    have hparenthesis := (followsName_behindPoints is hends).parenthesis_ne
    cases is with
    | nil =>
      refine (wordForm_column (Ident.spelled_not_mem hi) hparenthesis
        (nameForm_identifier hends first)).mono ?_
      rintro ⟨_, _⟩ rfl
      have hparts : interpretParts [first] = interpretParts [i] :=
        interpretParts_congr (congrArg (fun j => [j]) hfirst)
      have hone : interpretParts [first] = .column none first.text := by simp [interpretParts]
      rw [Surface.Expr.interpret, ← hone, hparts, he]
      rfl
    | cons j is =>
      refine (wordForm_column (Ident.spelled_not_mem hi) hparenthesis
        (nameForm_compound hends hfirst (List.cons_ne_nil j is))).mono ?_
      rintro ⟨_, _⟩ ⟨parts, rfl, hparts⟩
      rw [Surface.Expr.interpret, interpretParts_congr hparts, he]
      rfl

theorem interpretParts_of_unquoted {is : List Ident} (hlength : is.length ≠ 2)
    (h : ∀ i ∈ is, i.quote = none) : interpretParts is = .column none (showName is) := by
  rw [showName_of_unquoted h]
  match is with
  | [] => rfl
  | [_] => rfl
  | [_, _] => exact absurd rfl hlength
  | _ :: _ :: _ :: _ => rfl

theorem column_climbs {name : String} (h : isColumnName name = true) :
    (Expr.column none name).Climbs n true := by
  obtain ⟨i, is, hparts, -, rfl, htest⟩ := isNameOf_eq_true.1 h
  simp only [Bool.and_eq_true, bne_iff_ne, List.all_eq_true, Option.isNone_iff_eq_none] at htest
  have htokens : (Expr.column none (showName (i :: is))).tokens = pointed (i :: is) := by
    rw [Expr.tokens, qualifiedTokens, shownTokens, hparts]
  refine name_climbs htokens htest.1.1 (htest.2 i List.mem_cons_self) ?_
  exact interpretParts_of_unquoted (fun heq => htest.1.2 (Nat.succ.inj heq)) htest.2

theorem qualified_climbs {table name : String} (htable : isOperandName table = true) :
    (Expr.column (some table) name).Climbs n true := by
  have htokens : (Expr.column (some table) name).tokens =
      pointed [⟨table, none, .nowhere⟩, ⟨name, none, .nowhere⟩] := rfl
  exact name_climbs htokens (isOperand_of_isOperandName htable) rfl rfl

/-- Keywords that begin a form of their own begin no type. -/
theorem formKeywords_untyped : ∀ w ∈ ["NULL", "TRUE", "FALSE", "NOT", "EXISTS", "CAST", "CASE",
    "substring"], typeWords.contains (Text.upper w) = false := by
  decide

/-- Keywords that are a constant. -/
theorem constant_climbs (word : String) {value : Literal} (htokens : value.tokens = [.keyword word])
    (htype : typeWords.contains (Text.upper word) = false)
    {x : Surface.Expr} (hx : x.interpret = .ok (.literal value))
    (hword : ∀ L name, keywordForm? L (Text.upper word) name = pure (some x)) :
    (Expr.literal value).Climbs n true := by
  refine Expr.climbs_of_form (fun rest _ => ?_) fun L rest _ _ _ => ?_
  · rw [Expr.tokens, htokens]
    exact untyped_of_head htype
  · rw [Expr.tokens, htokens]
    refine untypedForm_word fun name _ => ?_
    refine wordForm_form (P := fun x => x.interpret = .ok (.literal value)) ?_
    rw [hword]
    exact .pure ⟨x, rfl, hx⟩

/-- Other tokens that are a constant. -/
theorem value_climbs {t : Token} (value : Constant) (htokens : e.tokens = [t])
    (htype : typeWords.contains (spelled t) = false)
    (hform : ∀ L extent blanks ls, untypedForm L (⟨t, extent, blanks⟩ :: ls) =
      .ok ((.constant value, false), ls))
    (hvalue : value.interpret = .ok e) : e.Climbs n true := by
  refine Expr.climbs_of_form (fun rest _ => ?_) fun L rest _ _ _ => ?_
  · rw [htokens]
    exact untyped_of_head htype
  · rw [htokens]
    refine (untypedForm_constant (hform L)).mono ?_
    rintro _ rfl
    rw [Surface.Expr.interpret, hvalue]

theorem natural_climbs {k : Nat} (hk : k < 0x8000000000000000) :
    (Expr.literal (.integer k)).Climbs n true := by
  have hvalue : interpretNumber (toString k) = .ok (.literal (.integer k)) := by
    rw [interpretNumber, Text.readNat?_toString]
    exact if_pos hk
  exact value_climbs (.number (toString k) false) rfl rfl (fun _ _ _ _ => rfl) hvalue

theorem Float.eq_of_toBits {x y : Float} (h : x.toBits = y.toBits) : x = y := by
  rcases x with ⟨⟨bits, _⟩⟩
  rcases y with ⟨⟨bits', _⟩⟩
  have hbits : bits = bits' := h
  subst hbits
  rfl

theorem float_climbs {x : Float} (h : isReadFloat x = true) :
    (Expr.literal (.float x)).Climbs n true := by
  have hvalue : interpretNumber (Decimal.floatText x) = .ok (.literal (.float x)) := by
    rw [isReadFloat, Bool.and_eq_true] at h
    replace h := h.2
    split at h
    · rename_i y hy
      rw [hy, Float.eq_of_toBits (beq_iff_eq.1 h)]
    · cases h
  exact value_climbs (.number (Decimal.floatText x) false) rfl rfl (fun _ _ _ _ => rfl) hvalue

theorem string_climbs (text : String) : (Expr.literal (.string text)).Climbs n true :=
  value_climbs (.string text) rfl rfl (fun _ _ _ _ => rfl) rfl

theorem literal_climbs {value : Literal} (h : value.legible = true) :
    (Expr.literal value).Climbs n true := by
  cases value with
  | null =>
    exact constant_climbs "NULL" rfl (formKeywords_untyped _ (by decide)) rfl fun _ _ => rfl
  | boolean value =>
    cases value with
    | true =>
      exact constant_climbs "TRUE" rfl (formKeywords_untyped _ (by decide)) rfl fun _ _ => rfl
    | false =>
      exact constant_climbs "FALSE" rfl (formKeywords_untyped _ (by decide)) rfl fun _ _ => rfl
  | integer i =>
    simp only [Literal.legible, Bool.and_eq_true, decide_eq_true_eq] at h
    obtain ⟨k, rfl⟩ := Int.eq_ofNat_of_zero_le h.1
    exact natural_climbs (by omega)
  | float x => exact float_climbs h
  | string text => exact string_climbs text
  | binary => cases h

theorem parameter_climbs {k : Nat} (hk : k < UInt64.size) : (Expr.parameter k).Climbs n true := by
  have hindex : placeholderIndex? ("$" ++ toString k) = some k := by
    have htext : ("$" ++ toString k).toList = '$' :: (toString k).toList := String.toList_append
    rw [placeholderIndex?, htext]
    change (Text.readNat? (toString k).toList >>=
      fun n => if n < UInt64.size then some n else none) = _
    rw [Text.readNat?_toString]
    exact if_pos hk
  refine value_climbs (.placeholder ("$" ++ toString k)) rfl rfl (fun _ _ _ _ => rfl) ?_
  rw [Constant.interpret, hindex]
  rfl

/-! Parentheses, signs and words in front of an expression. -/

theorem nested_climbs (he : e.Fits n f) (hopens : Opens e) : (Expr.nested e).Climbs n f := by
  refine Expr.climbs_of_form (fun rest _ => untyped_of_head rfl) fun L rest hL hends _ => ?_
  exact untypedForm_symbol (parenthesizedForm_nested (he.readsAny hL) hopens hends)

theorem sign_climbs {op : UnaryOp} (hop : op ≠ .not) (he : e.Fits n f)
    (hbinding : op.binding ≤ e.binding .written) : (Expr.unary op e).Climbs n f := by
  have hsign : (Expr.unary op e).strength = productStrength ∧ op.token = .symbol op.sql := by
    cases op with
    | not => exact absurd rfl hop
    | minus => exact ⟨rfl, rfl⟩
    | plus => exact ⟨rfl, rfl⟩
  obtain ⟨hown, htoken⟩ := hsign
  refine Expr.climbs_of_form (fun rest _ => ?_) fun L rest hL hends hstrength => ?_
  · rw [Expr.tokens, htoken]
    exact untyped_of_head rfl
  · have habove := Expr.bindsAbove_of_unary hbinding
    rw [hown] at habove hstrength
    rw [Expr.tokens, htoken]
    refine untypedForm_symbol (symbolForm_sign hop ?_)
    rw [hL.expr]
    exact he.reads habove hends hstrength

/-- Keywords whose form is read. -/
theorem keyword_climbs {word : String} {more : List Token}
    (htokens : e.tokens = .word word none :: more)
    (htype : typeWords.contains (Text.upper word) = false)
    (hform : ∀ L rest name, L.IsAt n → Ends rest → strengthOf rest ≤ e.strength →
      Reads true (keywordForm? L (Text.upper word) name) more rest
        fun found => ∃ x, found = some x ∧ x.interpret = .ok e) :
    e.Climbs n true := by
  refine Expr.climbs_of_form (fun rest _ => ?_) fun L rest hL hends hstrength => ?_
  · rw [htokens]
    exact untyped_of_head htype
  · rw [htokens]
    refine untypedForm_word fun name _ => ?_
    exact wordForm_form (P := fun x => x.interpret = .ok e) (hform L rest name hL hends hstrength)

theorem not_climbs (he : e.Fits n true) (hbinding : Binding.negation ≤ e.binding .written)
    (hexists : ∀ rest, headIs (·.isKeyword "EXISTS") (e.tokens ++ rest) = false) :
    (Expr.unary .not e).Climbs n true := by
  refine keyword_climbs (by rw [Expr.tokens]; rfl) (formKeywords_untyped _ (by decide))
    fun L rest name hL hends hstrength => ?_
  have habove : e.BindsAbove (Expr.unary .not e).strength := Expr.bindsAbove_of_unary hbinding
  refine (notExpr_reads ?_ (hexists rest)).map fun x hx => ⟨x, rfl, hx⟩
  rw [hL.expr]
  exact he.reads habove hends hstrength

theorem exists_climbs {q : Query} (hq : ∀ L : Level, L.IsAt n → ReadsQuery L q) :
    (Expr.exists q).Climbs n true := by
  refine keyword_climbs (by rw [Expr.tokens]) (formKeywords_untyped _ (by decide))
    fun L rest name hL _ _ => ?_
  exact (existsExpr_reads (hq L hL) false).map fun x hx => ⟨x, rfl, hx⟩

theorem notExists_climbs {q : Query} (hq : ∀ L : Level, L.IsAt n → ReadsQuery L q) :
    (Expr.unary .not (.exists q)).Climbs n true := by
  refine keyword_climbs (by rw [Expr.tokens, Expr.tokens]; rfl) (formKeywords_untyped _ (by decide))
    fun L rest name hL _ _ => ?_
  refine Reads.map ?_ fun x hx => ⟨x, rfl, hx⟩
  exact Reads.ite_true (keyword_hit "EXISTS" rfl) (existsExpr_reads (hq L hL) true)

theorem subquery_climbs {q : Query} (hq : ∀ L : Level, L.IsAt n → ReadsQuery L q) :
    (Expr.subquery q).Climbs n true := by
  refine Expr.climbs_of_form (fun rest _ => untyped_of_head rfl) fun L rest hL hends _ => ?_
  exact untypedForm_symbol (parenthesizedForm_subquery (hq L hL) hends)

theorem cast_climbs (he : e.Fits n true) {name : String} (hname : isTypeText name = true) :
    (Expr.cast e name).Climbs n true := by
  refine keyword_climbs (by rw [Expr.tokens]) (formKeywords_untyped _ (by decide))
    fun L rest _ hL _ _ => ?_
  exact (castExpr_reads (he.readsAny hL) hname "CAST" "Cast").map fun x hx => ⟨x, rfl, hx⟩

theorem case_climbs {operand otherwise : Option Expr} {whens : List (Expr × Expr)}
    (hne : whens ≠ []) (hoperand : ∀ x ∈ operand, x.Fits n true ∧ Opens x)
    (hconditions : ∀ w ∈ whens, w.1.Fits n true) (hresults : ∀ w ∈ whens, w.2.Fits n true)
    (hotherwise : ∀ x ∈ otherwise, x.Fits n true) :
    (Expr.case operand whens otherwise).Climbs n true := by
  refine keyword_climbs (by rw [Expr.tokens]) (formKeywords_untyped _ (by decide))
    fun L rest name hL _ _ => ?_
  refine Reads.map (caseExpr_reads hne ?_ ?_ ?_ ?_) fun x hx => ⟨x, rfl, hx⟩
  · exact fun x hx => ⟨(hoperand x hx).1.readsAny hL, (hoperand x hx).2⟩
  · exact fun w hw => (hconditions w hw).readsAny hL
  · exact fun w hw => (hresults w hw).readsAny hL
  · exact fun x hx => (hotherwise x hx).readsAny hL

/-! Calls. -/

theorem substring_climbs {args : List Expr} (hne : args ≠ []) (hle : args.length ≤ 3)
    (hargs : ∀ x ∈ args, x.Fits n true) : (Expr.call .substring args).Climbs n true := by
  refine keyword_climbs (by rw [Expr.tokens]) (formKeywords_untyped _ (by decide))
    fun L rest name hL _ _ => ?_
  refine Reads.map (substringExpr_reads hne hle ?_) fun x hx => ⟨x, rfl, hx⟩
  exact fun x hx => (hargs x hx).readsAny hL

/-- The parts of a call are read with these levels. A star may be an argument. -/
structure FitsCall (n : Nat) (fits : Expr → Bool) (args : List Expr) : Prop where
  fits : ∀ x ∈ args, x = .wildcard ∧ fits x = true ∨ x.Fits n (fits x) ∧ Opens x
  positive : .wildcard ∈ args → 0 < n

/-- No expression begins with a star. -/
theorem anyExpr_star {L : Level} (hL : L.IsAt (n + 1)) :
    Reads true (attempt L.anyExpr) [] (.symbol "*" :: rest) (· = none) := by
  have hstar : ∀ L : Level, Tries (untypedForm L) (.symbol "*" :: rest) fun _ _ => False := by
    intro L hbrackets ls hls
    obtain ⟨⟨_, extent, blanks⟩, ls, rfl, rfl, hls⟩ := List.map_eq_cons_iff.1 hls
    exact .inl rfl
  have hprimary : Tries (primary (level n)) (.symbol "*" :: rest) fun _ _ => False := by
    refine Tries.get fun ls _ _ => ?_
    rw [primaryLoop, primaryForm]
    refine Tries.look (untyped_of_head rfl _) ?_
    rintro _ rfl
    exact (hstar _).bind fun _ _ h => h.elim
  rw [Level.anyExpr, hL.expr]
  exact Tries.attempt (hprimary.bind fun _ _ h => h.elim)

theorem FitsCall.readsArguments {args : List Expr} {fits : Expr → Bool} (h : FitsCall n fits args)
    {L : Level} (hL : L.IsAt n) : ReadsArguments L fits args := by
  constructor
  · intro x hx
    rcases h.fits x hx with ⟨rfl, hfits⟩ | ⟨hclimbs, hopens⟩
    · obtain ⟨m, rfl⟩ := Nat.exists_eq_succ_of_ne_zero (Nat.ne_of_gt (h.positive hx))
      rw [hfits]
      exact readsArgument_wildcard fun rest => anyExpr_star hL
    · exact (hclimbs.readsAny hL).argument hopens
  · intro x hx rest hends
    rcases h.fits x hx with ⟨rfl, -⟩ | ⟨-, hopens⟩
    · exact startsArgument_star
    · exact (hopens rest hends).argument

/-- A call by a name that begins no form of its own. -/
theorem call_climbs {i : Ident} {is : List Ident} {args : List Expr} {fits : Expr → Bool}
    {distinct : Bool} {filter : Option Expr}
    (htokens : e.tokens = pointed (i :: is) ++ .symbol "(" ::
      (distinctTokens distinct ++ (Token.commas (exprTokens args) ++ .symbol ")" ::
        filterTokens filter)))
    (hquote : i.quote ≠ some '\'') (hform : spelled i.token ∉ formWords)
    (hcall : spelled i.token ∉ callWords)
    (huntyped : ∀ rest, Ends rest → Untyped (e.tokens ++ rest))
    (hargs : FitsCall n fits args) (hdistinct : distinct = true → args ≠ [])
    (hfilter : ∀ x ∈ filter, x.Fits n true)
    (happly : applyFunction (Text.upper (showName (i :: is))) args distinct filter = .ok e) :
    e.Climbs n (args.all fits) := by
  refine Expr.climbs_of_form huntyped fun L rest hL hends _ => ?_
  rw [htokens]
  refine untypedForm_name hquote fun first hfirst => ?_
  refine wordForm_name (P := fun x => x.interpret = .ok e) hform hcall ?_
  refine (nameForm_call (hargs.readsArguments hL) hdistinct
    (fun x hx => (hfilter x hx).readsAny hL) hends hfirst is).mono fun x hx => ?_
  rw [hx, happly]

theorem function_climbs {name : String} {args : List Expr} {fits : Expr → Bool} {distinct : Bool}
    (hname : isFunctionName name = true) (hupper : Text.upper name = name)
    (haggregate : isAggregate name = false) (hlogical : LogicalFunction.ofName? name = none)
    (hargs : FitsCall n fits args) (hdistinct : distinct = true → args ≠ []) :
    (Expr.function name args distinct).Climbs n (args.all fits) := by
  obtain ⟨i, is, hparts, -, rfl, htest⟩ := isNameOf_eq_true.1 hname
  simp only [Bool.and_eq_true, bne_iff_ne, Bool.not_eq_true', Bool.or_eq_true] at htest
  have htokens : (Expr.function (showName (i :: is)) args distinct).tokens =
      pointed (i :: is) ++ .symbol "(" :: (distinctTokens distinct ++
        (Token.commas (exprTokens args) ++ .symbol ")" :: filterTokens none)) := by
    rw [Expr.tokens, shownTokens, hparts]
    rfl
  refine call_climbs htokens htest.1.1.2 (Ident.spelled_not_mem htest.1.1.1)
    (spelled_token_not_mem htest.1.2 (by decide)) (fun rest _ => ?_) hargs hdistinct
    (fun _ hx => absurd hx (Option.not_mem_none _)) ?_
  · rw [htokens]
    cases is with
    | nil =>
      rcases htest.2 with hother | hplain
      · have hword := spelled_token_not_mem (hother.resolve_left (by simp)) (by decide)
        exact untyped_of_head (Bool.eq_false_iff.2 fun h => hword (List.contains_iff_mem.1 h))
      · exact untyped_function htest.1.1.1 hplain
    | cons j is => exact untyped_first htest.1.1.1 (.inr rfl)
  · rw [hupper, applyFunction, hlogical, haggregate]
    rfl

/-- A call by a word. -/
theorem wordCall_climbs {name : String} {args : List Expr} {fits : Expr → Bool} (distinct : Bool)
    (filter : Option Expr) (htokens : e.tokens = .word name none :: .symbol "(" ::
      (distinctTokens distinct ++ (Token.commas (exprTokens args) ++ .symbol ")" ::
        filterTokens filter)))
    (hform : Text.upper name ∉ formWords) (hcall : Text.upper name ∉ callWords)
    (huntyped : ∀ rest, Ends rest → Untyped (e.tokens ++ rest))
    (hargs : FitsCall n fits args) (hdistinct : distinct = true → args ≠ [])
    (hfilter : ∀ x ∈ filter, x.Fits n true)
    (happly : applyFunction (Text.upper name) args distinct filter = .ok e) :
    e.Climbs n (args.all fits) := by
  have hshow : showName [⟨name, none, .nowhere⟩] = name := showName_singleton rfl
  have hpointed : e.tokens = pointed [⟨name, none, .nowhere⟩] ++ .symbol "(" ::
      (distinctTokens distinct ++ (Token.commas (exprTokens args) ++ .symbol ")" ::
        filterTokens filter)) := htokens
  exact call_climbs hpointed nofun hform hcall huntyped hargs hdistinct hfilter
    (by rw [hshow, happly])

theorem aggregate_climbs {name : String} {args : List Expr} {fits : Expr → Bool} {distinct : Bool}
    {filter : Option Expr} (hname : isAggregate name = true) (hargs : FitsCall n fits args)
    (hdistinct : distinct = true → args ≠ []) (hfilter : ∀ x ∈ filter, x.Fits n true) :
    (Expr.aggregate name args distinct filter).Climbs n (args.all fits) := by
  have hall : ∀ w ∈ aggregateNames, Text.upper w ∉ formWords ∧ Text.upper w ∉ callWords ∧
      typeWords.contains (Text.upper w) = false ∧ Text.upper w = w ∧
        LogicalFunction.ofName? w = none := by
    decide
  obtain ⟨hform, hcall, htype, hupper, hlogical⟩ := hall name (List.contains_iff_mem.1 hname)
  refine wordCall_climbs distinct filter (by rw [Expr.tokens]) hform hcall (fun rest _ => ?_) hargs
    hdistinct hfilter ?_
  · rw [Expr.tokens]
    exact untyped_of_head htype
  · rw [hupper, applyFunction, hlogical, hname, Bool.not_true, Bool.and_false]
    rfl

/-- The word `DATETIME` may begin a type with a length. -/
theorem untyped_dateTime {args : List Expr} (hargs : legibleArguments args = true)
    (hends : Ends rest) :
    Untyped ((Expr.call .dateTime args).tokens ++ rest) := by
  rw [Expr.tokens, List.cons_append, List.cons_append, List.append_assoc]
  refine untyped_call rfl fun digits long u heq => ?_
  cases args with
  | nil => cases heq
  | cons e es =>
    rcases legibleArguments_eq_true.1 hargs e List.mem_cons_self with rfl | he
    · cases es <;> cases heq
    · cases es with
      | nil =>
        have hone := (e.leads he).number ([.symbol ")"] ++ rest) digits long u
          (by simpa [Token.commas, exprTokens] using heq)
        rw [← (List.cons.inj hone).2]
        exact hends
      | cons e' es =>
        have hmore := (e.leads he).number (.symbol "," :: (Token.commas (exprTokens (e' :: es)) ++
          ([.symbol ")"] ++ rest))) digits long u (by simpa [Token.commas, exprTokens] using heq)
        exact absurd (List.cons.inj hmore).1 (by decide)

theorem logicalCall_climbs {f : LogicalFunction} {args : List Expr} {fits : Expr → Bool}
    (hf : f.isReadBack = true) (hne : f ≠ .substring) (hlegible : legibleArguments args = true)
    (hargs : FitsCall n fits args) : (Expr.call f args).Climbs n (args.all fits) := by
  have hnames : ∀ w ∈ ["DATETIME", "YEAR", "QUARTER", "PRESENTATION", "ISNULL", "date_trunc",
      "date_part", "TYPEIDENTIFIER"], Text.upper w ∉ formWords ∧ Text.upper w ∉ callWords := by
    decide
  have hwords : Text.upper f.sqlName ∉ formWords ∧ Text.upper f.sqlName ∉ callWords := by
    cases f with
    | substring => exact absurd rfl hne
    | _ => exact hnames _ (by decide)
  refine wordCall_climbs false none (by rw [Expr.tokens]; rfl) hwords.1 hwords.2
    (fun rest hends => ?_) hargs nofun nofun ?_
  · cases f with
    | dateTime => exact untyped_dateTime hlegible hends
    | _ =>
      rw [Expr.tokens]
      exact untyped_of_head rfl
  · cases f with
    | dateTrunc | datePart => cases hf
    | _ => rfl

/-! Operands with an operator or a test behind them. -/

theorem binary_climbs {r : Expr} (op : BinaryOp) (hl : l.Climbs n f) (hr : r.Fits n g)
    (hopens : Opens r) (hleft : op.binding ≤ l.binding .written)
    (hright : op.binding < r.binding .written) : (Expr.binary l op r).Climbs n (f && g) := by
  refine Expr.climbs_of_operator (u := op.tokens ++ r.tokens) rfl hl hleft (by rw [Expr.tokens])
    ?_ ?_ ?_
  · intro rest
    rw [List.append_assoc]
    exact ends_operator op
  · intro rest
    rw [List.append_assoc]
    exact strengthOf_tokens op
  · intro rest x hends hstrength hx
    rw [Expr.strength_of_isInfix rfl] at hstrength
    have habove := Expr.bindsAbove_of_lt op.binding_range.2.1 hright
    have hread := hr.reads habove hends hstrength
    have hstarts := hopens rest hends
    cases hlike : isLike op with
    | false => exact extend_binary hlike hx hstarts hread
    | true =>
      have hrange : 10 * op.binding = rangeStrength := by
        cases op <;> first | rfl | cases hlike
      have htest := test_like hlike hx hstarts hends (hrange ▸ hread)
      cases op with
      | like => exact extend_test (by simp [beginWords]) (by decide) htest
      | iLike => exact extend_test (by simp [beginWords]) (by decide) htest
      | notLike => exact extend_test (by simp [beginWords]) (by decide) htest
      | notILike => exact extend_test (by simp [beginWords]) (by decide) htest
      | _ => cases hlike

theorem isNull_climbs (negated : Bool) (he : e.Climbs n f)
    (hbinding : Binding.nullTest ≤ e.binding .written) : (Expr.isNull e negated).Climbs n f := by
  rw [← Bool.and_true f]
  refine Expr.climbs_of_operator (u := .keyword "IS" :: (notTokens negated ++ [.keyword "NULL"]))
    rfl he hbinding (by rw [Expr.tokens]) (fun _ => rfl) (fun _ => rfl) ?_
  intro rest x _ _ hx
  exact extend_is (isTest_reads hx negated)

theorem inList_climbs (negated : Bool) {list : List Expr} (hne : list ≠ []) (he : e.Climbs n f)
    {fits : Expr → Bool} (hlist : ∀ x ∈ list, x.Fits n (fits x)) (hopens : ∀ x ∈ list, Opens x)
    (hbinding : Binding.membership ≤ e.binding .written) :
    (Expr.inList e list negated).Climbs n (f && list.all fits) := by
  refine Expr.climbs_of_operator (u := notTokens negated ++
    .keyword "IN" :: .symbol "(" :: (Token.commas (exprTokens list) ++ [.symbol ")"])) rfl he
    hbinding
    (by rw [Expr.tokens]) ?_ ?_ ?_
  · intro rest
    cases negated <;> rfl
  · intro rest
    cases negated <;> rfl
  · intro rest x _ _ hx
    have hitems : ∀ y ∈ list, ReadsAny (level n) (fits y) y := fun y hy =>
      (hlist y hy).readsAny ⟨rfl, rfl⟩
    exact extend_negated (by simp [beginWords]) (by decide) (test_in hx hne hitems hopens negated)

theorem inSubquery_climbs (negated : Bool) {q : Query} (he : e.Climbs n f)
    (hq : ReadsQuery (level n) q) (hbinding : Binding.membership ≤ e.binding .written) :
    (Expr.inSubquery e q negated).Climbs n f := by
  rw [← Bool.and_true f]
  refine Expr.climbs_of_operator (u := notTokens negated ++
    .keyword "IN" :: .symbol "(" :: (q.tokens ++ [.symbol ")"])) rfl he hbinding
    (by rw [Expr.tokens]) ?_ ?_ ?_
  · intro rest
    cases negated <;> rfl
  · intro rest
    cases negated <;> rfl
  · intro rest x _ _ hx
    exact extend_negated (by simp [beginWords]) (by decide) (test_inSubquery hx hq negated)

theorem between_climbs (negated : Bool) {low high : Expr} {f' : Bool} (he : e.Climbs n f)
    (hlow : low.Fits n g) (hhigh : high.Fits n f')
    (hbinding : Binding.membership ≤ e.binding .written)
    (hlowBinding : Binding.membership < low.binding .written)
    (hhighBinding : Binding.membership < high.binding .written) :
    (Expr.between e low high negated).Climbs n (f && (g && f')) := by
  refine Expr.climbs_of_operator (u := notTokens negated ++
    .keyword "BETWEEN" :: (low.tokens ++ .keyword "AND" :: high.tokens)) rfl he hbinding
    (by rw [Expr.tokens]) ?_ ?_ ?_
  · intro rest
    cases negated <;> rfl
  · intro rest
    cases negated <;> rfl
  · intro rest x hends hstrength hx
    have hproduct : Binding.membership ≤ Binding.product := by decide
    have hreadLow : ∀ rest, Reads g ((level n).expr rangeStrength) low.tokens
        (.keyword "AND" :: rest) fun y => y.interpret = .ok low := by
      intro rest
      have hand : strengthOf (.keyword "AND" :: rest) = 10 * Binding.conjunction := rfl
      refine hlow.reads (Expr.bindsAbove_of_lt hproduct hlowBinding) rfl ?_
      rw [hand]
      decide
    have hreadHigh := hhigh.reads (Expr.bindsAbove_of_lt hproduct hhighBinding) hends hstrength
    exact extend_negated (by simp [beginWords]) (by decide)
      (test_between hx hreadLow hreadHigh negated)

end LogicalSql
