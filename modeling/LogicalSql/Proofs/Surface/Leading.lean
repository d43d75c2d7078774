import LogicalSql.Proofs.Query.Legible
import LogicalSql.Proofs.Surface.Calls

/-! What an expression begins with. The words in front of it that mean something of their own are
told from it by its first two tokens. -/
namespace LogicalSql

open Surface Surface.Reader

variable {e l : Expr} {text : String} {u more rest : List Token}

theorem Query.exists_tokens {q : Query} (h : q.legible = true) :
    ∃ word more, q.tokens = .keyword word :: more ∧ (word = "SELECT" ∨ word = "WITH") := by
  cases q with
  | select s =>
    obtain ⟨distinct, projections⟩ := s
    rw [Query.tokens, Select.tokens]
    exact ⟨"SELECT", _, rfl, .inl rfl⟩
  | withCtes recursive ctes body =>
    rw [Query.tokens]
    exact ⟨"WITH", _, rfl, .inr rfl⟩
  | raw text => cases h

/-- The first tokens of the expression. Behind `NOT`, the word `EXISTS` is looked for, and in front
of a parenthesis, a number alone could be the length of a type. -/
structure Expr.Leads (e : Expr) : Prop where
  opens : Opens e
  exists_ne : e.leftmost.isExists = false →
    ∀ rest, headIs (·.isKeyword "EXISTS") (e.tokens ++ rest) = false
  number : ∀ rest digits long u,
    e.tokens ++ rest = .number digits long :: .symbol ")" :: u → rest = .symbol ")" :: u

theorem begins_word (h : Text.upper text ∉ leadingWords) : begins (.word text none) = true := by
  simp [begins, h]

theorem Expr.leads_word (htokens : e.tokens = .word text none :: more)
    (hleading : Text.upper text ∉ leadingWords) (hnull : Text.upper text ≠ "NULL")
    (hexists : e.leftmost.isExists = false → Text.upper text ≠ "EXISTS")
    (hmore : ∀ rest, Ends rest → headIs (isSymbol ".") (more ++ rest) = false) : e.Leads := by
  refine ⟨fun rest hends => ⟨?_, .inl ?_, fun h => ?_, fun h => ?_⟩, fun h rest => ?_,
    fun rest _ _ _ h => ?_⟩
  · rw [htokens]
    exact begins_word hleading
  · rw [htokens]
    exact hmore rest hends
  · rw [htokens] at h
    exact absurd h (Bool.eq_false_iff.1 (isKeyword_eq_false hnull))
  · rw [htokens] at h
    cases h
  · rw [htokens]
    exact isKeyword_eq_false (hexists h)
  · rw [htokens] at h
    cases h

theorem Expr.leads_symbol (htokens : e.tokens = .symbol text :: more)
    (hbegins : begins (.symbol text) = true)
    (hmore : ∀ rest, Ends rest → ∀ t ∈ [".", ")"], headIs (isSymbol t) (more ++ rest) = false) :
    e.Leads := by
  refine ⟨fun rest hends => ⟨?_, .inl ?_, fun h => ?_, fun _ => ?_⟩, fun _ rest => ?_,
    fun rest _ _ _ h => ?_⟩
  · rw [htokens]
    exact hbegins
  · rw [htokens]
    exact hmore rest hends _ (by decide)
  · rw [htokens] at h
    cases h
  · rw [htokens]
    exact hmore rest hends _ (by decide)
  · rw [htokens]
    rfl
  · rw [htokens] at h
    cases h

/-- An expression begins as its first operand does. -/
theorem Expr.Leads.of_operand (hl : l.Leads) (htokens : e.tokens = l.tokens ++ u)
    (hleftmost : e.leftmost = l.leftmost) (hends : ∀ rest, Ends (u ++ rest))
    (hu : ∀ rest, headIs (isSymbol ")") (u ++ rest) = false) : e.Leads := by
  refine ⟨fun rest _ => ?_, fun h rest => ?_, fun rest digits long v h => ?_⟩
  · rw [htokens, List.append_assoc]
    exact hl.opens _ (hends rest)
  · rw [htokens, List.append_assoc]
    exact hl.exists_ne (hleftmost ▸ h) _
  · rw [htokens, List.append_assoc] at h
    have hne := hu rest
    rw [hl.number _ _ _ _ h] at hne
    cases hne

theorem Literal.leads {value : Literal} (h : value.legible = true) :
    (Expr.literal value).Leads := by
  have hpoint : ∀ rest, Ends rest → headIs (isSymbol ".") ([] ++ rest) = false :=
    fun rest hends => hends.symbol_ne rfl
  cases value with
  | null =>
    refine ⟨fun rest hends => ⟨rfl, .inl (hpoint rest hends), fun _ => hends, nofun⟩,
      fun _ _ => rfl, ?_⟩
    exact nofun
  | boolean b =>
    cases b with
    | true => exact Expr.leads_word rfl (by decide) (by decide) (fun _ => by decide) hpoint
    | false => exact Expr.leads_word rfl (by decide) (by decide) (fun _ => by decide) hpoint
  | integer n | float x =>
    refine ⟨fun rest hends => ⟨rfl, .inl (hpoint rest hends), nofun, nofun⟩, fun _ _ => rfl, ?_⟩
    intro rest _ _ _ h
    exact (List.cons.inj h).2
  | string s =>
    exact ⟨fun rest hends => ⟨rfl, .inl (hpoint rest hends), nofun, nofun⟩, fun _ _ => rfl, nofun⟩
  | binary bytes => cases h

/-! Names. -/

theorem Surface.Ident.begins_token {i : Ident} (h : i.isOperand = true) :
    begins i.token = true := by
  obtain ⟨word, quote, place⟩ := i
  rw [Ident.token]
  split
  · rfl
  · cases quote with
    | some quote => rfl
    | none => exact begins_word (by simpa [Ident.spells] using (Bool.and_eq_true_iff.1 h).2)

theorem Surface.Ident.token_formWord {i : Ident} (h : i.isOperand = true) {word : String}
    (hword : word ∈ formWords) : i.token.isKeyword word = false := by
  rw [Ident.isOperand, Bool.and_eq_true, Bool.not_eq_true'] at h
  exact Ident.token_isKeyword h.1 hword

theorem Surface.isOperand_of_isOperandName {name : String} (h : isOperandName name = true) :
    Ident.isOperand ⟨name, none, .nowhere⟩ = true := by
  obtain ⟨-, hform, hleading⟩ := isOperandName_iff.1 h
  simp [Ident.isOperand, Ident.spells, hform, hleading]

/-- An expression that begins with a name. A point stands between the parts of the name alone. -/
theorem Expr.leads_name {i : Ident} {is : List Ident}
    (htokens : e.tokens = pointed (i :: is) ++ more) (hi : i.isOperand = true)
    (hmore : ∀ rest, Ends rest → headIs (isSymbol ".") (more ++ rest) = false) : e.Leads := by
  have hall : ∀ rest, e.tokens ++ rest = i.token :: (behindPoints is ++ (more ++ rest)) := by
    intro rest
    rw [htokens, List.append_assoc, pointed_append]
  refine ⟨fun rest hends => ⟨?_, .inr ⟨i, is, more ++ rest, ?_, hmore rest hends⟩, fun h => ?_,
    fun h => ?_⟩, fun _ rest => ?_, fun rest digits long u h => ?_⟩
  · rw [hall]
    exact Ident.begins_token hi
  · rw [htokens, List.append_assoc]
  · rw [hall] at h
    exact absurd h (Bool.eq_false_iff.1 (Ident.token_formWord hi (by decide)))
  · rw [hall] at h
    exact absurd h (Bool.eq_false_iff.1 (isSymbol_token i _))
  · rw [hall]
    exact Ident.token_formWord hi (by decide)
  · rw [hall] at h
    exact absurd (List.cons.inj h).1 (i.token_ne_number _ _)

theorem Expr.leads_column {table : Option String} {name : String}
    (h : isQualifiedName isColumnName isOperandName table name = true) :
    (Expr.column table name).Leads := by
  have hends : ∀ rest, Ends rest → headIs (isSymbol ".") ([] ++ rest) = false :=
    fun rest hends => hends.symbol_ne rfl
  cases table with
  | none =>
    obtain ⟨i, is, hparts, -, -, htest⟩ := isNameOf_eq_true.1 h
    simp only [Bool.and_eq_true] at htest
    have htokens : (Expr.column none name).tokens = pointed (i :: is) ++ [] := by
      rw [Expr.tokens, qualifiedTokens, shownTokens, hparts, List.append_nil]
    exact Expr.leads_name htokens htest.1.1 hends
  | some table =>
    have htable := isOperand_of_isOperandName (Bool.and_eq_true_iff.1 h).1
    have htokens : (Expr.column (some table) name).tokens =
        pointed [⟨table, none, .nowhere⟩, ⟨name, none, .nowhere⟩] ++ [] := rfl
    exact Expr.leads_name htokens htable hends

/-- No words in front of a call mean something else. -/
theorem Expr.leads_call (htokens : e.tokens = .word text none :: .symbol "(" :: more)
    (htext : Text.upper text ∉ leadingWords ∧ Text.upper text ≠ "NULL" ∧
      Text.upper text ≠ "EXISTS") :
    e.Leads :=
  Expr.leads_word htokens htext.1 htext.2.1 (fun _ => htext.2.2) fun _ _ => rfl

theorem upper_sqlName (f : LogicalFunction) : Text.upper f.sqlName ∉ leadingWords ∧
    Text.upper f.sqlName ≠ "NULL" ∧ Text.upper f.sqlName ≠ "EXISTS" := by
  cases f <;> decide

theorem upper_of_isAggregate {name : String} (h : isAggregate name = true) :
    Text.upper name ∉ leadingWords ∧ Text.upper name ≠ "NULL" ∧ Text.upper name ≠ "EXISTS" := by
  have hall : ∀ w ∈ aggregateNames,
      Text.upper w ∉ leadingWords ∧ Text.upper w ≠ "NULL" ∧ Text.upper w ≠ "EXISTS" := by
    decide
  exact hall name (List.contains_iff_mem.1 h)

theorem Expr.Leads.symbol_ne (h : e.Leads) (hends : Ends rest) :
    ∀ t ∈ [".", ")"], headIs (isSymbol t) (e.tokens ++ rest) = false := by
  have hbegins : ∀ t ∈ [".", ")"], begins (.symbol t) = false := by decide
  exact fun t ht => (h.opens rest hends).symbol_ne (hbegins t ht)

theorem Expr.leads : ∀ e : Expr, e.legible = true → e.Leads
  | .column table name, h => by
    rw [Expr.legible] at h
    exact Expr.leads_column h
  | .literal value, h => by
    rw [Expr.legible] at h
    exact Literal.leads h
  | .binary left op right, h => by
    rw [Expr.legible, Bool.and_eq_true] at h
    refine (left.leads h.1).of_operand (u := op.tokens ++ right.tokens) (by rw [Expr.tokens])
      (by rw [Expr.leftmost]) ?_ ?_
    · intro rest
      rw [List.append_assoc]
      exact ends_operator op
    · intro rest
      cases op <;> rfl
  | .unary op e, h => by
    rw [Expr.legible, Bool.and_eq_true] at h
    have hmore :
        ∀ rest, Ends rest → ∀ t ∈ [".", ")"], headIs (isSymbol t) (e.tokens ++ rest) = false :=
      fun rest hends => (e.leads h.1).symbol_ne hends
    cases op with
    | not =>
      exact Expr.leads_word (by rw [Expr.tokens]; rfl) (by decide) (by decide) (fun _ => by decide)
        fun rest hends => hmore rest hends _ (by decide)
    | minus => exact Expr.leads_symbol (by rw [Expr.tokens]; rfl) rfl hmore
    | plus => exact Expr.leads_symbol (by rw [Expr.tokens]; rfl) rfl hmore
  | .call f args, _ => Expr.leads_call (by rw [Expr.tokens]) (upper_sqlName f)
  | .function name args distinct, h => by
    simp only [Expr.legible, Bool.and_eq_true] at h
    obtain ⟨i, is, hparts, -, -, htest⟩ := isNameOf_eq_true.1 h.1.1.1.1.1
    simp only [Bool.and_eq_true] at htest
    refine Expr.leads_name (by rw [Expr.tokens, shownTokens, hparts]) htest.1.1.1 ?_
    exact fun _ _ => rfl
  | .aggregate name args distinct filter, h => by
    simp only [Expr.legible, Bool.and_eq_true] at h
    exact Expr.leads_call (by rw [Expr.tokens]) (upper_of_isAggregate h.1.1.1)
  | .case none [] otherwise, h => by
    rw [Expr.legible] at h
    cases h
  | .case none ((condition, result) :: whens) otherwise, _ =>
    Expr.leads_word (by rw [Expr.tokens, optionTokens, whenTokens]) (by decide) (by decide)
      (fun _ => by decide) fun _ _ => rfl
  | .case (some operand) whens otherwise, h => by
    simp only [Expr.legible, Bool.and_eq_true] at h
    refine Expr.leads_word (by rw [Expr.tokens]) (by decide) (by decide) (fun _ => by decide)
      fun rest _ => ?_
    have hends : Ends (whenTokens whens ++
        (optionTokens [.keyword "ELSE"] otherwise ++ [.keyword "END"]) ++ rest) := by
      cases whens with
      | nil => cases h.1.1.1
      | cons w ws => rfl
    rw [optionTokens, List.nil_append, List.append_assoc]
    exact (operand.leads h.1.1.2).symbol_ne hends _ (by decide)
  | .subquery q, h => by
    rw [Expr.legible] at h
    obtain ⟨word, more, htokens, -⟩ := Query.exists_tokens h
    exact Expr.leads_symbol (by rw [Expr.tokens, htokens]) rfl fun _ _ _ _ => rfl
  | .exists q, _ =>
    Expr.leads_word (by rw [Expr.tokens]) (by decide) (by decide) (fun h => by cases h)
      fun _ _ => rfl
  | .inList e list negated, h => by
    simp only [Expr.legible, Bool.and_eq_true] at h
    refine (e.leads h.1.2).of_operand (by rw [Expr.tokens]) (by rw [Expr.leftmost]) ?_ ?_
    · intro rest
      cases negated <;> rfl
    · intro rest
      cases negated <;> rfl
  | .inSubquery e q negated, h => by
    simp only [Expr.legible, Bool.and_eq_true] at h
    refine (e.leads h.1).of_operand (by rw [Expr.tokens]) (by rw [Expr.leftmost]) ?_ ?_
    · intro rest
      cases negated <;> rfl
    · intro rest
      cases negated <;> rfl
  | .between e low high negated, h => by
    simp only [Expr.legible, Bool.and_eq_true] at h
    refine (e.leads h.1.1).of_operand (by rw [Expr.tokens]) (by rw [Expr.leftmost]) ?_ ?_
    · intro rest
      cases negated <;> rfl
    · intro rest
      cases negated <;> rfl
  | .isNull e negated, h => by
    rw [Expr.legible] at h
    refine (e.leads h).of_operand (by rw [Expr.tokens]) (by rw [Expr.leftmost]) ?_ ?_
    · exact fun _ => rfl
    · exact fun _ => rfl
  | .cast e dataType, _ =>
    Expr.leads_word (by rw [Expr.tokens]) (by decide) (by decide) (fun _ => by decide)
      fun _ _ => rfl
  | .wildcard, h => by
    rw [Expr.legible] at h
    cases h
  | .parameter index, _ => by
    refine ⟨fun rest hends => ⟨rfl, .inl (hends.symbol_ne rfl), fun h => ?_, fun h => ?_⟩,
      fun _ _ => rfl, fun _ _ _ _ h => ?_⟩
    all_goals cases h
  | .nested e, h => by
    rw [Expr.legible] at h
    refine Expr.leads_symbol (by rw [Expr.tokens]) rfl fun rest _ => ?_
    rw [List.append_assoc]
    exact (e.leads h).symbol_ne rfl

end LogicalSql
