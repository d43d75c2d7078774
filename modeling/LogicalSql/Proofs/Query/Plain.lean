import LogicalSql.Proofs.Query.Legible
import LogicalSql.Surface.Keyword

/-! Expressions whose text is the same in every dialect. All of them are legible. -/
namespace LogicalSql

open Surface (Token)

/-- A name that needs no quotes and spells no keyword. -/
def isPlainName (name : String) : Bool :=
  Surface.isWord name && (Token.word name none).isPlainWord

/-- The name of a function that is called as it stands. -/
def isPlainFunction (name : String) : Bool :=
  isPlainName name && Text.upper name == name && !Surface.isAggregate name &&
    (LogicalFunction.ofName? name).isNone

/-- Columns, constants other than fractions and bytes, operators, tests, cases and calls. -/
inductive Expr.Plain : Expr → Prop
  | column {name : String} : isPlainName name = true → Plain (.column none name)
  | qualified {table name : String} : isPlainName table = true → isPlainName name = true →
    Plain (.column (some table) name)
  | null : Plain (.literal .null)
  | boolean (b : Bool) : Plain (.literal (.boolean b))
  | natural {n : Nat} : n < 0x8000000000000000 → Plain (.literal (.integer n))
  | string (s : String) : Plain (.literal (.string s))
  | binary {left right : Expr} (op : BinaryOp) : Plain left → Plain right →
    Plain (.binary left op right)
  | unary {e : Expr} (op : UnaryOp) : Plain e → Plain (.unary op e)
  | nested {e : Expr} : Plain e → Plain (.nested e)
  | isNull {e : Expr} (negated : Bool) : Plain e → Plain (.isNull e negated)
  | between {e low high : Expr} (negated : Bool) : Plain e → Plain low → Plain high →
    Plain (.between e low high negated)
  | inList {e : Expr} {list : List Expr} (negated : Bool) : Plain e → list ≠ [] →
    (∀ x ∈ list, Plain x) → Plain (.inList e list negated)
  | case {operand : Option Expr} {whens : List (Expr × Expr)} {otherwise : Option Expr} :
    (∀ x ∈ operand, Plain x) → whens ≠ [] → (∀ w ∈ whens, Plain w.1) → (∀ w ∈ whens, Plain w.2) →
    (∀ x ∈ otherwise, Plain x) → Plain (.case operand whens otherwise)
  | function {name : String} {args : List Expr} : isPlainFunction name = true →
    (∀ x ∈ args, Plain x) → Plain (.function name args false)

/-! Plain expressions are legible. -/

variable {e : Expr} {name : String}

theorem isPlainName_of_isPlainFunction (h : isPlainFunction name = true) :
    isPlainName name = true := by
  simp only [isPlainFunction, Bool.and_eq_true] at h
  exact h.1.1.1

theorem upper_not_mem_keywords (h : isPlainName name = true) :
    Text.upper name ∉ Surface.keywords := by
  have hplain := (Bool.and_eq_true_iff.1 h).2
  simpa [Token.isPlainWord] using hplain

theorem isOperandName_of_isPlainName (h : isPlainName name = true) :
    Surface.isOperandName name = true := by
  have hkeyword := upper_not_mem_keywords h
  have hform : Text.upper name ∉ Surface.formWords := fun hmem =>
    hkeyword (Surface.formWords_subset hmem)
  have hleading : Text.upper name ∉ Surface.leadingWords := fun hmem =>
    hkeyword (Surface.leadingWords_subset hmem)
  simp [Surface.isOperandName, (Bool.and_eq_true_iff.1 h).1, hform, hleading]

theorem isColumnName_of_isPlainName (h : isPlainName name = true) :
    Surface.isColumnName name = true :=
  Surface.isColumnName_of_isOperandName (isOperandName_of_isPlainName h)

theorem isFunctionName_of_isPlainName (h : isPlainName name = true) :
    Surface.isFunctionName name = true := by
  obtain ⟨hword, hform, hleading⟩ := Surface.isOperandName_iff.1 (isOperandName_of_isPlainName h)
  have htype : Text.upper name ∉ Surface.typeWords := fun hmem =>
    upper_not_mem_keywords h (Surface.typeWords_subset hmem)
  have hcall : Text.upper name ∉ Surface.callWords := fun hmem =>
    upper_not_mem_keywords h (Surface.callWords_subset hmem)
  refine Surface.isNameOf_of_isWord hword ?_
  simp [Surface.Ident.isOperand, Surface.Ident.spells, hform, hleading, htype, hcall]

theorem Expr.Plain.leftmost (he : e.Plain) : e.leftmost.isExists = false := by
  induction he with
  | binary _ _ _ ih => exact ih
  | isNull _ _ ih => exact ih
  | between _ _ _ _ ih => exact ih
  | inList _ _ _ _ ih => exact ih
  | _ => rfl

theorem Expr.Plain.legible (he : e.Plain) : e.legible = true := by
  induction he with
  | column hname => exact isColumnName_of_isPlainName hname
  | qualified htable hname =>
    rw [Expr.legible, isQualifiedName, isOperandName_of_isPlainName htable,
      (Bool.and_eq_true_iff.1 hname).1, Bool.and_self]
  | null | boolean | string => rfl
  | natural hn =>
    simp only [Expr.legible, Literal.legible, Bool.and_eq_true, decide_eq_true_eq]
    omega
  | binary op _ _ ihleft ihright => rw [Expr.legible, ihleft, ihright, Bool.and_self]
  | unary op he ih =>
    rw [Expr.legible, ih, UnaryOp.takes, he.leftmost]
    simp
  | nested _ ih => rwa [Expr.legible]
  | isNull _ _ ih => rwa [Expr.legible]
  | between _ _ _ _ ih ihlow ihhigh =>
    rw [Expr.legible, ih, ihlow, ihhigh, Bool.and_self, Bool.and_self]
  | inList _ _ hne _ ih ihlist => simp [Expr.legible, hne, ih, legibleExprs_eq_true.2 ihlist]
  | case _ hne _ _ _ ihoperand ihconditions ihresults ihotherwise =>
    have hwhens := legibleWhens_eq_true.2 fun w hw => ⟨ihconditions w hw, ihresults w hw⟩
    simp [Expr.legible, hne, hwhens, legibleOption_eq_true.2 ihoperand,
      legibleOption_eq_true.2 ihotherwise]
  | function hname _ ih =>
    have hcall := isFunctionName_of_isPlainName (isPlainName_of_isPlainFunction hname)
    have hargs := legibleArguments_eq_true.2 fun x hx => .inr (ih x hx)
    simp only [isPlainFunction, Bool.and_eq_true] at hname
    rw [Expr.legible, hcall, hname.1.1.2, hname.1.2, hname.2, hargs]
    rfl

end LogicalSql
