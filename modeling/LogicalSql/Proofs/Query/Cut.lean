import LogicalSql.Proofs.Query.Legible
import LogicalSql.Proofs.Query.Tokens

/-! The text of a legible query is cut into its tokens. -/
namespace LogicalSql

open Surface Surface.Token

namespace Cut

variable {cs ds : List Char} {ks ls : List Token} {name : String}

theorem notSql (negated : Bool) (h : Cut cs ks) :
    Cut ((LogicalSql.notSql negated).toList ++ cs) (notTokens negated ++ ks) := by
  cases negated with
  | false => exact h
  | true => exact h.keyword "NOT" (by decide)

theorem distinctSql (distinct : Bool) (h : Cut cs ks) :
    Cut ((LogicalSql.distinctSql distinct).toList ++ cs) (distinctTokens distinct ++ ks) := by
  cases distinct with
  | false => exact h
  | true => exact h.keyword "DISTINCT" (by decide)

theorem operator (op : BinaryOp) (h : Cut cs ks) :
    Cut (op.sql.toList ++ ' ' :: cs) (op.tokens ++ ks) := by
  cases op with
  | and => exact h.keyword "AND" (by decide)
  | or => exact h.keyword "OR" (by decide)
  | like => exact h.keyword "LIKE" (by decide)
  | iLike => exact h.keyword "ILIKE" (by decide)
  | notLike => exact (h.keyword "LIKE" (by decide)).keyword "NOT" (by decide)
  | notILike => exact (h.keyword "ILIKE" (by decide)).keyword "NOT" (by decide)
  | eq => exact h.sign '=' [] (by decide) fun _ => rfl
  | notEq => exact h.sign '<' ['>'] (by decide) fun _ => rfl
  | lt => exact h.sign '<' [] (by decide) fun _ => rfl
  | ltEq => exact h.sign '<' ['='] (by decide) fun _ => rfl
  | gt => exact h.sign '>' [] (by decide) fun _ => rfl
  | gtEq => exact h.sign '>' ['='] (by decide) fun _ => rfl
  | plus => exact h.sign '+' [] (by decide) fun _ => rfl
  | minus => exact h.sign '-' [] (by decide) fun _ => rfl
  | multiply => exact h.sign '*' [] (by decide) fun _ => rfl
  | divide => exact h.sign '/' [] (by decide) fun _ => rfl
  | modulo => exact h.sign '%' [] (by decide) fun _ => rfl
  | concat => exact h.sign '|' ['|'] (by decide) fun _ => rfl

theorem unary (op : UnaryOp) (h : Cut cs ks) :
    Cut (op.sql.toList ++ ' ' :: cs) (op.token :: ks) := by
  cases op with
  | not => exact h.keyword "NOT" (by decide)
  | minus => exact h.sign '-' [] (by decide) fun _ => rfl
  | plus => exact h.sign '+' [] (by decide) fun _ => rfl

/-- A name that is shown as its text. -/
theorem shown {test : Ident → List Ident → Bool} (h : isNameOf test name = true) :
    Cut name.toList (shownTokens name) := by
  obtain ⟨i, is, hparts, hlegible, hshow, -⟩ := isNameOf_eq_true.1 h
  rw [shownTokens, hparts, ← hshow]
  exact .pointed hlegible

theorem shownCall {test : Ident → List Ident → Bool} (h : isNameOf test name = true)
    (h' : Cut cs ks) :
    Cut (name.toList ++ '(' :: (cs ++ [')']))
      (shownTokens name ++ .symbol "(" :: (ks ++ [.symbol ")"])) := by
  obtain ⟨i, is, hparts, hlegible, hshow, -⟩ := isNameOf_eq_true.1 h
  rw [shownTokens, hparts, ← hshow]
  exact behind (CutsTo.name hlegible) (bracket_not_mem_pointed _) h'.parenthesized
    (by simp [endsWord])

/-- A star behind a point. -/
theorem starOf {test : Ident → List Ident → Bool} (h : isNameOf test name = true) :
    Cut (name.toList ++ ['.', '*']) (shownTokens name ++ [.symbol ".", .symbol "*"]) := by
  obtain ⟨i, is, hparts, hlegible, hshow, -⟩ := isNameOf_eq_true.1 h
  have hstar : Cut ['.', '*'] [.symbol ".", .symbol "*"] :=
    ⟨fun _ => brackets_of_not_mem (by simp), fun rest ts hrest hts =>
      .point (by simp) (Cut.star.lexes rest ts hrest hts)⟩
  rw [shownTokens, hparts, ← hshow]
  exact behind (CutsTo.name hlegible) (bracket_not_mem_pointed _) hstar (by simp [endsWord])

theorem qualifiedSql {qualifier : Option String} {isFirst : String → Bool}
    {test : Ident → List Ident → Bool} (hfirst : ∀ name, isFirst name = true → isWord name = true)
    (h : isQualifiedName (isNameOf test) isFirst qualifier name = true) :
    Cut (LogicalSql.qualifiedSql qualifier name).toList (qualifiedTokens qualifier name) := by
  cases qualifier with
  | none => exact shown h
  | some qualifier =>
    have hwords := Bool.and_eq_true_iff.1 h
    have hparts :
        ∀ i ∈ [⟨qualifier, none, .nowhere⟩, ⟨name, none, .nowhere⟩], Ident.legible i = true := by
      simpa [Ident.legible] using ⟨hfirst _ hwords.1, hwords.2⟩
    simpa [LogicalSql.qualifiedSql, qualifiedTokens, showName, Ident.show, Surface.pointed,
      behindPoints, Ident.token_word] using Cut.pointed hparts

theorem aliasSql {a : Option String} (h : Cut cs ks) (ha : a.all isWord = true) :
    Cut (cs ++ (LogicalSql.aliasSql a).toList) (ks ++ aliasTokens a) := by
  cases a with
  | none => simpa [LogicalSql.aliasSql, aliasTokens] using h
  | some a =>
    have has := (Cut.word a ha).keyword "AS" (by decide)
    simpa [LogicalSql.aliasSql, aliasTokens] using h.spaced has

theorem sortSql (h : Cut cs ks) (ascending nullsFirst : Option Bool) :
    Cut (cs ++ (LogicalSql.sortSql ascending nullsFirst).toList)
      (ks ++ sortTokens ascending nullsFirst) := by
  have hnulls : ∀ {cs ks}, Cut cs ks →
      Cut (cs ++ (LogicalSql.sortSql none nullsFirst).toList)
      (ks ++ sortTokens none nullsFirst) := by
    intro cs ks h
    cases nullsFirst with
    | none => simpa [LogicalSql.sortSql, sortTokens] using h
    | some first =>
      cases first with
      | true => exact h.spaced ((Cut.word "FIRST" (by decide)).keyword "NULLS" (by decide))
      | false => exact h.spaced ((Cut.word "LAST" (by decide)).keyword "NULLS" (by decide))
  cases ascending with
  | none => exact hnulls h
  | some ascending =>
    cases ascending with
    | true =>
      simpa [LogicalSql.sortSql, sortTokens] using
        hnulls (h.spaced (Cut.word "ASC" (by decide)))
    | false =>
      simpa [LogicalSql.sortSql, sortTokens] using
        hnulls (h.spaced (Cut.word "DESC" (by decide)))

end Cut

variable {texts us : List String} {parts : List (List Token)} {ks ls : List Token}

theorem cuts_names {names : List String} (h : names.all isWord = true) :
    Cut (LogicalSql.commaList names).toList (nameTokens names) :=
  .commaList fun name hname => .word name (List.all_eq_true.1 h name hname)

theorem cuts_shown {columns : List String} (h : columns.all isPartName = true) :
    Cut (LogicalSql.commaList columns).toList (commas (columns.map shownTokens)) :=
  .commaList fun column hcolumn => .shown (List.all_eq_true.1 h column hcolumn)

theorem CutClauses.listClause (keyword : String) (before : List Token)
    (hkeyword : ∀ {cs ks}, Cut cs ks → Cut (keyword.toList ++ ' ' :: cs) (before ++ ks))
    (h : Cuts texts parts) :
    CutClauses (LogicalSql.listClause keyword texts) (clause before parts) := by
  have hlist := hkeyword h.commaList
  cases h with
  | nil => exact nil
  | cons => exact single (by simpa [LogicalSql.listClause, clause] using hlist)

/-! Words. -/

theorem isWord_of_isOperandName {name : String} (h : isOperandName name = true) :
    isWord name = true := by
  simp only [isOperandName, Bool.and_eq_true] at h
  exact h.1.1

theorem isWord_of_isTableName {name : String} (h : isTableName name = true) : isWord name = true :=
  (Bool.and_eq_true_iff.1 h).1

theorem isWord_sqlName (f : LogicalFunction) : isWord f.sqlName = true := by cases f <;> decide

theorem isWord_of_isAggregate {name : String} (h : isAggregate name = true) :
    isWord name = true := by
  have hall : ∀ w ∈ aggregateNames, isWord w = true := by decide
  exact hall name (List.contains_iff_mem.1 h)

theorem Literal.cut {value : Literal} (h : value.legible = true) :
    Cut value.sql.toList value.tokens := by
  cases value with
  | null => exact .word "NULL" (by decide)
  | boolean b =>
    cases b with
    | true => exact .word "TRUE" (by decide)
    | false => exact .word "FALSE" (by decide)
  | integer n =>
    simp only [Literal.legible, Bool.and_eq_true, decide_eq_true_eq] at h
    obtain ⟨k, rfl⟩ := Int.eq_ofNat_of_zero_le h.1
    exact .of_cutsTo (.number (isNumber_toString k)) (by simp [Literal.tokens])
  | string text => exact .of_cutsTo (CutsTo.string text).piece (by simp [Literal.tokens])
  | float x => exact .of_cutsTo (.number (Bool.and_eq_true_iff.1 h).1) (by simp [Literal.tokens])
  | binary bytes => cases h

theorem JoinKind.cut (kind : JoinKind) : Cut kind.sql.toList kind.tokens := by
  have hjoin : Cut "JOIN".toList [.keyword "JOIN"] := .word "JOIN" (by decide)
  cases kind with
  | inner => exact hjoin
  | left => exact hjoin.keyword "LEFT" (by decide)
  | right => exact hjoin.keyword "RIGHT" (by decide)
  | full => exact hjoin.keyword "FULL" (by decide)
  | cross => exact hjoin.keyword "CROSS" (by decide)

/-! The parts of a case start with a space each. -/

theorem whenTexts_head? (whens : List (Expr × Expr)) :
    ∀ c ∈ (whenTexts whens).toList.head?, endsPiece c = true := by
  cases whens <;> simp [whenTexts, endsPiece]

theorem optionText_head? {before after : String} (o : Option Expr)
    (h : before.toList.head? = some ' ') :
    ∀ c ∈ (optionText before after o).toList.head?, endsPiece c = true := by
  cases o with
  | none => simp [optionText]
  | some e => simp [optionText, h, endsPiece]

/-! Main statement, by recursion over the parts. -/

mutual

theorem Query.cut : ∀ q : Query, q.legible = true → Cut q.sql.toList q.tokens
  | .select s, h => by
    rw [Query.legible] at h
    rw [Query.sql, Query.tokens]
    exact s.cut h
  | .withCtes recursive ctes body, h => by
    simp only [Query.legible, Bool.and_eq_true] at h
    have hparts := (cteTexts_cut ctes h.1.1.2).commaList.spaced (body.cut h.2)
    cases recursive with
    | false =>
      simpa [Query.sql, Query.tokens] using hparts.keyword "WITH" (by decide)
    | true =>
      simpa [Query.sql, Query.tokens] using
        (hparts.keyword "RECURSIVE" (by decide)).keyword "WITH" (by decide)
  | .raw text, h => by
    rw [Query.legible] at h
    cases h

theorem cteTexts_cut : ∀ cs : List Cte, legibleCtes cs = true → Cuts (cteTexts cs) (cteTokens cs)
  | [], _ => .nil
  | ⟨name, columns, query⟩ :: cs, h => by
    simp only [legibleCtes, Bool.and_eq_true] at h
    refine .cons ?_ (cteTexts_cut cs h.2)
    have has := (query.cut h.1.2).parenthesized.keyword "AS" (by decide)
    cases columns with
    | nil =>
      simpa [Cte.sql, Cte.tokens, columnTokens] using (Cut.word name h.1.1.1).spaced has
    | cons column columns =>
      have hcolumns := (cuts_names h.1.1.2).call name h.1.1.1
      simpa [Cte.sql, Cte.tokens, columnTokens] using hcolumns.spaced has

theorem Select.cut : ∀ s : Select, s.legible = true → Cut s.sql.toList s.tokens
  | ⟨distinct, projections, sources, joins, filter, groupBy, having, orderBy, limit, offset,
      setOperation⟩, h => by
    simp only [Select.legible, Bool.and_eq_true, and_assoc] at h
    obtain ⟨hne, hprojections, hsources, -, hjoins, hfilter, hgroupBy, hhaving, horderBy, hlimit,
      hoffset, hrest⟩ := h
    have hitems := (itemTexts_cut projections hprojections).commaList.distinctSql distinct
    have hselect : Cut ("SELECT " ++ distinctSql distinct ++
        (if projections.isEmpty then "*" else commaList (itemTexts projections))).toList
        (.keyword "SELECT" :: (distinctTokens distinct ++ commas (itemTokens projections))) := by
      rw [if_neg (by simpa using hne)]
      simpa using hitems.keyword "SELECT" (by decide)
    have hclauses := (CutClauses.single hselect).append <|
      (CutClauses.listClause "FROM" [.keyword "FROM"] (.keyword "FROM" (by decide))
        (sourceTexts_cut sources hsources)).append <|
      (joinTexts_cut joins hjoins).append <|
      (clauseText_cut "WHERE" (by decide) filter hfilter).append <|
      (CutClauses.listClause "GROUP BY" [.keyword "GROUP", .keyword "BY"]
        (fun h => (h.keyword "BY" (by decide)).keyword "GROUP" (by decide))
        (exprTexts_cut groupBy (legibleArguments_of_legibleExprs hgroupBy))).append <|
      (clauseText_cut "HAVING" (by decide) having hhaving).append <|
      (setOperationText_cut setOperation hrest).append <|
      (CutClauses.listClause "ORDER BY" [.keyword "ORDER", .keyword "BY"]
        (fun h => (h.keyword "BY" (by decide)).keyword "ORDER" (by decide))
        (orderTexts_cut orderBy horderBy)).append <|
      (clauseText_cut "LIMIT" (by decide) limit hlimit).append
        (clauseText_cut "OFFSET" (by decide) offset hoffset)
    rw [Select.sql, Select.tokens]
    simpa only [List.append_assoc, List.cons_append] using hclauses.intercalate

theorem setOperationText_cut : ∀ o : Option SetOperation, legibleRest o = true →
    CutClauses (setOperationText o) (setOperationTokens o)
  | none, _ => .nil
  | some ⟨op, all, right⟩, h => by
    rw [legibleRest, Bool.and_eq_true] at h
    have hright := right.cut h.2
    have hop : ∀ {cs ks}, Cut cs ks → Cut (op.sql.toList ++ ' ' :: cs) (.keyword op.sql :: ks) :=
      fun h => h.keyword op.sql (by cases op <;> decide)
    refine .single ?_
    cases all with
    | false => simpa [setOperationTokens] using hop hright
    | true => simpa [setOperationTokens] using hop (hright.keyword "ALL" (by decide))

theorem clauseText_cut (keyword : String) (hkeyword : isWord keyword = true) : ∀ o : Option Expr,
    legibleOption o = true → CutClauses (clauseText keyword o) (optionTokens [.keyword keyword] o)
  | none, _ => .nil
  | some e, h => by
    rw [legibleOption] at h
    refine .single ?_
    simpa [optionTokens] using (e.cut h).keyword keyword hkeyword

theorem itemTexts_cut : ∀ is : List SelectItem, legibleItems is = true →
    Cuts (itemTexts is) (itemTokens is)
  | [], _ => .nil
  | i :: is, h => by
    rw [legibleItems, Bool.and_eq_true] at h
    exact .cons (i.cut h.1) (itemTexts_cut is h.2)

theorem SelectItem.cut : ∀ i : SelectItem, i.legible = true → Cut i.sql.toList i.tokens
  | .wildcard, _ => .star
  | .wildcardOf table, h => by
    rw [SelectItem.legible] at h
    simpa [SelectItem.sql, SelectItem.tokens] using Cut.starOf h
  | .expr e a, h => by
    rw [SelectItem.legible, Bool.and_eq_true] at h
    simpa [SelectItem.sql, SelectItem.tokens] using (e.cut h.1).aliasSql h.2

theorem orderTexts_cut : ∀ os : List OrderItem, legibleOrder os = true →
    Cuts (orderTexts os) (orderTokens os)
  | [], _ => .nil
  | ⟨e, ascending, nullsFirst⟩ :: os, h => by
    rw [legibleOrder, Bool.and_eq_true] at h
    refine .cons ?_ (orderTexts_cut os h.2)
    simpa using (e.cut h.1).sortSql ascending nullsFirst

theorem sourceTexts_cut : ∀ ss : List Source, legibleSources ss = true →
    Cuts (sourceTexts ss) (sourceTokens ss)
  | [], _ => .nil
  | s :: ss, h => by
    rw [legibleSources, Bool.and_eq_true] at h
    exact .cons (s.cut h.1) (sourceTexts_cut ss h.2)

theorem Source.cut : ∀ s : Source, s.legible = true → Cut s.sql.toList s.tokens
  | .table schema name a, h => by
    rw [Source.legible, Bool.and_eq_true] at h
    have hname := Cut.qualifiedSql (fun _ => isWord_of_isTableName) h.1
    simpa [Source.sql, Source.tokens] using hname.aliasSql h.2
  | .subquery query a, h => by
    rw [Source.legible, Bool.and_eq_true] at h
    simpa [Source.sql, Source.tokens] using
      (query.cut h.1).parenthesized.aliasSql (a := some a) h.2
  | .function name args a, h => by
    simp only [Source.legible, Bool.and_eq_true] at h
    have hcall := Cut.shownCall h.1.1 (exprTexts_cut args h.1.2).commaList
    simpa [Source.sql, Source.tokens] using hcall.aliasSql h.2

theorem joinTexts_cut : ∀ js : List Join, legibleJoins js = true →
    CutClauses (joinTexts js) (joinTokens js)
  | [], _ => .nil
  | ⟨kind, source, condition⟩ :: js, h => by
    simp only [legibleJoins, Bool.and_eq_true] at h
    refine .cons ?_ (joinTexts_cut js h.2)
    have hjoin : Cut (kind.sql ++ " " ++ source.sql).toList (kind.tokens ++ source.tokens) := by
      simpa using kind.cut.spaced (source.cut h.1.1.1)
    cases condition with
    | none =>
      rw [Join.sql, Join.tokens]
      exact hjoin
    | some condition =>
      rw [Join.sql, Join.tokens]
      exact condition.cut hjoin h.1.2

theorem JoinCondition.cut {text : String} {tokens : List Token} (hjoin : Cut text.toList tokens) :
    ∀ c : JoinCondition, legibleCondition (some c) = true →
      Cut (c.sql text).toList (c.tokens tokens)
  | .on e, h => by
    rw [legibleCondition] at h
    simpa [JoinCondition.sql, JoinCondition.tokens] using
      hjoin.spaced ((e.cut h).keyword "ON" (by decide))
  | .using columns, h => by
    rw [legibleCondition, Bool.and_eq_true] at h
    simpa [JoinCondition.sql, JoinCondition.tokens] using
      hjoin.spaced ((cuts_shown h.2).parenthesized.keyword "USING" (by decide))
  | .natural, _ => by
    simpa [JoinCondition.sql, JoinCondition.tokens] using hjoin.keyword "NATURAL" (by decide)

theorem exprTexts_cut : ∀ es : List Expr, legibleArguments es = true →
    Cuts (exprTexts es) (exprTokens es)
  | [], _ => .nil
  | e :: es, h => by
    rw [legibleArguments, Bool.and_eq_true, Bool.or_eq_true] at h
    refine .cons ?_ (exprTexts_cut es h.2)
    rcases h.1 with hstar | hlegible
    · cases e with
      | wildcard => exact .star
      | _ => cases hstar
    · exact e.cut hlegible

theorem whenTexts_cut : ∀ ws : List (Expr × Expr), legibleWhens ws = true →
    Cut (whenTexts ws).toList (whenTokens ws)
  | [], _ => .nil
  | (condition, result) :: ws, h => by
    simp only [legibleWhens, Bool.and_eq_true] at h
    have hmore := (result.cut h.1.2).append (whenTexts_cut ws h.2) (whenTexts_head? ws)
    have hthen := (condition.cut h.1.1).spaced (hmore.keyword "THEN" (by decide))
    simpa [whenTexts, whenTokens] using (hthen.keyword "WHEN" (by decide)).space

theorem optionText_cut (before : String) (ks : List Token)
    (hbefore : ∀ {cs ts}, Cut cs ts → Cut (before.toList ++ cs) (ks ++ ts)) :
    ∀ o : Option Expr, legibleOption o = true →
    Cut (optionText before "" o).toList (optionTokens ks o)
  | none, _ => .nil
  | some e, h => by
    rw [legibleOption] at h
    simpa [optionText, optionTokens] using hbefore (e.cut h)

theorem Expr.cut : ∀ e : Expr, e.legible = true → Cut e.sql.toList e.tokens
  | .column table name, h => by
    rw [Expr.legible] at h
    rw [Expr.sql, Expr.tokens]
    exact .qualifiedSql (fun _ => isWord_of_isOperandName) h
  | .literal value, h => by
    rw [Expr.legible] at h
    rw [Expr.sql, Expr.tokens]
    exact Literal.cut h
  | .binary left op right, h => by
    rw [Expr.legible, Bool.and_eq_true] at h
    simpa [Expr.sql, Expr.tokens] using (left.cut h.1).spaced ((right.cut h.2).operator op)
  | .unary op e, h => by
    rw [Expr.legible, Bool.and_eq_true] at h
    simpa [Expr.sql, Expr.tokens] using (e.cut h.1).unary op
  | .call f args, h => by
    have hargs : legibleArguments args = true := by
      cases f with
      | substring =>
        simp only [Expr.legible, Bool.and_eq_true] at h
        exact legibleArguments_of_legibleExprs h.2
      | _ =>
        simp only [Expr.legible, Bool.and_eq_true] at h
        exact h.2
    simpa [Expr.sql, Expr.tokens] using (exprTexts_cut args hargs).commaList.call f.sqlName
      (isWord_sqlName f)
  | .function name args distinct, h => by
    simp only [Expr.legible, Bool.and_eq_true] at h
    have hargs := (exprTexts_cut args h.2).commaList.distinctSql distinct
    simpa [Expr.sql, Expr.tokens] using Cut.shownCall h.1.1.1.1.1 hargs
  | .aggregate name args distinct none, h => by
    simp only [Expr.legible, Bool.and_eq_true] at h
    have hargs := (exprTexts_cut args h.1.2).commaList.distinctSql distinct
    simpa [Expr.sql, Expr.tokens, optionText, filterTokens] using
      hargs.call name (isWord_of_isAggregate h.1.1.1)
  | .aggregate name args distinct (some e), h => by
    simp only [Expr.legible, legibleOption, Bool.and_eq_true] at h
    have hargs := (exprTexts_cut args h.1.2).commaList.distinctSql distinct
    have hwhere := ((e.cut h.2).keyword "WHERE" (by decide)).parenthesized
    simpa [Expr.sql, Expr.tokens, optionText, filterTokens] using
      (hargs.call name (isWord_of_isAggregate h.1.1.1)).spaced (hwhere.keyword "FILTER" (by decide))
  | .case operand whens otherwise, h => by
    simp only [Expr.legible, Bool.and_eq_true] at h
    have hoperand := optionText_cut " " [] Cut.space operand h.1.1.2
    have hwhens := whenTexts_cut whens h.1.2
    have helse := optionText_cut " ELSE " [.keyword "ELSE"]
      (fun h => (h.keyword "ELSE" (by decide)).space) otherwise h.2
    have hcase :=
      (((Cut.word "CASE" (by decide)).append hoperand (optionText_head? operand rfl)).append hwhens
        (whenTexts_head? whens)).append helse (optionText_head? otherwise rfl)
    simpa [Expr.sql, Expr.tokens] using hcase.spaced (Cut.word "END" (by decide))
  | .subquery q, h => by
    rw [Expr.legible] at h
    simpa [Expr.sql, Expr.tokens] using (q.cut h).parenthesized
  | .exists q, h => by
    rw [Expr.legible] at h
    simpa [Expr.sql, Expr.tokens] using (q.cut h).parenthesized.keyword "EXISTS" (by decide)
  | .inList e list negated, h => by
    simp only [Expr.legible, Bool.and_eq_true] at h
    have hlist :=
      (exprTexts_cut list (legibleArguments_of_legibleExprs h.2)).commaList.parenthesized
    have hin := (hlist.keyword "IN" (by decide)).notSql negated
    simpa [Expr.sql, Expr.tokens] using (e.cut h.1.2).spaced hin
  | .inSubquery e q negated, h => by
    rw [Expr.legible, Bool.and_eq_true] at h
    have hin := ((q.cut h.2).parenthesized.keyword "IN" (by decide)).notSql negated
    simpa [Expr.sql, Expr.tokens] using (e.cut h.1).spaced hin
  | .between e low high negated, h => by
    simp only [Expr.legible, Bool.and_eq_true] at h
    have hbounds := (low.cut h.1.2).spaced ((high.cut h.2).keyword "AND" (by decide))
    have hbetween := (hbounds.keyword "BETWEEN" (by decide)).notSql negated
    simpa [Expr.sql, Expr.tokens] using (e.cut h.1.1).spaced hbetween
  | .isNull e negated, h => by
    rw [Expr.legible] at h
    have hnull := ((Cut.word "NULL" (by decide)).notSql negated).keyword "IS" (by decide)
    simpa [Expr.sql, Expr.tokens] using (e.cut h).spaced hnull
  | .cast e dataType, h => by
    rw [Expr.legible, Bool.and_eq_true] at h
    obtain ⟨type, hlegible, hshow, htokens⟩ := exists_of_isTypeText h.2
    have htype := (DataType.cut_closed hlegible).keyword "AS" (by decide)
    have hword : CutsTo endsWord "CAST".toList [.keyword "CAST"] := .word (by decide)
    have hcast := Cut.behind hword (by simp) ((e.cut h.1).spaced htype).opening (by simp [endsWord])
    subst hshow
    simpa [Expr.sql, Expr.tokens, htokens] using hcast
  | .wildcard, h => by
    rw [Expr.legible] at h
    cases h
  | .parameter index, _ => by
    simpa [Expr.sql, Expr.tokens] using Cut.placeholder index
  | .nested e, h => by
    rw [Expr.legible] at h
    simpa [Expr.sql, Expr.tokens] using (e.cut h).parenthesized

end

end LogicalSql
