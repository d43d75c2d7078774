import LogicalSql.Proofs.Query.Cut
import LogicalSql.Proofs.Surface.Chains
import LogicalSql.Proofs.Surface.Leading

/-! How whole queries are read, given how their parts are: the tables in front of a chain of
selections and the clauses behind it. -/
namespace LogicalSql.Surface.Reader

variable {L : Level} {rest : List Token}

/-! Order. -/

theorem sortTokens_eq (ascending nullsFirst : Option Bool) :
    sortTokens ascending nullsFirst = sortTokens ascending none ++ sortTokens none nullsFirst := by
  simp [sortTokens]

theorem nullsFirst?_reads (nullsFirst : Option Bool)
    (hrest : headIs (·.isKeyword "NULLS") rest = false) :
    Reads true nullsFirst? (sortTokens none nullsFirst) rest (· = nullsFirst) := by
  obtain _ | _ | _ := nullsFirst
  · refine Reads.ite_false (u := []) (keywords_miss hrest) ?_
    exact Reads.ite_false (u := []) (keywords_miss hrest) (.pure rfl)
  · have hfirst : Reads true (Reader.keywords ["NULLS", "FIRST"]) []
        ([.keyword "NULLS", .keyword "LAST"] ++ rest) (· = false) := by
      refine keywords_of_startsWith fun ls hls => ?_
      obtain ⟨l, ls, rfl, -, hls⟩ := List.map_eq_cons_iff.1 hls
      obtain ⟨l', ls, rfl, hl', -⟩ := List.map_eq_cons_iff.1 hls
      rw [startsWith, startsWith, hl', isKeyword_eq_false (by decide), Bool.false_and,
        Bool.and_false]
    refine Reads.ite_false hfirst ?_
    exact Reads.ite_true (u := []) (keywords_hit ["NULLS", "LAST"] (by decide)) (.pure rfl)
  · exact Reads.ite_true (u := []) (keywords_hit ["NULLS", "FIRST"] (by decide)) (.pure rfl)

theorem ascending?_reads (ascending nullsFirst : Option Bool)
    (hrest : ∀ w ∈ ["ASC", "DESC"], headIs (·.isKeyword w) rest = false) :
    Reads true ascending? (sortTokens ascending none) (sortTokens none nullsFirst ++ rest)
      (· = ascending) := by
  obtain _ | _ | _ := ascending
  · have hmiss : ∀ w ∈ ["ASC", "DESC"],
        headIs (·.isKeyword w) (sortTokens none nullsFirst ++ rest) = false := by
      have hnulls : ∀ w ∈ ["ASC", "DESC"], Text.upper "NULLS" ≠ w := by decide
      obtain _ | _ | _ := nullsFirst
      · exact hrest
      · exact fun w hw => isKeyword_eq_false (hnulls w hw)
      · exact fun w hw => isKeyword_eq_false (hnulls w hw)
    refine (oneOf?_miss hmiss).look (u := []) ?_
    rintro _ rfl
    exact .pure rfl
  · refine (oneOf?_hit (List.contains_iff_mem.2 (by decide)) rfl).step (u := []) ?_
    rintro _ rfl
    exact .pure rfl
  · refine (oneOf?_hit (List.contains_iff_mem.2 (by decide)) rfl).step (u := []) ?_
    rintro _ rfl
    exact .pure rfl

theorem closes_sort {words : List String} (hwords : words ⊆ clauseWords) (hrest : Stops words rest)
    (ascending nullsFirst : Option Bool) : Closes (sortTokens ascending nullsFirst ++ rest) := by
  obtain _ | _ | _ := ascending
  · obtain _ | _ | _ := nullsFirst
    · exact hrest.closes hwords
    · exact closes_keyword (by decide)
    · exact closes_keyword (by decide)
  · exact closes_keyword (by decide)
  · exact closes_keyword (by decide)

/-- The item stands for this one. -/
structure IsOrder (o : LogicalSql.OrderItem) (x : OrderItem) : Prop where
  expr : x.expr.interpret = .ok o.expr
  ascending : x.ascending = o.ascending
  nullsFirst : x.nullsFirst = o.nullsFirst

theorem interpretOrder_eq {os : List LogicalSql.OrderItem} {xs : List OrderItem}
    (h : List.Forall₂ IsOrder os xs) : interpretOrder xs = .ok os := by
  induction h with
  | nil => rfl
  | @cons o x os xs hhead _ ih =>
    obtain ⟨e, ascending, nullsFirst⟩ := o
    obtain ⟨x, ascending, nullsFirst⟩ := x
    obtain ⟨hexpr, rfl, rfl⟩ := hhead
    rw [interpretOrder, hexpr, ih]
    rfl

theorem orderTokens_eq (os : List LogicalSql.OrderItem) :
    orderTokens os = os.map fun o => o.expr.tokens ++ sortTokens o.ascending o.nullsFirst := by
  induction os with
  | nil => rfl
  | cons o os ih =>
    obtain ⟨e, ascending, nullsFirst⟩ := o
    rw [orderTokens, ih, List.map_cons]

/-- The words behind the order. -/
abbrev orderEnds : List String := clauseWords.drop 14

theorem orderItem_reads {o : LogicalSql.OrderItem} (he : ReadsAny L true o.expr)
    (hrest : Stops orderEnds rest) :
    Reads true (orderItem L) (o.expr.tokens ++ sortTokens o.ascending o.nullsFirst) rest
      (IsOrder o) := by
  refine (he _ (closes_sort (List.drop_subset _ _) hrest _ _)).step fun x hx => ?_
  rw [sortTokens_eq]
  refine (ascending?_reads o.ascending o.nullsFirst fun w hw => ?_).step ?_
  · have hwords : ∀ w ∈ ["ASC", "DESC"], w ∉ orderEnds := by decide
    exact hrest.keyword_ne (drop_subset_sourceWords _) (hwords w hw)
  · rintro _ rfl
    refine (nullsFirst?_reads o.nullsFirst
      (hrest.keyword_ne (drop_subset_sourceWords _) (by decide))).map ?_
    rintro _ rfl
    exact ⟨hx, rfl, rfl⟩

theorem orderBy?_reads {os : List LogicalSql.OrderItem} (h : ∀ o ∈ os, ReadsAny L true o.expr)
    (hrest : FollowedBy orderEnds rest) :
    Reads true (orderBy? L) (Token.clause [.keyword "ORDER", .keyword "BY"] (orderTokens os)) rest
      fun xs => interpretOrder xs = .ok os := by
  cases os with
  | nil =>
    exact Reads.ite_false (u := []) (keywords_miss (hrest.drop_keyword_ne (by decide))) (.pure rfl)
  | cons o os =>
    have hlist := list_reads (List.cons_ne_nil o os)
      (fun o ho behind hbehind => orderItem_reads (h o ho) (hrest.stops hbehind))
      (hrest.symbol_ne (by decide))
    rw [orderTokens_eq]
    exact Reads.ite_true (keywords_hit ["ORDER", "BY"] (by decide))
      (hlist.mono fun xs hxs => interpretOrder_eq hxs)

/-! Bounds. -/

/-- Bounds that are known are not looked for again. -/
theorem moreBounds_none (b : Bounds)
    (h : ∀ w ∈ ["LIMIT", "OFFSET"], headIs (·.isKeyword w) rest = false) :
    Reads true (moreBounds L b) [] rest (· = b) := by
  obtain ⟨limit, offset, offsetRows⟩ := b
  have hoffset : ∀ l, Reads true (do
      if ← keyword "OFFSET" then
        let offset ← L.anyExpr
        return ⟨l, some offset, ← oneOf? ["ROW", "ROWS"]⟩
      else return ⟨l, none, offsetRows⟩) [] rest (· = (⟨l, none, offsetRows⟩ : Bounds)) := fun l =>
    Reads.ite_false (u := []) (keyword_miss (h _ (by decide))) (.pure rfl)
  cases limit with
  | none =>
    refine (keyword_miss (h _ (by decide))).look (u := []) ?_
    rintro _ rfl
    cases offset with
    | none => exact hoffset none
    | some offset => exact .pure rfl
  | some limit =>
    cases offset with
    | none => exact hoffset (some limit)
    | some offset => exact .pure rfl

/-- Nothing but the end of the query stands here. -/
theorem FollowedBy.none_ne (hrest : FollowedBy [] rest) (word : String) :
    headIs (·.isKeyword word) rest = false := hrest.keyword_ne (List.nil_subset _) nofun

theorem bounds_reads {limit offset : Option LogicalSql.Expr}
    (hlimit : ∀ e ∈ limit, ReadsAny L true e ∧ Opens e) (hoffset : ∀ e ∈ offset, ReadsAny L true e)
    (hrest : FollowedBy [] rest) :
    Reads true (bounds L)
      (optionTokens [.keyword "LIMIT"] limit ++ optionTokens [.keyword "OFFSET"] offset)
      rest fun b => interpretOption b.limit = .ok limit ∧
        interpretOption b.offset = .ok offset := by
  have hend : FollowedBy (clauseWords.drop 15) (optionTokens [.keyword "OFFSET"] offset ++ rest) :=
    followedBy_option (by decide) offset (hrest.mono (List.nil_subset _))
  have hshifted : ∀ l, interpretOption l = .ok limit → Reads true (do
      if ← keyword "OFFSET" then
        let offset ← L.anyExpr
        return ⟨l, some offset, ← oneOf? ["ROW", "ROWS"]⟩
      else return ⟨l, none, none⟩) (optionTokens [.keyword "OFFSET"] offset) rest
      fun b : Bounds => interpretOption b.limit = .ok limit ∧
        interpretOption b.offset = .ok offset := by
    intro l hl
    cases offset with
    | none =>
      exact Reads.ite_false (u := []) (keyword_miss (hrest.none_ne _))
        (.pure ⟨hl, rfl⟩)
    | some e =>
      refine Reads.ite_true (keyword_hit "OFFSET" rfl) ?_
      refine (hoffset e rfl _ (hrest.closes (List.nil_subset _))).andLook fun x hx => ?_
      refine (oneOf?_miss fun w _ => hrest.none_ne w).map fun _ _ => ⟨hl, ?_⟩
      rw [interpretOption, hx]
      rfl
  have hfirst : Reads true (moreBounds L ⟨none, none, none⟩)
      (optionTokens [.keyword "LIMIT"] limit ++ optionTokens [.keyword "OFFSET"] offset) rest
      fun b => interpretOption b.limit = .ok limit ∧ interpretOption b.offset = .ok offset := by
    cases limit with
    | none =>
      refine (keyword_miss (hend.drop_keyword_ne (by decide))).look ?_
      rintro _ rfl
      exact hshifted none rfl
    | some e =>
      obtain ⟨he, hopens⟩ := hlimit e rfl
      refine (keyword_hit "LIMIT" rfl).step (u := _ ++ _) ?_
      rintro _ rfl
      refine (keyword_miss ?_).look ?_
      · rw [List.append_assoc]
        exact (hopens _ hend.drop_closes.ends).keyword_ne (by decide)
      · rintro _ rfl
        refine (he _ hend.drop_closes).step fun x hx => hshifted (some x) ?_
        rw [interpretOption, hx]
        rfl
  refine hfirst.andLook fun b hb => (moreBounds_none b fun w _ => hrest.none_ne w).mono ?_
  rintro _ rfl
  exact hb

/-! Tables in front of a query. -/

/-- No type stands behind the name of a column. -/
theorem dataType_none {text : String} (h : rest.head? = some (.symbol text)) :
    Reads true (attempt dataType) [] rest (· = none) := by
  refine Tries.attempt fun _ ls hls => .inl ?_
  cases ls with
  | nil =>
    rw [← hls] at h
    cases h
  | cons l ls =>
    obtain ⟨t, extent, blanks⟩ := l
    rw [← hls] at h
    obtain rfl : t = .symbol text := Option.some.inj h
    rfl

theorem aliasColumns_reads {columns : List String} (hne : columns ≠ []) :
    Reads true aliasColumns (columnTokens columns) rest fun cs => cs.map (·.1.text) = columns := by
  have hlist : Reads true (commaSeparated (do
      let name ← identifier
      return (name, ← attempt dataType))) (nameTokens columns) (.symbol ")" :: rest)
      (List.Forall₂ (fun name c => c.1.text = name) columns) := by
    refine list_reads hne (fun name _ behind hbehind => ?_) rfl
    refine (word_reads name).andLook fun i hi => ?_
    have htype : Reads true (attempt dataType) [] behind (· = none) := by
      rcases hbehind with rfl | hcomma
      · exact dataType_none rfl
      · exact dataType_none hcomma
    exact htype.map fun _ _ => hi.1
  obtain ⟨column, columns, rfl⟩ := List.exists_cons_of_ne_nil hne
  refine Reads.ite_true (symbol_hit "(") ?_
  refine hlist.andThen fun cs hcs => (expectSymbol_reads ")").step (u := []) fun _ _ => .pure ?_
  exact List.forall₂_eq_eq_eq ▸ List.forall₂_map_left_iff.2 hcs.flip

/-- The table in front of a query stands for this one. -/
structure IsCte (c : LogicalSql.Cte) (x : Cte) : Prop where
  name : x.aliasName.name.text = c.name
  columns : x.aliasName.columns.map (·.1.text) = c.columns
  query : x.query.interpret = .ok c.query

theorem interpretCtes_eq {cs : List LogicalSql.Cte} {xs : List Cte} (h : List.Forall₂ IsCte cs xs) :
    interpretCtes xs = .ok cs := by
  induction h with
  | nil => rfl
  | @cons c x cs xs hhead _ ih =>
    obtain ⟨name, columns, query⟩ := c
    obtain ⟨⟨i, is⟩, materialized, q, source, closing⟩ := x
    obtain ⟨rfl, rfl, hquery⟩ := hhead
    rw [interpretCtes, hquery, ih]
    rfl

theorem cte_reads {c : LogicalSql.Cte} (hq : ReadsQuery L c.query)
    (hrest : headIs (·.isKeyword "FROM") rest = false) :
    Reads true (cte L) c.tokens rest (IsCte c) := by
  obtain ⟨name, columns, query⟩ := c
  have hquery : ∀ i cs, i.text = name → cs.map (·.1.text) = columns → Reads true (do
      expectKeyword "AS"
      let materialized ← do
        if ← keyword "MATERIALIZED" then Pure.pure .yes
        else if ← Reader.keywords ["NOT", "MATERIALIZED"] then Pure.pure .no
        else Pure.pure .unsaid
      expectSymbol "("
      let query ← L.query
      let closing ← nextLexeme
      if isSymbol ")" closing.token then
        let source ← option (keyword "FROM") identifier
        return ⟨⟨i, cs⟩, materialized, query, source, closing⟩
      else fail)
      (.keyword "AS" :: .symbol "(" :: (query.tokens ++ [.symbol ")"])) rest
      (IsCte ⟨name, columns, query⟩) := by
    intro i cs hi hcs
    refine (expectKeyword_reads "AS" rfl).step fun _ _ => ?_
    refine (keyword_miss rfl).look ?_
    rintro _ rfl
    refine (keywords_miss rfl).look ?_
    rintro _ rfl
    refine (Reads.pure (P := (· = Materialized.unsaid)) rfl).look ?_
    rintro _ rfl
    refine (expectSymbol_reads "(").step fun _ _ => ?_
    refine (hq.reads _ followedBy_parenthesis).step fun x hx => ?_
    refine (nextLexeme_reads (.symbol ")")).step (u := []) fun closing hclosing => ?_
    rw [hclosing]
    exact (option_none (keyword_miss hrest)).map fun _ _ => ⟨hi, hcs, hx⟩
  refine (word_reads name).step fun i hi => ?_
  refine (peekKeyword_reads "AS").look ?_
  rintro _ rfl
  cases columns with
  | nil => exact hquery i [] hi.1 rfl
  | cons column columns =>
    exact (aliasColumns_reads (List.cons_ne_nil column columns)).step
      fun cs hcs => hquery i cs hi.1 hcs

/-- The tables in front of a chain, and the word before them. -/
def withTokens (recursive : Bool) (ctes : List LogicalSql.Cte) : List Token :=
  .keyword "WITH" ::
    ((if recursive then [.keyword "RECURSIVE"] else []) ++ Token.commas (cteTokens ctes))

theorem cteTokens_eq (cs : List LogicalSql.Cte) : cteTokens cs = cs.map LogicalSql.Cte.tokens := by
  induction cs with
  | nil => rfl
  | cons c cs ih => rw [cteTokens, ih, List.map_cons]

/-- No tables stand in front of a selection. -/
theorem with?_select (s : LogicalSql.Select) :
    Reads true (with? L) [] (s.tokens ++ rest) fun w => interpretWith w = .ok none := by
  rw [s.tokens_eq]
  refine (peekKeyword_reads "WITH").look ?_
  rintro _ rfl
  exact .pure rfl

theorem with?_reads {recursive : Bool} {ctes : List LogicalSql.Cte} (hne : ctes ≠ [])
    (hctes : ∀ c ∈ ctes, ReadsQuery L c.query)
    (hrecursive : recursive = false → ctes.head?.any LogicalSql.Cte.isRecursiveWord = false) :
    Reads true (with? L) (withTokens recursive ctes) (.keyword "SELECT" :: rest)
      fun w => interpretWith w = .ok (some (recursive, ctes)) := by
  have hlist : Reads true (commaSeparated (cte L)) (Token.commas (cteTokens ctes))
      (.keyword "SELECT" :: rest) (List.Forall₂ IsCte ctes) := by
    rw [cteTokens_eq]
    refine list_reads hne (fun c hc behind hbehind => cte_reads (hctes c hc) ?_) rfl
    rcases hbehind with rfl | hcomma
    · rfl
    · rw [headIs, hcomma]
      rfl
  have hword : Reads true (keyword "RECURSIVE") (if recursive then [.keyword "RECURSIVE"] else [])
      (Token.commas (cteTokens ctes) ++ .keyword "SELECT" :: rest) (· = recursive) := by
    cases recursive with
    | true => exact keyword_hit "RECURSIVE" rfl
    | false =>
      obtain ⟨c, cs, rfl⟩ := List.exists_cons_of_ne_nil hne
      have hname : Text.upper c.name ≠ "RECURSIVE" := beq_eq_false_iff_ne.1 (hrecursive rfl)
      obtain ⟨name, columns, query⟩ := c
      refine keyword_miss ?_
      cases cs with
      | nil => exact isKeyword_eq_false hname
      | cons => exact isKeyword_eq_false hname
  refine (peekKeyword_reads "WITH").look ?_
  rintro _ rfl
  refine (nextLexeme_reads _).step fun opening _ => hword.step ?_
  rintro _ rfl
  refine hlist.map fun xs hxs => ?_
  rw [interpretWith, interpretCtes_eq hxs]
  rfl

/-! The whole query. -/

/-- The operands of a set operation and of those behind it are read from their tokens. -/
structure ReadsRest (L : Level) (o : Option SetOperation)
    (steps : List (SetStep LogicalSql.Select)) : Prop where
  branches : ∀ x ∈ steps, ReadsStep L x
  setOperation : ∀ s : LogicalSql.Select, s.setOperation = none → (s.link steps).setOperation = o
  tokens : setOperationTokens o = steps.flatMap SetStep.tokens

/-- All parts of a chain of selections are read from their tokens. -/
structure ReadsChain (L : Level) (fits : SelectItem → Bool) (s : LogicalSql.Select)
    (steps : List (SetStep LogicalSql.Select)) : Prop where
  clauses : ReadsClauses L fits s
  rest : ReadsRest L s.setOperation steps
  orderBy : ∀ o ∈ s.orderBy, ReadsAny L true o.expr
  limit : ∀ e ∈ s.limit, ReadsAny L true e ∧ Opens e
  offset : ∀ e ∈ s.offset, ReadsAny L true e

variable {fits : SelectItem → Bool} {s : LogicalSql.Select}
  {steps : List (SetStep LogicalSql.Select)}

theorem ReadsChain.overrideWith (h : ReadsChain L fits s steps) :
    (s.own.link steps).overrideWith s.orderBy s.limit s.offset = s := by
  have hlink : s.own.link steps = { s.own with setOperation := s.setOperation } := by
    rw [← h.rest.setOperation s.own rfl]
    cases steps <;> rfl
  rw [hlink]
  obtain ⟨_, _, _, _, _, _, _, orderBy, limit, offset, _⟩ := s
  cases orderBy <;> cases limit <;> cases offset <;> rfl

theorem ReadsClauses.own (h : ReadsClauses L fits s) : ReadsClauses L fits s.own :=
  ⟨h.projections_ne, h.projections, h.joins, h.tables, h.filter, h.groupBy, h.having⟩

theorem readsRest_none : ReadsRest L none [] := ⟨nofun, fun _ h => h, rfl⟩

/-- A chain of selections that no clause applies to goes on behind a set operation. -/
theorem ReadsChain.readsRest (h : ReadsChain L (fun _ => true) s steps)
    (hs : (LogicalSql.Query.select s).isOperand = true) (op : SetOperator) (all : Bool) :
    ReadsRest L (some ⟨op, all, .select s⟩) (⟨op, all, s.own⟩ :: steps) := by
  simp only [LogicalSql.Query.isOperand, Bool.and_eq_true, List.isEmpty_iff,
    Option.isNone_iff_eq_none] at hs
  obtain ⟨⟨horder, hlimit⟩, hoffset⟩ := hs
  have hown : s.own.link steps = s := by
    have hwhole := h.overrideWith
    rwa [horder, hlimit, hoffset, LogicalSql.Select.overrideWith_nil] at hwhole
  refine ⟨List.forall_mem_cons.2 ⟨⟨own_alone s, h.clauses.own⟩, h.rest.branches⟩, fun _ _ => ?_, ?_⟩
  · rw [LogicalSql.Select.link, hown]
  · have hmodifiers : s.modifierTokens = [] := by
      rw [LogicalSql.Select.modifierTokens, horder, hlimit, hoffset]
      rfl
    rw [setOperationTokens, LogicalSql.Query.tokens, s.tokens_eq, hmodifiers, List.append_nil,
      h.rest.tokens, List.flatMap_cons, SetStep.tokens, List.cons_append, List.append_assoc]
    rfl

/-- A chain with the clauses behind it and the tables in front of it. -/
theorem interpret_chain (h : ReadsChain L fits s steps) {w : Option WithClause}
    {ctes : Option (Bool × List LogicalSql.Cte)} (hw : interpretWith w = .ok ctes) {b : Body}
    (hb : b.IsRow s.own steps) {order : List OrderItem}
    (horder : interpretOrder order = .ok s.orderBy)
    {limit offset : Option Expr} (hlimit : interpretOption limit = .ok s.limit)
    (hoffset : interpretOption offset = .ok s.offset) (rows : Option String) :
    Query.interpret ⟨w, b, order, limit, offset, rows, none, [], none⟩ =
      .ok (enclose ctes (.select s)) := by
  rw [Query.interpret, hw, hb.interpret_false, horder, hlimit, hoffset]
  refine Eq.trans ?_ (congrArg (fun s => Except.ok (enclose ctes (.select s))) h.overrideWith)
  cases ctes <;> rfl

theorem fetch?_none (hrest : FollowedBy [] rest) : Reads true fetch? [] rest (· = none) :=
  Reads.ite_false (u := []) (keyword_miss (hrest.none_ne _)) (.pure rfl)

theorem purpose_none (hrest : FollowedBy [] rest) :
    Reads true purpose [] rest (· = ([], none)) := by
  refine Reads.get fun ls _ => ?_
  cases ls.length with
  | zero => exact .pure rfl
  | succ n => exact Reads.ite_false (u := []) (keyword_miss (hrest.none_ne _)) (.pure rfl)

theorem query_reads {ctes : Option (Bool × List LogicalSql.Cte)} {before : List Token}
    (h : ReadsChain L fits s steps) (hrest : FollowedBy [] rest)
    (hwith : Reads true (with? L) before (s.tokens ++ rest) fun w => interpretWith w = .ok ctes) :
    Reads (s.projections.all fits) (query L) (before ++ s.tokens) rest
      fun q => q.interpret = .ok (enclose ctes (.select s)) := by
  have hmiss : ∀ word, Text.upper "SELECT" ≠ word →
      Reads true (keyword word) [] (s.tokens ++ rest) (· = false) := by
    intro word hword
    rw [s.tokens_eq]
    exact keyword_miss (isKeyword_eq_false hword)
  have hbounds : FollowedBy orderEnds (optionTokens [.keyword "LIMIT"] s.limit ++
      optionTokens [.keyword "OFFSET"] s.offset ++ rest) := by
    rw [List.append_assoc]
    exact followedBy_option (by decide) _
      (followedBy_option (by decide) _ (hrest.mono (List.nil_subset _)))
  have hmodifiers : FollowedBy (clauseWords.drop 13) (s.modifierTokens ++ rest) := by
    rw [LogicalSql.Select.modifierTokens, List.append_assoc]
    exact followedBy_clause (by decide) _ (hbounds.drop (by decide))
  refine hwith.step fun w hw => ?_
  refine Reads.ite_false (hmiss _ (by decide)) ?_
  refine Reads.ite_false (hmiss _ (by decide)) ?_
  rw [s.tokens_eq, h.rest.tokens, ← List.append_assoc]
  refine (body_reads h.clauses h.rest.branches hmodifiers).andThen fun b hb => ?_
  refine (orderBy?_reads h.orderBy hbounds).step fun order horder => ?_
  refine (bounds_reads h.limit h.offset hrest).andLook fun bounds hlimits => ?_
  refine (fetch?_none hrest).look (u := []) ?_
  rintro _ rfl
  refine (purpose_none hrest).look (u := []) ?_
  rintro _ rfl
  exact .pure (interpret_chain h hw hb horder hlimits.1 hlimits.2 bounds.offsetRows)

/-! Fields of a legible query. -/

variable {f : Bool}

/-- However it is written, `FROM` is no column. -/
theorem lower_ne_from {name : String} (h : isColumnName name = true) :
    Text.lower name ≠ "from" := by
  intro hlower
  have hupper : Text.upper name = "FROM" := Text.upper_of_lower rfl hlower
  obtain ⟨i, is, -, -, rfl, htest⟩ := isNameOf_eq_true.1 h
  simp only [Ident.isOperand, Bool.and_eq_true, Bool.not_eq_true', List.all_eq_true,
    Option.isNone_iff_eq_none] at htest
  have hquote := htest.2 i List.mem_cons_self
  cases is with
  | nil =>
    rw [showName_singleton hquote] at hupper
    have hspells : i.spells leadingWords = true := by
      rw [Ident.spells, hquote, hupper]
      rfl
    rw [htest.1.1.2] at hspells
    cases hspells
  | cons j is =>
    -- the point between the parts is in no word
    have hpoint : '.' ∈ (Text.upper (showName (i :: j :: is))).toList := by
      rw [Text.upper, String.toList_ofList, List.mem_flatMap]
      exact ⟨'.', by simp [showName_cons], by decide⟩
    rw [hupper] at hpoint
    exact absurd hpoint (by decide)

theorem readsItem_legible {e : LogicalSql.Expr} {a : Option String} (he : ReadsAny L f e)
    (hlegible : e.legible = true) : ReadsItem L f (.expr e a) := by
  refine readsItem_expr he (e.leads hlegible).opens ?_
  rintro name rfl
  rw [LogicalSql.Expr.legible] at hlegible
  exact lower_ne_from hlegible

/-! Statements. -/

theorem statement_reads {q : LogicalSql.Query} {word : String} {more : List Token}
    (hq : Reads f L.query (.keyword word :: more) rest fun x => x.interpret = .ok q)
    (hword : ["SELECT", "WITH", "VALUES"].contains (Text.upper word) = true) :
    Reads f (statement L) (.keyword word :: more) rest fun x => x.interpret = .ok q := by
  refine Reads.get fun ls hls => ?_
  obtain ⟨⟨t, extent, blanks⟩, ls, rfl, rfl, -⟩ := List.map_eq_cons_iff.1 hls
  dsimp only [Token.keyword?]
  rw [if_pos hword]
  exact hq.map fun x hx => hx

theorem skipSemicolons_none (h : headIs (isSymbol ";") rest = false) :
    Reads true skipSemicolons [] rest (· = false) := by
  refine (many_none (Reads.ite_false (u := []) (symbol_miss h) (.pure rfl))).look (u := []) ?_
  rintro _ rfl
  exact .pure rfl

/-- The only statement of a text. -/
theorem statements_reads {p : Reader Statement} {tokens : List Token} {P : Statement → Prop}
    (hp : Reads f p tokens [] P) (hne : tokens ≠ [])
    (hfirst : headIs (isSymbol ";") tokens = false) :
    Reads f (statements p) tokens [] fun ss => ∃ s, ss = [s] ∧ P s := by
  refine (skipSemicolons_none (by rwa [List.append_nil])).look fun _ _ => ?_
  refine Reads.get fun ls hls => ?_
  rw [List.append_nil] at hls
  cases ls with
  | nil => exact absurd hls.symm hne
  | cons l ls =>
    refine Reads.get fun ls' hls' => ?_
    cases ls' with
    | nil => exact absurd hls'.symm (by rwa [List.append_nil])
    | cons =>
      refine hp.andLook fun s hs => ?_
      refine (skipSemicolons_none rfl).look (u := []) fun _ _ => ?_
      refine Reads.get fun ls hls => ?_
      obtain rfl := List.map_eq_nil_iff.1 hls
      exact .pure ⟨s, rfl, hs⟩

/-- A text that is cut into the tokens of a legible query. Its statement takes one level, and the
query another one. -/
theorem parse_of_reads {q : LogicalSql.Query} (hq : q.legible = true)
    (h : Reads f (query (level (maxNesting - 2))) q.tokens [] fun x => x.interpret = .ok q) :
    LogicalSql.Query.parse q.sql = if f then .ok q else .error .malformed := by
  have hcut := q.cut hq
  have hlexes : Lexes q.sql.toList q.tokens := by simpa using hcut.lexes [] [] nofun .nil
  obtain ⟨ls, hls, htokens⟩ := hlexes.tokenize
  obtain ⟨word, more, hfirst, hword⟩ := LogicalSql.Query.exists_tokens hq
  have hread : Reads f (statements (level maxNesting).statement) q.tokens []
      fun ss => ∃ s, ss = [s] ∧ s.interpret = .ok q := by
    refine statements_reads ?_ ?_ ?_
    · rw [hfirst] at h ⊢
      refine statement_reads h ?_
      rcases hword with rfl | rfl <;> decide
    · rw [hfirst]
      exact List.cons_ne_nil _ _
    · rw [hfirst]
      rfl
  have hrun := hread (hcut.brackets [] .nil) ls (by rw [htokens, List.append_nil])
  cases f with
  | false =>
    have hnone : readStatements? q.sql = none := by
      rw [readStatements?, hls, Option.bind_eq_bind, Option.bind_some]
      change statements (level maxNesting).statement ls = _ at hrun
      rw [hrun]
    rw [LogicalSql.Query.parse, LogicalSql.Query.parseAll, hnone]
    rfl
  | true =>
    obtain ⟨ss, ls', hok, -, s, rfl, hs⟩ := hrun
    have hsome : readStatements? q.sql = some [s] := by
      rw [readStatements?, hls, Option.bind_eq_bind, Option.bind_some, hok]
    rw [LogicalSql.Query.parse, LogicalSql.Query.parseAll, hsome]
    dsimp only
    rw [List.mapM_cons, hs]
    rfl

end LogicalSql.Surface.Reader
