import LogicalSql.Proofs.Query.SetOperations
import LogicalSql.Proofs.Surface.Sources
import LogicalSql.Surface.Reader.Select

/-! How the clauses of one `SELECT` are read, given how the expressions and tables in them are. -/
namespace LogicalSql

/-- The selection without what follows its own clauses. -/
def Select.own (s : Select) : Select :=
  { s with orderBy := [], limit := none, offset := none, setOperation := none }

namespace Surface.Reader

variable {L : Level} {f : Bool} {rest : List Token}

/-- Both branches go on alike. -/
theorem Reads.cond {α β : Type} {g : Bool} {c : Reader Bool} {p q : Reader α} {k : α → Reader β}
    {s u : List Token} {P : α → Prop} {Q : β → Prop}
    (h : Reads f (do if ← c then p else q) s (u ++ rest) P)
    (hk : ∀ a, P a → Reads g (k a) u rest Q) :
    Reads (f && g) (do if ← c then p >>= k else q >>= k) (s ++ u) rest Q := by
  have heq : (do if ← c then p >>= k else q >>= k) = (do if ← c then p else q) >>= k := by
    rw [bind_assoc]
    congr 1
    funext b
    cases b <;> rfl
  rw [heq]
  exact h.bind hk

/-! What follows a clause. -/

theorem drop_subset_sourceWords (k : Nat) : clauseWords.drop k ⊆ sourceWords :=
  fun _ h => clauseWords_subset (List.mem_of_mem_drop h)

theorem FollowedBy.drop {j k : Nat} (h : FollowedBy (clauseWords.drop k) rest) (hle : j ≤ k) :
    FollowedBy (clauseWords.drop j) rest :=
  h.mono (List.drop_subset_drop_left _ hle)

theorem FollowedBy.drop_keyword_ne {k : Nat} (h : FollowedBy (clauseWords.drop k) rest)
    {word : String} (hword : word ∉ clauseWords.drop k) : headIs (·.isKeyword word) rest = false :=
  h.keyword_ne (drop_subset_sourceWords k) hword

theorem FollowedBy.drop_closes {k : Nat} (h : FollowedBy (clauseWords.drop k) rest) : Closes rest :=
  h.closes (List.drop_subset k _)

theorem followedBy_clause {words : List String} {word : String} (hword : word ∈ words)
    {before : List Token} (parts : List (List Token)) (h : FollowedBy words rest) :
    FollowedBy words (Token.clause (.keyword word :: before) parts ++ rest) := by
  cases parts with
  | nil => exact h
  | cons => exact followedBy_keyword hword

theorem followedBy_option {words : List String} {word : String} (hword : word ∈ words)
    (o : Option LogicalSql.Expr) (h : FollowedBy words rest) :
    FollowedBy words (optionTokens [.keyword word] o ++ rest) := by
  cases o with
  | none => exact h
  | some e => exact followedBy_keyword hword

/-! Fields. -/

/-- The words that may follow the fields. -/
def itemEnds : List String := "FROM" :: clauseWords.drop 7

theorem itemEnds_subset : itemEnds ⊆ clauseWords := by
  intro w hw
  rcases List.mem_cons.1 hw with rfl | hw
  · exact List.mem_cons_self
  · exact List.mem_of_mem_drop hw

/-- The field stands for this item. -/
def IsItem (i : SelectItem) (x : Item) : Prop :=
  ∀ {xs is}, interpretItems xs = .ok is → interpretItems (x :: xs) = .ok (i :: is)

/-- The field is read from its tokens, whatever ends it, and no word in front of it means anything
else. -/
structure ReadsItem (L : Level) (fits : Bool) (i : SelectItem) : Prop where
  reads : ∀ rest, Stops itemEnds rest → Reads fits (item L) i.tokens rest (IsItem i)
  keyword_ne : ∀ rest, Stops itemEnds rest → ∀ w ∈ leadingWords,
    headIs (·.isKeyword w) (i.tokens ++ rest) = false

theorem interpretItems_eq {is : List SelectItem} {xs : List Item} (h : List.Forall₂ IsItem is xs) :
    interpretItems xs = .ok is := by
  induction h with
  | nil => rfl
  | cons hhead _ ih => exact hhead ih

theorem readsItem_wildcard : ReadsItem L true .wildcard := by
  refine ⟨fun rest _ => ?_, fun _ _ _ _ => rfl⟩
  refine wildcard?_star.step (u := []) ?_
  rintro _ ⟨extent, rfl⟩
  refine .pure fun h => ?_
  rw [interpretItems, h]
  rfl

theorem readsItem_wildcardOf {table : String} (htable : isWildcardName table = true) :
    ReadsItem L true (.wildcardOf table) := by
  obtain ⟨i, is, hparts, -, rfl, hi⟩ := isNameOf_eq_true.1 htable
  rw [Bool.not_eq_true'] at hi
  have htokens : (SelectItem.wildcardOf (showName (i :: is))).tokens =
      pointed (i :: is) ++ [.symbol ".", .symbol "*"] := by
    rw [SelectItem.tokens, shownTokens, hparts]
  refine ⟨fun rest _ => ?_, fun rest _ w hw => ?_⟩
  · rw [htokens]
    refine (wildcard?_starOf i is).andLook ?_
    rintro _ ⟨name, extent, rfl, hname⟩
    refine .pure fun h => ?_
    rw [interpretItems, h, showName_congr hname]
    rfl
  · rw [htokens]
    exact Ident.token_isKeyword hi hw

theorem readsItem_expr {e : LogicalSql.Expr} {a : Option String} (he : ReadsAny L f e)
    (hopens : Opens e) (hfrom : ∀ name, e = .column none name → Text.lower name ≠ "from") :
    ReadsItem L f (.expr e a) := by
  have hcloses : ∀ {rest}, Stops itemEnds rest → Closes (aliasTokens a ++ rest) := by
    intro rest hrest
    cases a with
    | none => exact hrest.closes itemEnds_subset
    | some name => exact closes_keyword (by decide)
  refine ⟨fun rest hrest => ?_, fun rest hrest w hw => ?_⟩
  · have hstarts := hopens _ (hcloses hrest).ends
    have halias : ∀ x isFrom, x.interpret = .ok e → isFrom = false → Reads true (do
        if isFrom = true then fail else return Item.expr x (← aliasName? reservedForColumnAliases))
        (aliasTokens a) rest (IsItem (.expr e a)) := by
      rintro x _ hx rfl
      refine (aliasName?_reads reservedForColumnAliases hrest
        (List.Subset.trans itemEnds_subset clauseWords_subset) (by decide) (by decide)).map ?_
      intro i hi xs is h
      rw [interpretItems, hx, h, hi]
      rfl
    rw [← List.append_assoc] at hstarts
    refine hstarts.wildcard?_reads.look ?_
    rintro _ rfl
    refine (he _ (hcloses hrest)).andThen fun x hx => ?_
    split
    · cases hx
    · refine halias x _ hx ?_
      split
      · cases hx
        exact beq_eq_false_iff_ne.2 (hfrom _ rfl)
      · rfl
  · rw [SelectItem.tokens, List.append_assoc]
    exact (hopens _ (hcloses hrest).ends).keyword_ne hw

theorem itemTokens_eq (is : List SelectItem) : itemTokens is = is.map SelectItem.tokens := by
  induction is with
  | nil => rfl
  | cons i is ih => rw [itemTokens, ih, List.map_cons]

theorem items_reads {is : List SelectItem} {fits : SelectItem → Bool} (hne : is ≠ [])
    (his : ∀ i ∈ is, ReadsItem L (fits i) i) (hrest : FollowedBy itemEnds rest) :
    Reads (is.all fits) (items L) (Token.commas (itemTokens is)) rest
      fun xs => interpretItems xs = .ok is := by
  rw [itemTokens_eq]
  have hlist := commaSeparated_reads hne
    (fun i hi behind hbehind => (his i hi).reads behind (hrest.stops hbehind))
    (hrest.symbol_ne (by decide))
  exact hlist.mono fun xs hxs => interpretItems_eq hxs

/-- The first field, in front of the others. -/
theorem items_keyword_ne {is : List SelectItem} {fits : SelectItem → Bool} (hne : is ≠ [])
    (his : ∀ i ∈ is, ReadsItem L (fits i) i) (hrest : FollowedBy itemEnds rest) {word : String}
    (hword : word ∈ leadingWords) :
    headIs (·.isKeyword word) (Token.commas (itemTokens is) ++ rest) = false := by
  obtain ⟨i, is, rfl⟩ := List.exists_cons_of_ne_nil hne
  have hi := his i List.mem_cons_self
  cases is with
  | nil => simpa [itemTokens, Token.commas] using hi.keyword_ne rest (.inl hrest) word hword
  | cons j is =>
    have hcomma := hi.keyword_ne (.symbol "," :: (Token.commas (itemTokens (j :: is)) ++ rest))
      (.inr rfl) word hword
    simpa [itemTokens, Token.commas] using hcomma

theorem distinct?_reads (distinct : Bool)
    (h : ∀ w ∈ ["ALL", "DISTINCT", "ON"], headIs (·.isKeyword w) rest = false) :
    Reads true (distinct? L) (distinctTokens distinct) rest fun d => d.isSome = distinct := by
  cases distinct with
  | false =>
    refine (keyword_miss (h _ (by decide))).look ?_
    rintro _ rfl
    exact Reads.ite_false (u := []) (keyword_miss (h _ (by decide))) (.pure rfl)
  | true =>
    refine (keyword_miss rfl).look (u := [.keyword "DISTINCT"]) ?_
    rintro _ rfl
    refine Reads.ite_true (u := []) (keyword_hit "DISTINCT" rfl) ?_
    exact Reads.ite_false (u := []) (keyword_miss (h _ (by decide))) (.pure rfl)

/-! Tables. -/

/-- A source and the joins behind it are read from their tokens, whatever ends them. -/
def ReadsTable (L : Level) (s : Source) (js : List LogicalSql.Join) : Prop :=
  ∀ rest, Stops (clauseWords.drop 7) rest → Reads true L.tableItem (s.tokens ++ joinTokens js) rest
    fun t => t.factor.interpret = .ok s ∧ interpretJoins t.joins = .ok js

/-- All joins stand behind the last source. -/
def paired : List Source → List LogicalSql.Join → List (Source × List LogicalSql.Join)
  | [], _ => []
  | [s], js => [(s, js)]
  | s :: ss, js => (s, []) :: paired ss js

section Paired

variable {ss : List Source} {js : List LogicalSql.Join}

theorem paired_ne_nil (js : List LogicalSql.Join) (hne : ss ≠ []) : paired ss js ≠ [] := by
  cases ss with
  | nil => exact absurd rfl hne
  | cons s ss => cases ss <;> exact List.cons_ne_nil _ _

theorem mem_paired {p : Source × List LogicalSql.Join} (h : p ∈ paired ss js) :
    p.1 ∈ ss ∧ ∀ j ∈ p.2, j ∈ js := by
  fun_induction paired ss js with
  | case1 => cases h
  | case2 s js =>
    obtain rfl := List.mem_singleton.1 h
    exact ⟨List.mem_cons_self, fun _ hj => hj⟩
  | case3 s ss js _ ih =>
    rcases List.mem_cons.1 h with rfl | h
    · exact ⟨List.mem_cons_self, nofun⟩
    · exact ⟨List.mem_cons_of_mem _ (ih h).1, (ih h).2⟩

/-- The joins follow all the sources in the text. -/
theorem paired_tokens (hne : ss ≠ []) :
    [.symbol ","].intercalate ((paired ss js).map fun p => p.1.tokens ++ joinTokens p.2) =
      Token.commas (sourceTokens ss) ++ joinTokens js := by
  induction ss with
  | nil => exact absurd rfl hne
  | cons s ss ih =>
    cases ss with
    | nil => simp [paired, sourceTokens, Token.commas]
    | cons s' ss =>
      have htail := ih (List.cons_ne_nil s' ss)
      obtain ⟨p, ps, hps⟩ := List.exists_cons_of_ne_nil
        (paired_ne_nil js (List.cons_ne_nil s' ss))
      rw [hps, List.map_cons] at htail
      rw [paired, hps, List.map_cons, List.map_cons, List.intercalate_cons_cons, htail]
      · simp [sourceTokens, joinTokens, Token.commas]
      · exact List.cons_ne_nil s' ss

/-- The table is interpreted with the joins behind it. -/
def IsTable (p : Source × List LogicalSql.Join) (t : TableItem) : Prop :=
  t.factor.interpret = .ok p.1 ∧ interpretJoins t.joins = .ok p.2

theorem interpretTableItems_eq (hjoins : ss = [] → js = []) {ts : List TableItem}
    (h : List.Forall₂ IsTable (paired ss js) ts) : interpretTableItems ts = .ok (ss, js) := by
  fun_induction paired ss js generalizing ts with
  | case1 =>
    cases h
    rw [hjoins rfl]
    rfl
  | case2 s js =>
    cases h with
    | cons hhead hnil =>
      cases hnil
      rename_i t
      obtain ⟨factor, joins⟩ := t
      rw [interpretTableItems, hhead.1, hhead.2]
      exact congrArg (fun js => Except.ok ([s], js)) (List.append_nil js)
  | case3 s ss js hne ih =>
    cases h with
    | cons hhead htail =>
      rename_i t ts
      obtain ⟨factor, joins⟩ := t
      rw [interpretTableItems, hhead.1, hhead.2,
        ih (fun heq => absurd heq (by simpa using hne)) htail]
      rfl

theorem from_reads (hjoins : ss = [] → js = [])
    (htables : ∀ p ∈ paired ss js, ReadsTable L p.1 p.2)
    (hrest : FollowedBy (clauseWords.drop 7) rest) :
    Reads true (do if ← keyword "FROM" then commaSeparated L.tableItem else Pure.pure [])
      (Token.clause [.keyword "FROM"] (sourceTokens ss) ++ joinTokens js) rest
      fun ts => interpretTableItems ts = .ok (ss, js) := by
  cases ss with
  | nil =>
    obtain rfl := hjoins rfl
    exact Reads.ite_false (u := []) (keyword_miss (hrest.drop_keyword_ne (by decide))) (.pure rfl)
  | cons s ss =>
    have hne := List.cons_ne_nil s ss
    have hlist := list_reads (R := IsTable) (paired_ne_nil js hne)
      (fun p hp behind hbehind => htables p hp behind (hrest.stops hbehind))
      (hrest.symbol_ne (by decide))
    rw [paired_tokens hne] at hlist
    change Reads true _
      ([.keyword "FROM"] ++ (Token.commas (sourceTokens (s :: ss)) ++ joinTokens js))
      rest _
    exact Reads.ite_true (keyword_hit "FROM" rfl)
      (hlist.mono fun ts hts => interpretTableItems_eq hjoins hts)

end Paired

/-! Groups. -/

theorem groupItem_reads {e : LogicalSql.Expr} (he : ReadsAny L true e) (hopens : Opens e)
    (hcloses : Closes rest) :
    Reads true (groupItem L) e.tokens rest fun x => x.interpret = .ok e := by
  have hstarts := hopens rest hcloses.ends
  refine Reads.ite_false (keywords_miss (hstarts.keyword_ne (by decide))) ?_
  refine (oneOf?_miss fun w hw => hstarts.keyword_ne ?_).look ?_
  · have hwords : ∀ w ∈ ["CUBE", "ROLLUP"], w ∈ leadingWords := by decide
    exact hwords w hw
  · rintro _ rfl
    refine Reads.get fun ls hls => ?_
    split
    · rw [← hls] at hstarts
      exact absurd (hstarts.filled rfl) (by simp [headIs, isSymbol])
    · exact he rest hcloses

theorem Starts.commas {e : LogicalSql.Expr} {es : List LogicalSql.Expr} (hopens : Opens e)
    (hcloses : Closes rest) : Starts (Token.commas (exprTokens (e :: es)) ++ rest) := by
  cases es with
  | nil => simpa [exprTokens, Token.commas] using hopens rest hcloses.ends
  | cons e' es =>
    have hcomma := hopens (.symbol "," :: (Token.commas (exprTokens (e' :: es)) ++ rest)) rfl
    simpa [exprTokens, Token.commas] using hcomma

/-- The clauses behind the groups. -/
theorem having_reads {opening : Lexeme} {distinct top into : Option Shown} {projection : List Item}
    {sources : List TableItem} {views : List Shown} {filter : Option Expr} {groups : List Expr}
    {having : Option LogicalSql.Expr} (hhaving : ∀ e ∈ having, ReadsAny L true e)
    (hrest : FollowedBy (clauseWords.drop 10) rest) :
    Reads true (do
      let clusterBy ← listBehind L "CLUSTER"
      let distributeBy ← listBehind L "DISTRIBUTE"
      let sortBy ← listBehind L "SORT"
      let having ← option (keyword "HAVING") L.anyExpr
      let windowsFirst ← peekKeyword "WINDOW"
      let early ← windows L
      let qualify ← option (keyword "QUALIFY") L.anyExpr
      let late ← if windowsFirst || qualify.isNone then Pure.pure [] else windows L
      return (⟨opening, distinct, top, projection, into, sources, views, filter, false, groups,
        clusterBy, distributeBy, sortBy, having, early ++ late, qualify, windowsFirst⟩ : Select))
      (optionTokens [.keyword "HAVING"] having) rest
      fun x => ∃ h, interpretOption h = .ok having ∧
        x = ⟨opening, distinct, top, projection, into, sources, views, filter, false, groups,
          [], [], [], h, [], none, false⟩ := by
  have hbehind :
      FollowedBy (clauseWords.drop 9) (optionTokens [.keyword "HAVING"] having ++ rest) :=
    followedBy_option (by decide) having (hrest.drop (by decide))
  have hlist : ∀ word, word ∉ clauseWords.drop 9 → Reads true (listBehind L word) []
      (optionTokens [.keyword "HAVING"] having ++ rest) (· = []) := fun word hword =>
    Reads.ite_false (u := []) (keywords_miss (hbehind.drop_keyword_ne hword)) (.pure rfl)
  refine (hlist _ (by decide)).look ?_
  rintro _ rfl
  refine (hlist _ (by decide)).look ?_
  rintro _ rfl
  refine (hlist _ (by decide)).look ?_
  rintro _ rfl
  refine (option_reads rfl hhaving hrest.drop_closes (hrest.drop_keyword_ne (by decide))).andLook
    fun h hh => ?_
  refine (peekKeyword_reads "WINDOW").look (u := []) ?_
  rintro _ rfl
  rw [List.nil_append, hrest.drop_keyword_ne (by decide)]
  have hwindows : Reads true (windows L) [] rest (· = []) :=
    Reads.ite_false (u := []) (keyword_miss (hrest.drop_keyword_ne (by decide))) (.pure rfl)
  refine hwindows.look (u := []) ?_
  rintro _ rfl
  refine (option_none (keyword_miss (hrest.drop_keyword_ne (by decide)))).look (u := []) ?_
  rintro _ rfl
  exact .pure ⟨h, hh, rfl⟩

theorem groups_reads {β : Type} {k : Bool → List Expr → Reader β} {u : List Token} {Q : β → Prop}
    {groups : List LogicalSql.Expr} (hgroups : ∀ e ∈ groups, ReadsAny L true e ∧ Opens e)
    (hrest : FollowedBy (clauseWords.drop 9) (u ++ rest))
    (hk : ∀ xs, interpretExprs xs = .ok groups → Reads true (k false xs) u rest Q) :
    Reads true (do
      let grouped ← Reader.keywords ["GROUP", "BY"]
      let groupAll ← if grouped then keyword "ALL" else Pure.pure false
      let groupBy ← if grouped && !groupAll then commaSeparated (groupItem L) else Pure.pure []
      k groupAll groupBy)
      (Token.clause [.keyword "GROUP", .keyword "BY"] (exprTokens groups) ++ u) rest Q := by
  cases groups with
  | nil =>
    refine (keywords_miss (hrest.drop_keyword_ne (by decide))).look ?_
    rintro _ rfl
    exact hk [] rfl
  | cons e es =>
    have hstarts : Starts (Token.commas (exprTokens (e :: es)) ++ (u ++ rest)) :=
      .commas (hgroups e List.mem_cons_self).2 hrest.drop_closes
    have hlist : Reads true (commaSeparated (groupItem L)) (Token.commas (exprTokens (e :: es)))
        (u ++ rest) (List.Forall₂ (fun e x => x.interpret = .ok e) (e :: es)) := by
      rw [exprTokens_eq]
      exact list_reads (List.cons_ne_nil e es) (fun x hx behind hbehind => groupItem_reads
        (hgroups x hx).1 (hgroups x hx).2 (closes_behind hrest.drop_closes hbehind))
        (hrest.symbol_ne (by decide))
    change Reads true _
      ([.keyword "GROUP", .keyword "BY"] ++ (Token.commas (exprTokens (e :: es)) ++ u))
      rest Q
    refine (keywords_hit ["GROUP", "BY"] (by decide)).step ?_
    rintro _ rfl
    refine (keyword_miss ?_).look ?_
    · rw [List.append_assoc]
      exact hstarts.keyword_ne (by decide)
    · rintro _ rfl
      exact hlist.step fun xs hxs => hk xs (interpretExprs_eq hxs)

/-! One selection. -/

/-- The parts of a selection are read from their tokens. -/
structure ReadsClauses (L : Level) (fits : SelectItem → Bool) (s : LogicalSql.Select) : Prop where
  projections_ne : s.projections ≠ []
  projections : ∀ i ∈ s.projections, ReadsItem L (fits i) i
  joins : s.sources = [] → s.joins = []
  tables : ∀ p ∈ paired s.sources s.joins, ReadsTable L p.1 p.2
  filter : ∀ e ∈ s.filter, ReadsAny L true e
  groupBy : ∀ e ∈ s.groupBy, ReadsAny L true e ∧ Opens e
  having : ∀ e ∈ s.having, ReadsAny L true e

section Select

variable {s : LogicalSql.Select} {fits : SelectItem → Bool}

theorem followedBy_groups (hrest : FollowedBy (clauseWords.drop 10) rest) :
    FollowedBy (clauseWords.drop 9) (optionTokens [.keyword "HAVING"] s.having ++ rest) :=
  followedBy_option (by decide) _ (hrest.drop (by decide))

theorem followedBy_filter (hrest : FollowedBy (clauseWords.drop 10) rest) :
    FollowedBy (clauseWords.drop 8) (Token.clause [.keyword "GROUP", .keyword "BY"]
      (exprTokens s.groupBy) ++ optionTokens [.keyword "HAVING"] s.having ++ rest) := by
  rw [List.append_assoc]
  exact followedBy_clause (by decide) _ ((followedBy_groups hrest).drop (by decide))

theorem followedBy_tables (hrest : FollowedBy (clauseWords.drop 10) rest) :
    FollowedBy (clauseWords.drop 7) (optionTokens [.keyword "WHERE"] s.filter ++
      (Token.clause [.keyword "GROUP", .keyword "BY"] (exprTokens s.groupBy) ++
        optionTokens [.keyword "HAVING"] s.having) ++ rest) := by
  rw [List.append_assoc]
  exact followedBy_option (by decide) _ ((followedBy_filter hrest).drop (by decide))

theorem followedBy_items (hjoins : s.sources = [] → s.joins = [])
    (hrest : FollowedBy (clauseWords.drop 10) rest) :
    FollowedBy itemEnds (s.clauseTokens ++ rest) := by
  have htables : FollowedBy itemEnds _ :=
    (followedBy_tables (s := s) hrest).mono (List.subset_cons_self _ _)
  rw [LogicalSql.Select.clauseTokens, List.append_assoc]
  cases hsources : s.sources with
  | nil =>
    rw [hjoins hsources]
    exact htables
  | cons => exact followedBy_keyword (by decide)

/-- The clauses behind the fields. -/
theorem clauses_reads (h : ReadsClauses L fits s) (hrest : FollowedBy (clauseWords.drop 10) rest)
    {opening : Lexeme} {distinct top : Option Shown} {projection : List Item}
    (hdistinct : distinct.isSome = s.distinct)
    (hprojection : interpretItems projection = .ok s.projections) :
    Reads true (do
      let into ← into?
      let sources ← if ← keyword "FROM" then commaSeparated L.tableItem else Pure.pure []
      let lateralViews ← many (lateralView? L)
      let filter ← option (keyword "WHERE") L.anyExpr
      let grouped ← Reader.keywords ["GROUP", "BY"]
      let groupAll ← if grouped then keyword "ALL" else Pure.pure false
      let groupBy ← if grouped && !groupAll then commaSeparated (groupItem L) else Pure.pure []
      let clusterBy ← listBehind L "CLUSTER"
      let distributeBy ← listBehind L "DISTRIBUTE"
      let sortBy ← listBehind L "SORT"
      let having ← option (keyword "HAVING") L.anyExpr
      let windowsFirst ← peekKeyword "WINDOW"
      let early ← windows L
      let qualify ← option (keyword "QUALIFY") L.anyExpr
      let late ← if windowsFirst || qualify.isNone then Pure.pure [] else windows L
      return (⟨opening, distinct, top, projection, into, sources, lateralViews, filter, groupAll,
        groupBy, clusterBy, distributeBy, sortBy, having, early ++ late, qualify, windowsFirst⟩ :
        Select))
      s.clauseTokens rest fun x => x.interpret = .ok s.own := by
  have hitemsEnd := followedBy_items h.joins hrest
  have hinto : Reads true into? [] (s.clauseTokens ++ rest) (· = none) :=
    Reads.ite_false (u := []) (keyword_miss
      (hitemsEnd.keyword_ne (List.Subset.trans itemEnds_subset clauseWords_subset) (by decide)))
      (.pure rfl)
  refine hinto.look ?_
  rintro _ rfl
  refine Reads.cond (f := true) (from_reads h.joins h.tables (followedBy_tables hrest))
    fun ts hts => ?_
  have hviews : Reads true (many (lateralView? L)) [] (optionTokens [.keyword "WHERE"] s.filter ++
      (Token.clause [.keyword "GROUP", .keyword "BY"] (exprTokens s.groupBy) ++
        optionTokens [.keyword "HAVING"] s.having) ++ rest) (· = []) := by
    have hend := followedBy_tables (s := s) hrest
    exact many_none (Reads.ite_false (u := []) (keywords_miss (hend.drop_keyword_ne (by decide)))
      (.pure rfl))
  refine hviews.look ?_
  rintro _ rfl
  refine (option_reads rfl h.filter (followedBy_filter hrest).drop_closes
    ((followedBy_filter hrest).drop_keyword_ne (by decide))).step fun filter hfilter => ?_
  refine groups_reads h.groupBy (followedBy_groups hrest) fun groups hgroups => ?_
  refine (having_reads h.having hrest).mono ?_
  rintro _ ⟨having, hhaving, rfl⟩
  rw [Surface.Select.interpret, hprojection, hts, hfilter, hgroups, hhaving, hdistinct]
  rfl

theorem select_reads (h : ReadsClauses L fits s) (hrest : FollowedBy (clauseWords.drop 10) rest) :
    Reads (s.projections.all fits) (select L) s.ownTokens rest
      fun x => x.interpret = .ok s.own := by
  have hitemsEnd := followedBy_items h.joins hrest
  have hfirst : ∀ w ∈ leadingWords, headIs (·.isKeyword w)
      (Token.commas (itemTokens s.projections) ++ s.clauseTokens ++ rest) = false := by
    intro w hw
    rw [List.append_assoc]
    exact items_keyword_ne h.projections_ne h.projections hitemsEnd hw
  have htop : Reads true (top? L) []
      (Token.commas (itemTokens s.projections) ++ s.clauseTokens ++ rest) (· = none) :=
    Reads.ite_false (u := []) (keyword_miss (hfirst _ (by decide))) (.pure rfl)
  refine (nextLexeme_reads _).step fun opening _ => ?_
  refine (distinct?_reads s.distinct ?_).step fun distinct hdistinct => ?_
  · have hwords : ∀ w ∈ ["ALL", "DISTINCT", "ON"], w ∈ leadingWords := by decide
    exact fun w hw => hfirst w (hwords w hw)
  · refine htop.look ?_
    rintro _ rfl
    refine (items_reads h.projections_ne h.projections hitemsEnd).andThen
      fun projection hprojection => ?_
    exact clauses_reads h hrest hdistinct hprojection

end Select

end Surface.Reader

end LogicalSql
