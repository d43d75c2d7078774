import LogicalSql.Proofs.Outcome
import LogicalSql.Query.Parse
import LogicalSql.Query.Print

/-! The join structure of a `FROM` clause: as it is written, as a query keeps it, and as the text of
the query says it. -/
namespace LogicalSql

/-- A source with the joins that belong to it. -/
structure FromItem where
  source : Source
  joins : List Join

/-- A part of a `FROM` clause: a source at its start or behind a comma, or a join. -/
inductive FromPiece where
  | source (source : Source)
  | join (join : Join)

/-- The joins in front of any source, and the items. A join belongs to the item that it follows. -/
def readPieces : List FromPiece → List Join × List FromItem
  | [] => ([], [])
  | .source s :: ps => ([], ⟨s, (readPieces ps).1⟩ :: (readPieces ps).2)
  | .join j :: ps => (j :: (readPieces ps).1, (readPieces ps).2)

namespace FromItem

def pieces (i : FromItem) : List FromPiece := .source i.source :: i.joins.map .join

def sql (i : FromItem) : String := " ".intercalate (i.source.sql :: joinTexts i.joins)

end FromItem

theorem readPieces_joins (joins : List Join) (ps : List FromPiece) :
    readPieces (joins.map .join ++ ps) = (joins ++ (readPieces ps).1, (readPieces ps).2) := by
  induction joins with
  | nil => rfl
  | cons j js ih => simp only [List.map_cons, List.cons_append, readPieces, ih]

/-- Items are read back from their own pieces. -/
theorem readPieces_flatMap_pieces (items : List FromItem) :
    readPieces (items.flatMap FromItem.pieces) = ([], items) := by
  induction items with
  | nil => rfl
  | cons i is ih =>
    simp only [List.flatMap_cons, FromItem.pieces, List.cons_append, readPieces, readPieces_joins,
      ih, List.append_nil]

/-- The items that all sources, and all joins behind them, are read back as. -/
def readBack (sources : List Source) (joins : List Join) : List FromItem :=
  (readPieces (sources.map .source ++ joins.map .join)).2

theorem readBack_singleton (s : Source) (joins : List Join) :
    readBack [s] joins = [⟨s, joins⟩] := by
  have hjoins := readPieces_joins joins []
  simp only [readPieces, List.append_nil] at hjoins
  simp only [readBack, List.map_cons, List.map_nil, List.singleton_append, readPieces, hjoins]

theorem readBack_cons_cons (s s' : Source) (ss : List Source) (joins : List Join) :
    readBack (s :: s' :: ss) joins = ⟨s, []⟩ :: readBack (s' :: ss) joins := rfl

/-- All sources and all joins are read back as the items that they come from exactly when only the
last item has joins. -/
theorem readBack_eq_iff (items : List FromItem) :
    readBack (items.map FromItem.source) (items.flatMap FromItem.joins) = items ↔
      ∀ i ∈ items.dropLast, i.joins = [] := by
  induction items with
  | nil => exact ⟨fun _ => nofun, fun _ => rfl⟩
  | cons i is ih =>
    cases is with
    | nil => simp [readBack_singleton]
    | cons i' is =>
      rw [List.map_cons, List.map_cons, readBack_cons_cons, List.dropLast_cons_cons,
        List.forall_mem_cons, ← ih, List.flatMap_cons, List.cons.injEq, List.map_cons]
      constructor
      · rintro ⟨hi, his⟩
        have hjoins : i.joins = [] := (congrArg FromItem.joins hi).symm
        rw [hjoins, List.nil_append] at his
        exact ⟨hjoins, his⟩
      · rintro ⟨hjoins, his⟩
        rw [hjoins, List.nil_append]
        exact ⟨by rw [← hjoins], his⟩

/-- Items as a clause, each source with its joins behind it. -/
def fromClause (items : List FromItem) : List String := listClause "FROM" (items.map FromItem.sql)

/-- Neighbours put together with the separator between them are one of the parts. -/
theorem intercalate_merge (sep : String) {ys : List String} (hys : ys ≠ []) (xs zs : List String) :
    sep.intercalate (xs ++ ys ++ zs) = sep.intercalate (xs ++ [sep.intercalate ys] ++ zs) := by
  have hfront : sep.intercalate (xs ++ ys) = sep.intercalate (xs ++ [sep.intercalate ys]) := by
    by_cases hxs : xs = []
    · rw [hxs, List.nil_append, List.nil_append, String.intercalate_singleton]
    · rw [String.intercalate_append_of_ne_nil hxs hys,
        String.intercalate_append_of_ne_nil hxs (List.cons_ne_nil _ _),
        String.intercalate_singleton]
  by_cases hzs : zs = []
  · rw [hzs, List.append_nil, List.append_nil, hfront]
  · rw [String.intercalate_append_of_ne_nil (List.append_ne_nil_of_right_ne_nil xs hys) hzs,
      String.intercalate_append_of_ne_nil
        (List.append_ne_nil_of_right_ne_nil xs (List.cons_ne_nil _ _)) hzs, hfront]

/-- Sources with all joins behind the last one are the texts of what they are read back as. -/
theorem commaList_readBack (s : Source) (ss : List Source) (joins : List Join) :
    " ".intercalate (commaList (sourceTexts (s :: ss)) :: joinTexts joins) =
      commaList ((readBack (s :: ss) joins).map FromItem.sql) := by
  induction ss generalizing s with
  | nil =>
    simp only [readBack_singleton, List.map_cons, List.map_nil, FromItem.sql, sourceTexts,
      commaList, String.intercalate_singleton]
  | cons s' ss ih =>
    have hne : (readBack (s' :: ss) joins).map FromItem.sql ≠ [] := by
      cases ss with
      | nil => rw [readBack_singleton]; exact List.cons_ne_nil _ _
      | cons => exact List.cons_ne_nil _ _
    have hsources : sourceTexts (s' :: ss) ≠ [] := by
      rw [sourceTexts]
      exact List.cons_ne_nil _ _
    have hfirst : commaList (sourceTexts (s :: s' :: ss)) =
        s.sql ++ ", " ++ commaList (sourceTexts (s' :: ss)) := by
      rw [sourceTexts, commaList, String.intercalate_cons_of_ne_nil hsources, commaList]
    have hitem : FromItem.sql ⟨s, []⟩ = s.sql := by
      rw [FromItem.sql, joinTexts, String.intercalate_singleton]
    rw [hfirst, String.intercalate_cons_append, ih, readBack_cons_cons, List.map_cons, hitem,
      commaList, commaList, String.intercalate_cons_of_ne_nil hne]

/-- The text of a selection with these clauses in the place of its `FROM` clause and its joins. -/
def Select.sqlAround (clauses : List String) : Select → String
  | { distinct, projections, filter, groupBy, having, orderBy, limit, offset, setOperation, .. } =>
    " ".intercalate <|
      ["SELECT " ++ distinctSql distinct ++
        (if projections.isEmpty then "*" else commaList (itemTexts projections))] ++
      clauses ++
      (clauseText "WHERE" filter ++
      listClause "GROUP BY" (exprTexts groupBy) ++
      clauseText "HAVING" having ++
      setOperationText setOperation ++
      listClause "ORDER BY" (orderTexts orderBy) ++
      clauseText "LIMIT" limit ++
      clauseText "OFFSET" offset)

namespace Select

/-- The items that the clause of a selection is read back as. -/
def fromItems (s : Select) : List FromItem := readBack s.sources s.joins

theorem sqlAround_merge (s : Select) {clauses : List String} (h : clauses ≠ []) :
    s.sqlAround clauses = s.sqlAround [" ".intercalate clauses] := by
  cases s
  rw [sqlAround, sqlAround, intercalate_merge " " h]

theorem sql_eq_sqlAround (s : Select) :
    s.sql = s.sqlAround (listClause "FROM" (sourceTexts s.sources) ++ joinTexts s.joins) := by
  obtain ⟨distinct, projections, sources, joins, filter, groupBy, having, orderBy, limit, offset,
    setOperation⟩ := s
  simp only [Select.sql, Select.sqlAround, List.append_assoc]

/-- The text of a selection is the text of the items that its clause is read back as. -/
theorem sql_eq_fromClause (s : Select) (h : s.sources = [] → s.joins = []) :
    s.sql = s.sqlAround (fromClause s.fromItems) := by
  rw [sql_eq_sqlAround, fromItems]
  cases hsources : s.sources with
  | nil =>
    rw [h hsources]
    rfl
  | cons source sources =>
    have hclause : listClause "FROM" (sourceTexts (source :: sources)) =
        ["FROM " ++ commaList (sourceTexts (source :: sources))] := by
      rw [sourceTexts]
      rfl
    have hitems : fromClause (readBack (source :: sources) s.joins) =
        ["FROM " ++ commaList ((readBack (source :: sources) s.joins).map FromItem.sql)] := by
      cases sources with
      | nil => rw [readBack_singleton]; rfl
      | cons => rfl
    rw [hclause, List.singleton_append, sqlAround_merge s (List.cons_ne_nil _ _),
      String.intercalate_cons_append, commaList_readBack, hitems]

end Select

namespace Surface

/-- A table with the joins behind it, as an item of a query. -/
def TableItem.interpret : TableItem → Except ParseError FromItem
  | ⟨factor, joins⟩ => return ⟨← factor.interpret, ← interpretJoins joins⟩

/-- A query keeps all sources, and all joins behind them. -/
theorem interpretTableItems_eq_ok {items : List TableItem} {sources : List Source}
    {joins : List LogicalSql.Join} (h : interpretTableItems items = .ok (sources, joins)) :
    ∃ written, items.mapM TableItem.interpret = .ok written ∧
      sources = written.map FromItem.source ∧ joins = written.flatMap FromItem.joins := by
  induction items generalizing sources joins with
  | nil =>
    rw [interpretTableItems] at h
    cases h
    exact ⟨[], rfl, rfl, rfl⟩
  | cons item items ih =>
    obtain ⟨factor, own⟩ := item
    rw [interpretTableItems] at h
    obtain ⟨source, hsource, h⟩ := bind_eq_ok.1 h
    obtain ⟨own', hown, h⟩ := bind_eq_ok.1 h
    obtain ⟨⟨sources', more⟩, hrest, h⟩ := bind_eq_ok.1 h
    cases h
    obtain ⟨written, hwritten, rfl, rfl⟩ := ih hrest
    refine ⟨⟨source, own'⟩ :: written, ?_, rfl, rfl⟩
    rw [List.mapM_cons, TableItem.interpret, hsource, hwritten, hown]
    rfl

theorem Select.interpret_sources {select : Select} {s : LogicalSql.Select}
    (h : select.interpret = .ok s) :
    interpretTableItems select.sources = .ok (s.sources, s.joins) := by
  obtain ⟨opening, distinct, top, projection, into, sources, views, filter, groupAll, groupBy,
    clusterBy, distributeBy, sortBy, having, windows, qualify, windowsFirst⟩ := select
  rw [Select.interpret] at h
  obtain ⟨projections, -, h⟩ := bind_eq_ok.1 h
  obtain ⟨⟨sources', joins'⟩, hsources, h⟩ := bind_eq_ok.1 h
  obtain ⟨filter', -, h⟩ := bind_eq_ok.1 h
  obtain ⟨groupBy', -, h⟩ := bind_eq_ok.1 h
  obtain ⟨having', -, h⟩ := bind_eq_ok.1 h
  cases h
  exact hsources

/-- The clause of a selection is read as the items that are written in it. The text of the query
that it stands for is read as the same items exactly when none but the last has joins. -/
theorem Select.fromItems_eq_iff {select : Select} {s : LogicalSql.Select}
    (h : select.interpret = .ok s) :
    ∃ items, select.sources.mapM TableItem.interpret = .ok items ∧
      readPieces (items.flatMap FromItem.pieces) = ([], items) ∧
      s.sources = items.map FromItem.source ∧ s.joins = items.flatMap FromItem.joins ∧
      s.sql = s.sqlAround (fromClause s.fromItems) ∧
      (s.fromItems = items ↔ ∀ i ∈ items.dropLast, i.joins = []) := by
  obtain ⟨items, hitems, hsources, hjoins⟩ := interpretTableItems_eq_ok (interpret_sources h)
  have hempty : s.sources = [] → s.joins = [] := by
    intro hnil
    rw [hsources, List.map_eq_nil_iff] at hnil
    rw [hjoins, hnil, List.flatMap_nil]
  refine ⟨items, hitems, readPieces_flatMap_pieces items, hsources, hjoins,
    s.sql_eq_fromClause hempty, ?_⟩
  rw [LogicalSql.Select.fromItems, hsources, hjoins]
  exact readBack_eq_iff items

/-- Two items, of which the last has a join. -/
theorem Select.last_join_read_back :
    let table (name : String) : TableFactor := .table [⟨name, none, .nowhere⟩] none false none []
    let select : Select :=
      ⟨⟨.word "SELECT" none, .nowhere, []⟩, none, none, [.wildcard .nowhere], none,
        [⟨table "a", []⟩, ⟨table "b", [⟨false, .known .left, table "c", .natural⟩]⟩],
        [], none, false, [], [], [], [], none, [], none, false⟩
    let a : FromItem := ⟨.table none "a" none, []⟩
    let b : FromItem := ⟨.table none "b" none, [⟨.left, .table none "c" none, some .natural⟩]⟩
    ∃ s, select.interpret = .ok s ∧ s.fromItems = [a, b] ∧
      s.sql = "SELECT * FROM a, b NATURAL LEFT JOIN c" := by
  intro table select a b
  obtain ⟨s, h⟩ : ∃ s, select.interpret = .ok s := ⟨_, rfl⟩
  obtain ⟨items, hitems, -, -, -, hsql, hiff⟩ := fromItems_eq_iff h
  have hab : [a, b] = items := Except.ok.inj hitems
  have hlast : ∀ i ∈ [a, b].dropLast, i.joins = [] := List.forall_mem_singleton.2 rfl
  refine ⟨s, h, hab ▸ hiff.2 (hab ▸ hlast), ?_⟩
  cases h
  decide +kernel

/-- The join of the first item is read back as one of the last. -/
theorem Select.join_read_back_elsewhere :
    let table (name : String) : TableFactor := .table [⟨name, none, .nowhere⟩] none false none []
    let select : Select :=
      ⟨⟨.word "SELECT" none, .nowhere, []⟩, none, none, [.wildcard .nowhere], none,
        [⟨table "a", [⟨false, .known .left, table "b", .natural⟩]⟩, ⟨table "c", []⟩],
        [], none, false, [], [], [], [], none, [], none, false⟩
    let join : LogicalSql.Join := ⟨.left, .table none "b" none, some .natural⟩
    let a : Source := .table none "a" none
    let c : Source := .table none "c" none
    select.sources.mapM TableItem.interpret = .ok [⟨a, [join]⟩, ⟨c, []⟩] ∧
    (∃ s, select.interpret = .ok s ∧ s.fromItems = [⟨a, []⟩, ⟨c, [join]⟩] ∧
      s.fromItems ≠ [⟨a, [join]⟩, ⟨c, []⟩]) ∧
    (LogicalSql.Query.parse "SELECT * FROM a NATURAL LEFT JOIN b, c").map LogicalSql.Query.sql =
      .ok "SELECT * FROM a, c NATURAL LEFT JOIN b" := by
  intro table select join a c
  refine ⟨rfl, ⟨_, rfl, rfl, ?_⟩, by decide +kernel⟩
  intro h
  have hjoins : [] = [join] := congrArg FromItem.joins (List.cons.inj h).1
  cases hjoins

end Surface

end LogicalSql
