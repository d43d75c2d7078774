import LogicalSql.Proofs.Lowering.DerivedTables

/-! The frame of a query: all that lowering leaves as it stands around the calls it replaces. -/
namespace LogicalSql

open Lowering

/-- What `TYPEIDENTIFIER` of a column may become. -/
abbrev TypeRule := Option String → String → Expr → Prop

/-- The same in a `SELECT` with these sources, first as written and then as they are left. -/
abbrev SourceRule := Scope → Scope → TypeRule

/-- An expression for a type: a constant or a column. -/
inductive Expr.IsType : Expr → Prop
  | constant (bytes : List UInt8) : IsType (.literal (.binary bytes))
  | column (table : Option String) (name : String) : IsType (.column table name)

/-- The fields of a branch and, behind them, the types behind these columns, the last asked for
first. A field that has the new alias already is taken for the type. -/
inductive FieldsGained (T : TypeRule) (items : List SelectItem) :
    List String → List SelectItem → Prop
  | none : FieldsGained T items [] items
  | written {columns : List String} {fields : List SelectItem} {column : String}
      (h : FieldsGained T items columns fields)
      (hwritten : some (typeAlias column) ∈ items.map SelectItem.alias?) :
      FieldsGained T items (column :: columns) fields
  | added {columns : List String} {fields : List SelectItem} {column name : String}
      {table : Option String} {e : Expr} (h : FieldsGained T items columns fields)
      (hfresh : some (typeAlias column) ∉ fields.map SelectItem.alias?)
      (hfield : FieldFor fields column table name) (htype : e.IsType) (hrule : T table name e) :
      FieldsGained T items (column :: columns) (fields ++ [.expr e (some (typeAlias column))])

mutual

/-- The second query has the frame of the first. Its branches have new fields for these columns. -/
inductive Query.Framed (R : SourceRule) : List String → Query → Query → Prop
  | select {columns : List String} {s s' : Select} (h : Select.Framed R columns s s') :
      Query.Framed R columns (.select s) (.select s')
  | withCtes {columns : List String} {recursive : Bool} {ctes ctes' : List Cte} {body body' : Query}
      (hctes : List.Forall₂ (Cte.Framed R) ctes ctes') (hbody : Query.Framed R columns body body') :
      Query.Framed R columns (.withCtes recursive ctes body) (.withCtes recursive ctes' body')
  | raw {columns : List String} (text : String) : Query.Framed R columns (.raw text) (.raw text)

inductive Cte.Framed (R : SourceRule) : Cte → Cte → Prop
  | intro {name : String} {columns : List String} {query query' : Query}
      (h : Query.Framed R [] query query') :
      Cte.Framed R ⟨name, columns, query⟩ ⟨name, columns, query'⟩

/-- One rule for `TYPEIDENTIFIER` serves all clauses. What it admits is right for the sources as
they are left in the end. -/
inductive Select.Framed (R : SourceRule) : List String → Select → Select → Prop
  | intro {columns : List String} {distinct : Bool}
      {projections projections' items : List SelectItem} {sources sources' : List Source}
      {joins joins' : List Join}
      {filter filter' having having' limit limit' offset offset' : Option Expr}
      {groupBy groupBy' : List Expr} {orderBy orderBy' : List OrderItem}
      {setOperation setOperation' : Option SetOperation} {T : TypeRule}
      (hrule : ∀ table name e, T table name e →
        R ⟨sources, joins.map Join.source⟩ ⟨sources', joins'.map Join.source⟩ table name e)
      (hitems : FramedItems R T projections items)
      (hgained : FieldsGained
        (R ⟨sources, joins.map Join.source⟩ ⟨sources', joins'.map Join.source⟩) items columns
        projections')
      (hsources : List.Forall₂ (Source.Framed R) sources sources')
      (hjoins : FramedJoins R T joins joins')
      (hfilter : FramedOption R T filter filter')
      (hgroupBy : FramedExprs R T groupBy groupBy')
      (hhaving : FramedOption R T having having')
      (horderBy : FramedOrder R T orderBy orderBy')
      (hlimit : FramedOption R T limit limit')
      (hoffset : FramedOption R T offset offset')
      (hrest : FramedRest R columns setOperation setOperation') :
      Select.Framed R columns
        ⟨distinct, projections, sources, joins, filter, groupBy, having, orderBy, limit, offset,
          setOperation⟩
        ⟨distinct, projections', sources', joins', filter', groupBy', having', orderBy', limit',
          offset', setOperation'⟩

/-- What follows in a chain of set operations has branches of the same query. -/
inductive FramedRest (R : SourceRule) :
    List String → Option SetOperation → Option SetOperation → Prop
  | none {columns : List String} : FramedRest R columns none none
  | some {columns : List String} {op : SetOperator} {all : Bool} {right right' : Query}
      (h : Query.Framed R columns right right') :
      FramedRest R columns (some ⟨op, all, right⟩) (some ⟨op, all, right'⟩)

/-- Only the branches of a derived table may have new fields. -/
inductive Source.Framed (R : SourceRule) : Source → Source → Prop
  | table (schema : Option String) (name : String) (a : Option String) :
      Source.Framed R (.table schema name a) (.table schema name a)
  | subquery {columns : List String} {query query' : Query} (a : String)
      (h : Query.Framed R columns query query') :
      Source.Framed R (.subquery query a) (.subquery query' a)
  | function (name : String) (args : List Expr) (a : Option String) :
      Source.Framed R (.function name args a) (.function name args a)

inductive FramedJoins (R : SourceRule) : TypeRule → List Join → List Join → Prop
  | nil {T : TypeRule} : FramedJoins R T [] []
  | cons {T : TypeRule} {kind : JoinKind} {source source' : Source}
      {condition condition' : Option JoinCondition} {js js' : List Join}
      (hsource : Source.Framed R source source')
      (hcondition : FramedCondition R T condition condition') (h : FramedJoins R T js js') :
      FramedJoins R T (⟨kind, source, condition⟩ :: js) (⟨kind, source', condition'⟩ :: js')

inductive FramedCondition (R : SourceRule) :
    TypeRule → Option JoinCondition → Option JoinCondition → Prop
  | none {T : TypeRule} : FramedCondition R T none none
  | on {T : TypeRule} {e e' : Expr} (h : Expr.Framed R T e e') :
      FramedCondition R T (some (.on e)) (some (.on e'))
  | using {T : TypeRule} (columns : List String) :
      FramedCondition R T (some (.using columns)) (some (.using columns))
  | natural {T : TypeRule} : FramedCondition R T (some .natural) (some .natural)

inductive FramedItems (R : SourceRule) : TypeRule → List SelectItem → List SelectItem → Prop
  | nil {T : TypeRule} : FramedItems R T [] []
  | cons {T : TypeRule} {i i' : SelectItem} {is is' : List SelectItem}
      (hi : SelectItem.Framed R T i i') (h : FramedItems R T is is') :
      FramedItems R T (i :: is) (i' :: is')

inductive SelectItem.Framed (R : SourceRule) : TypeRule → SelectItem → SelectItem → Prop
  | wildcard {T : TypeRule} : SelectItem.Framed R T .wildcard .wildcard
  | wildcardOf {T : TypeRule} (table : String) :
      SelectItem.Framed R T (.wildcardOf table) (.wildcardOf table)
  | expr {T : TypeRule} {e e' : Expr} (a : Option String) (h : Expr.Framed R T e e') :
      SelectItem.Framed R T (.expr e a) (.expr e' a)

inductive FramedOrder (R : SourceRule) : TypeRule → List OrderItem → List OrderItem → Prop
  | nil {T : TypeRule} : FramedOrder R T [] []
  | cons {T : TypeRule} {e e' : Expr} {ascending nullsFirst : Option Bool} {os os' : List OrderItem}
      (he : Expr.Framed R T e e') (h : FramedOrder R T os os') :
      FramedOrder R T (⟨e, ascending, nullsFirst⟩ :: os) (⟨e', ascending, nullsFirst⟩ :: os')

inductive FramedOption (R : SourceRule) : TypeRule → Option Expr → Option Expr → Prop
  | none {T : TypeRule} : FramedOption R T none none
  | some {T : TypeRule} {e e' : Expr} (h : Expr.Framed R T e e') :
      FramedOption R T (some e) (some e')

inductive FramedExprs (R : SourceRule) : TypeRule → List Expr → List Expr → Prop
  | nil {T : TypeRule} : FramedExprs R T [] []
  | cons {T : TypeRule} {e e' : Expr} {es es' : List Expr} (he : Expr.Framed R T e e')
      (h : FramedExprs R T es es') : FramedExprs R T (e :: es) (e' :: es')

inductive FramedWhens (R : SourceRule) : TypeRule → List (Expr × Expr) → List (Expr × Expr) → Prop
  | nil {T : TypeRule} : FramedWhens R T [] []
  | cons {T : TypeRule} {condition condition' result result' : Expr} {ws ws' : List (Expr × Expr)}
      (hcondition : Expr.Framed R T condition condition') (hresult : Expr.Framed R T result result')
      (h : FramedWhens R T ws ws') :
      FramedWhens R T ((condition, result) :: ws) ((condition', result') :: ws')

/-- An expression in which a walk meets no call is the same. -/
inductive Expr.Framed (R : SourceRule) : TypeRule → Expr → Expr → Prop
  | intro {T : TypeRule} {e e' : Expr} (hparts : FramedParts R T e e')
      (hfree : e.harvest .calls {} = [] → e' = e) : Expr.Framed R T e e'

/-- A call becomes what its function makes of the arguments. Everything else keeps its form. -/
inductive FramedParts (R : SourceRule) : TypeRule → Expr → Expr → Prop
  | column {T : TypeRule} (table : Option String) (name : String) :
      FramedParts R T (.column table name) (.column table name)
  | literal {T : TypeRule} (value : Literal) : FramedParts R T (.literal value) (.literal value)
  | binary {T : TypeRule} {left left' right right' : Expr} (op : BinaryOp)
      (hleft : Expr.Framed R T left left') (hright : Expr.Framed R T right right') :
      FramedParts R T (.binary left op right) (.binary left' op right')
  | unary {T : TypeRule} {e e' : Expr} (op : UnaryOp) (h : Expr.Framed R T e e') :
      FramedParts R T (.unary op e) (.unary op e')
  | call {T : TypeRule} {f : LogicalFunction} {args args' : List Expr} {e : Expr}
      (hargs : FramedExprs R T args args') (h : Lowered f args' e) :
      FramedParts R T (.call f args) e
  | typeIdentifier {T : TypeRule} {args : List Expr} {table : Option String} {name : String}
      {e : Expr} (hargs : FramedExprs R T args [.column table name]) (htype : e.IsType)
      (h : T table name e) : FramedParts R T (.call .typeIdentifier args) e
  | function {T : TypeRule} {args args' : List Expr} (name : String) (distinct : Bool)
      (hargs : FramedExprs R T args args') :
      FramedParts R T (.function name args distinct) (.function name args' distinct)
  | aggregate {T : TypeRule} {args args' : List Expr} {filter filter' : Option Expr} (name : String)
      (distinct : Bool) (hargs : FramedExprs R T args args')
      (hfilter : FramedOption R T filter filter') :
      FramedParts R T (.aggregate name args distinct filter)
        (.aggregate name args' distinct filter')
  | case {T : TypeRule} {operand operand' otherwise otherwise' : Option Expr}
      {whens whens' : List (Expr × Expr)} (hoperand : FramedOption R T operand operand')
      (hwhens : FramedWhens R T whens whens') (hotherwise : FramedOption R T otherwise otherwise') :
      FramedParts R T (.case operand whens otherwise) (.case operand' whens' otherwise')
  | subquery {T : TypeRule} {query query' : Query} (h : Query.Framed R [] query query') :
      FramedParts R T (.subquery query) (.subquery query')
  | exists {T : TypeRule} {query query' : Query} (h : Query.Framed R [] query query') :
      FramedParts R T (.exists query) (.exists query')
  | inList {T : TypeRule} {e e' : Expr} {list list' : List Expr} (negated : Bool)
      (he : Expr.Framed R T e e') (hlist : FramedExprs R T list list') :
      FramedParts R T (.inList e list negated) (.inList e' list' negated)
  | inSubquery {T : TypeRule} {e e' : Expr} {query query' : Query} (negated : Bool)
      (he : Expr.Framed R T e e') (hquery : Query.Framed R [] query query') :
      FramedParts R T (.inSubquery e query negated) (.inSubquery e' query' negated)
  | between {T : TypeRule} {e e' low low' high high' : Expr} (negated : Bool)
      (he : Expr.Framed R T e e') (hlow : Expr.Framed R T low low')
      (hhigh : Expr.Framed R T high high') :
      FramedParts R T (.between e low high negated) (.between e' low' high' negated)
  | isNull {T : TypeRule} {e e' : Expr} (negated : Bool) (h : Expr.Framed R T e e') :
      FramedParts R T (.isNull e negated) (.isNull e' negated)
  | cast {T : TypeRule} {e e' : Expr} (dataType : String) (h : Expr.Framed R T e e') :
      FramedParts R T (.cast e dataType) (.cast e' dataType)
  | wildcard {T : TypeRule} : FramedParts R T .wildcard .wildcard
  | parameter {T : TypeRule} (index : Nat) : FramedParts R T (.parameter index) (.parameter index)
  | nested {T : TypeRule} {e e' : Expr} (h : Expr.Framed R T e e') :
      FramedParts R T (.nested e) (.nested e')

end

variable {R : SourceRule} {T : TypeRule}

theorem any_hasAlias_iff {fields : List SelectItem} {name : String} :
    fields.any (hasAlias name) = true ↔ some name ∈ fields.map SelectItem.alias? := by
  have hitem : ∀ i : SelectItem, hasAlias name i = true ↔ i.alias? = some name := by
    intro i
    unfold hasAlias
    split
    case h_1 e a => simp [SelectItem.alias?]
    case h_2 hnot =>
      simp only [Bool.false_eq_true, false_iff]
      intro ha
      cases i with
      | wildcard => cases ha
      | wildcardOf => cases ha
      | expr e a => exact hnot e name (congrArg _ ha)
  simp only [List.any_eq_true, List.mem_map, hitem]

theorem typeAlias_inj {column column' : String} :
    typeAlias column = typeAlias column' ↔ column = column' :=
  String.append_left_inj _

namespace FieldsGained

variable {items fields : List SelectItem} {columns : List String} {column : String}

theorem mono {T' : TypeRule} (hT : ∀ table name e, T table name e → T' table name e)
    (h : FieldsGained T items columns fields) : FieldsGained T' items columns fields := by
  induction h with
  | none => exact .none
  | written _ hwritten ih => exact .written ih hwritten
  | added _ hfresh hfield htype hrule ih => exact .added ih hfresh hfield htype (hT _ _ _ hrule)

/-- A field has the alias of a type if it was written so, or if the type was asked for. -/
theorem mem_aliases (h : FieldsGained T items columns fields) :
    some (typeAlias column) ∈ fields.map SelectItem.alias? ↔
      some (typeAlias column) ∈ items.map SelectItem.alias? ∨ column ∈ columns := by
  induction h with
  | none => simp only [List.not_mem_nil, or_false]
  | @written columns fields column' _ hwritten ih =>
    rw [ih, List.mem_cons]
    by_cases hcolumn : column = column'
    · simp only [hcolumn, hwritten, true_or]
    · simp only [hcolumn, false_or]
  | added _ _ _ _ _ ih =>
    simp only [List.map_append, List.mem_append, ih, List.map_cons, List.map_nil, SelectItem.alias?,
      List.mem_cons, List.not_mem_nil, or_false, Option.some.injEq, typeAlias_inj]
    rw [or_assoc, or_comm (a := column ∈ _)]

/-- A column asked for again, or one whose alias is written, adds nothing. -/
theorem reuse (h : FieldsGained T items columns fields)
    (halias : some (typeAlias column) ∈ fields.map SelectItem.alias?) :
    FieldsGained T items (columns.insert column) fields := by
  by_cases hcolumn : column ∈ columns
  · rw [List.insert_of_mem hcolumn]
    exact h
  · rw [List.insert_of_not_mem hcolumn]
    exact h.written ((h.mem_aliases.1 halias).resolve_right hcolumn)

theorem gain (h : FieldsGained T items columns fields)
    (hfresh : some (typeAlias column) ∉ fields.map SelectItem.alias?) {table : Option String}
    {name : String} {e : Expr} (hfield : FieldFor fields column table name) (htype : e.IsType)
    (hrule : T table name e) :
    FieldsGained T items (columns.insert column)
      (fields ++ [.expr e (some (typeAlias column))]) := by
  have hcolumn : column ∉ columns := fun hmem => hfresh (h.mem_aliases.2 (.inr hmem))
  rw [List.insert_of_not_mem hcolumn]
  exact h.added hfresh hfield htype hrule

end FieldsGained

theorem Source.Framed.bindingName {x y : Source} (h : Source.Framed R x y) :
    y.bindingName = x.bindingName := by
  cases h <;> rfl

theorem FramedJoins.sources {joins joins' : List Join} (h : FramedJoins R T joins joins') :
    List.Forall₂ (Source.Framed R) (joins.map Join.source) (joins'.map Join.source) := by
  induction joins generalizing joins' with
  | nil =>
    cases h
    exact .nil
  | cons j joins ih =>
    cases h with
    | cons hsource _ h => exact .cons hsource (ih h)

/-- Joins may be given other sources, as long as these have the frame of those written. -/
theorem FramedJoins.zipWith {joins joins' : List Join} {sources : List Source}
    (h : FramedJoins R T joins joins')
    (hsources : List.Forall₂ (Source.Framed R) (joins.map Join.source) sources) :
    FramedJoins R T joins (joins'.zipWith (fun j source => { j with source }) sources) := by
  induction joins generalizing joins' sources with
  | nil =>
    cases h
    exact .nil
  | cons j joins ih =>
    cases h with
    | cons _ hcondition h =>
      cases hsources with
      | cons hsource hsources => exact .cons hsource hcondition (ih h hsources)

theorem Select.Framed.scope {columns : List String} {s s' : Select}
    (h : Select.Framed R columns s s') :
    (branchScope s).Rel (Source.Framed R) (branchScope s') := by
  cases h with
  | intro _ _ _ hsources hjoins => exact ⟨hsources, hjoins.sources⟩

theorem Select.Framed.rest {columns : List String} {s s' : Select}
    (h : Select.Framed R columns s s') :
    FramedRest R columns s.setOperation s'.setOperation := by
  cases h with
  | intro _ _ _ _ _ _ _ _ _ _ _ hrest => exact hrest

namespace Lowering

/-- One more type column is looked up. -/
def TypeStep (mappings : MappingSource) (s t : Scope) : Prop :=
  ∃ depth qualifier column e, typeColumn mappings depth qualifier column s = .ok (e, t)

theorem typeColumn_isType {mappings : MappingSource} {depth : Nat} {qualifier : Option String}
    {column : String} {s t : Scope} {e : Expr}
    (h : typeColumn mappings depth qualifier column s = .ok (e, t)) : e.IsType := by
  obtain ⟨schema, name, a, -, he, -⟩ | ⟨d, q, q', a, -, -, -, rfl, -⟩ := typeColumn_cases h
  · cases realizedTypeColumn_prescribed he with
    | constant => exact .constant _
    | typeColumn => exact .column _ _
  · exact .column _ _

/-- A branch is left as it is if it has a field of the new alias, and gains one if it has not. -/
theorem addToBranch_fields {resolve : Resolver} {column : String} {s s' : Select}
    (h : addToBranch resolve column s = .ok s') :
    (some (typeAlias column) ∈ s.projections.map SelectItem.alias? ∧ s' = s) ∨
    some (typeAlias column) ∉ s.projections.map SelectItem.alias? ∧
      ∃ table name type scope, FieldFor s.projections column table name ∧
        resolve table name (branchScope s) = .ok (type, scope) ∧
        s' = withType s column type scope := by
  by_cases halias : some (typeAlias column) ∈ s.projections.map SelectItem.alias?
  · rw [addToBranch, if_pos (any_hasAlias_iff.2 halias)] at h
    exact .inl ⟨halias, pure_eq_ok.1 h⟩
  · obtain ⟨hany, -⟩ | ⟨table, name, type, scope, hfield, hfound, hs'⟩ := addToBranch_cases h
    · exact absurd (any_hasAlias_iff.1 hany) halias
    · exact .inr ⟨halias, table, name, type, scope, fieldFor_of_branchField hfield, hfound, hs'⟩

/-- What a resolver of types has to keep for the frame to be kept. -/
structure ResolverFrames (R : SourceRule) (resolve : Resolver) : Prop where
  isType : ∀ {qualifier column s e t}, resolve qualifier column s = .ok (e, t) → e.IsType
  sources : ∀ {w : Scope} {qualifier column s e t}, w.Rel (Source.Framed R) s →
    resolve qualifier column s = .ok (e, t) → w.Rel (Source.Framed R) t
  found : ∀ {w : Scope} {qualifier column s e t}, w.Rel (Source.Framed R) s →
    resolve qualifier column s = .ok (e, t) → R w t qualifier column e
  stays : ∀ {w : Scope} {qualifier column s e t table name e'}, w.Rel (Source.Framed R) s →
    R w s table name e' → resolve qualifier column s = .ok (e, t) → R w t table name e'

theorem addToBranch_framed {resolve : Resolver} (hresolve : ResolverFrames R resolve)
    {columns : List String} {column : String} {w s s' : Select} {o o' : Option SetOperation}
    (hs : Select.Framed R columns w { s with setOperation := o })
    (h : addToBranch resolve column s = .ok s')
    (ho : FramedRest R (columns.insert column) w.setOperation o') :
    Select.Framed R (columns.insert column) w { s' with setOperation := o' } := by
  have hscope : (branchScope w).Rel (Source.Framed R) (branchScope s) := hs.scope
  obtain ⟨distinct, projections, sources, joins, filter, groupBy, having, orderBy, limit, offset,
    setOperation⟩ := s
  obtain ⟨halias, rfl⟩ | ⟨hfresh, table, name, type, scope, hfield, hfound, rfl⟩ :=
    addToBranch_fields h
  · cases hs with
    | intro hrule hitems hgained hsources hjoins hfilter hgroupBy hhaving horderBy hlimit
        hoffset _ =>
      exact .intro hrule hitems (hgained.reuse halias) hsources hjoins hfilter hgroupBy hhaving
        horderBy hlimit hoffset ho
  · have hrel := hresolve.sources hscope hfound
    have hlength : scope.joined.length = (branchScope _).joined.length :=
      hrel.joined.length_eq.symm.trans hscope.joined.length_eq
    obtain ⟨hjoined, -⟩ := map_withType_joins _ column type hlength
    simp only [withType] at hjoined ⊢
    cases hs with
    | intro hrule hitems hgained hsources hjoins hfilter hgroupBy hhaving horderBy hlimit
        hoffset _ =>
      refine .intro ?_ hitems ?_ hrel.sources (hjoins.zipWith hrel.joined) hfilter hgroupBy hhaving
        horderBy hlimit hoffset ho
      · intro table' name' e hT
        rw [hjoined]
        exact hresolve.stays hscope (hrule table' name' e hT) hfound
      -- the fields gained before have to be right for the new sources too
      · rw [hjoined]
        have hgained' := hgained.mono fun _ _ _ hT => hresolve.stays hscope hT hfound
        exact hgained'.gain hfresh hfield (hresolve.isType hfound) (hresolve.found hscope hfound)

theorem addToQuery_framed {resolve : Resolver} (hresolve : ResolverFrames R resolve)
    (columns : List String) (column : String) (q : Query) {w q' : Query}
    (hq : Query.Framed R columns w q) (h : addToQuery resolve column q = .ok q') :
    Query.Framed R (columns.insert column) w q' := by
  have hrel : FieldRelation resolve column
      (fun q q' => ∀ w, Query.Framed R columns w q → Query.Framed R (columns.insert column) w q')
      fun o o' => ∀ p, FramedRest R columns p o → FramedRest R (columns.insert column) p o' := by
    constructor
    case select =>
      rintro s s' o o' hbranch ho _ (hs | _)
      exact .select (addToBranch_framed (s := { s with setOperation := none }) hresolve hs hbranch
        (ho _ hs.rest))
    case withCtes =>
      rintro recursive ctes body body' hbody _ (_ | ⟨hctes, hq⟩)
      exact .withCtes hctes (hbody _ hq)
    case last =>
      rintro _ ⟨⟩
      exact .none
    case operation =>
      rintro op all right right' hright _ (_ | hq)
      exact .some (hright _ hq)
  exact hrel.query q h w hq

/-- A rule for types that holds where a type column is found and ever after. -/
structure RuleKept (mappings : MappingSource) (R : SourceRule) : Prop where
  found : ∀ {w s t : Scope} {depth qualifier column e}, w.Rel (Source.Framed R) s →
    typeColumn mappings depth qualifier column s = .ok (e, t) → w.Rel (Source.Framed R) t →
    R w t qualifier column e
  stays : ∀ {w s t : Scope} {qualifier column e}, R w s qualifier column e → TypeStep mappings s t →
    w.Rel (Source.Framed R) t → R w t qualifier column e

theorem typeColumn_frames {mappings : MappingSource} (hk : RuleKept mappings R) (depth : Nat) :
    ResolverFrames R (typeColumn mappings depth) := by
  -- a derived table is looked into with one less of depth
  induction depth using Nat.strongRecOn with
  | ind depth ih =>
    have hsources : ∀ {w : Scope} {qualifier column s e t}, w.Rel (Source.Framed R) s →
        typeColumn mappings depth qualifier column s = .ok (e, t) →
        w.Rel (Source.Framed R) t := by
      intro w qualifier column s e t hs h
      obtain ⟨schema, name, a, -, -, rfl⟩ | ⟨d, q, q', a, rfl, hfound, hq, -, rfl⟩ :=
        typeColumn_cases h
      · exact hs
      · refine hs.replace hfound ?_
        rintro x (_ | ⟨_, hx⟩)
        exact .subquery a (addToQuery_framed (ih d d.lt_succ_self) _ column q hx hq)
    exact ⟨typeColumn_isType, hsources, fun hs h => hk.found hs h (hsources hs h),
      fun hs hR h => hk.stays hR ⟨depth, _, _, _, h⟩ (hsources hs h)⟩

end Lowering

end LogicalSql
