import LogicalSql.Lowering.TypeColumn
import LogicalSql.Proofs.Outcome
import LogicalSql.Proofs.Query.Scope

/-! What a mapping prescribes for a reference column, and the steps by which a derived table is
given a type column. -/
namespace LogicalSql

/-- Four bytes, the most significant first. -/
def BigEndian (index : Int32) (bytes : List UInt8) : Prop :=
  bytes.length = 4 ∧ bytes.foldl (fun n b => 256 * n + b.toNat) 0 = index.toUInt32.toNat

theorem typeIndex_bigEndian (index : Int32) :
    ∃ bytes, Literal.typeIndex index = .binary bytes ∧ BigEndian index bytes := by
  refine ⟨_, rfl, rfl, ?_⟩
  have hlt := index.toUInt32.toNat_lt
  simp only [List.foldl_cons, List.foldl_nil, UInt32.toNat_toUInt8, UInt32.toNat_shiftRight,
    UInt32.reduceToNat, Nat.reduceMod, Nat.shiftRight_eq_div_pow]
  omega

namespace Lowering

/-- How a realized table's mapping tells the type behind one of its columns. The first property with
that column alone decides. Where there is none, the first with that reference column does. -/
inductive Prescribed (mappings : MappingSource) (table : String) (qualifier : Option String)
    (column : String) : Expr → Prop
  | constant {t target : TableMapping} {name nested : String} {before after : List PropertyMapping}
      {index : Int32} {bytes : List UInt8}
      (hmapping : mappings.physical table = .ok (some t))
      (hfirst : t.properties = before ++ ⟨name, .single column (some nested)⟩ :: after)
      (hbefore : ∀ p ∈ before, ∀ x, p.layout ≠ .single column x)
      (htarget : mappings.logical nested = .ok (some target))
      (hindex : target.index = some index) (hbytes : BigEndian index bytes) :
      Prescribed mappings table qualifier column (.literal (.binary bytes))
  | typeColumn {t : TableMapping} {name typeColumn : String} {before after : List PropertyMapping}
      (hmapping : mappings.physical table = .ok (some t))
      (hsingle : ∀ p ∈ t.properties, ∀ x, p.layout ≠ .single column x)
      (hfirst : t.properties = before ++ ⟨name, .union column typeColumn⟩ :: after)
      (hbefore : ∀ p ∈ before, ∀ x, p.layout ≠ .union column x) :
      Prescribed mappings table qualifier column (.column qualifier typeColumn)

theorem mapError_eq_ok {ε δ α : Type} {f : ε → δ} {x : Except ε α} {a : α} :
    x.mapError f = .ok a ↔ x = .ok a := by
  cases x with
  | error e => exact ⟨nofun, nofun⟩
  | ok b => exact ⟨fun h => congrArg _ (Except.ok.inj h), fun h => congrArg _ (Except.ok.inj h)⟩

/-- The target of a property with this column alone. -/
def singleOn? (column : String) (p : PropertyMapping) : Option (Option String) :=
  match p.layout with
  | .single c target => if c = column then some target else none
  | .union _ _ => none

/-- The type column of a property with this reference column. -/
def unionOn? (column : String) (p : PropertyMapping) : Option String :=
  match p.layout with
  | .single _ _ => none
  | .union c typeColumn => if c = column then some typeColumn else none

theorem singleOn?_eq_some {column : String} {p : PropertyMapping} {target : Option String} :
    singleOn? column p = some target ↔ p.layout = .single column target := by
  unfold singleOn?
  cases p.layout with
  | single c x => by_cases hc : c = column <;> simp [hc]
  | union c x => simp

theorem unionOn?_eq_some {column : String} {p : PropertyMapping} {typeColumn : String} :
    unionOn? column p = some typeColumn ↔ p.layout = .union column typeColumn := by
  unfold unionOn?
  cases p.layout with
  | single c x => simp
  | union c x => by_cases hc : c = column <;> simp [hc]

/-- The first property that gives an answer, with those before it. -/
theorem findSome?_split {α : Type} {f : PropertyMapping → Option α} {l : α → PropertyLayout}
    (hf : ∀ {p a}, f p = some a ↔ p.layout = l a) {properties : List PropertyMapping} {a : α}
    (h : properties.findSome? f = some a) :
    ∃ before name after, properties = before ++ ⟨name, l a⟩ :: after ∧
      ∀ p ∈ before, ∀ x, p.layout ≠ l x := by
  obtain ⟨before, ⟨name, layout⟩, after, hfirst, hp, hbefore⟩ := List.findSome?_eq_some_iff.1 h
  cases hf.1 hp
  refine ⟨before, name, after, hfirst, ?_⟩
  intro p hp x hx
  exact Option.some_ne_none x ((hf.2 hx).symm.trans (hbefore p hp))

theorem findSome?_singleOn? {column property : String} {target : Option String}
    {properties before after : List PropertyMapping}
    (hfirst : properties = before ++ ⟨property, .single column target⟩ :: after)
    (hbefore : ∀ p ∈ before, ∀ x, p.layout ≠ .single column x) :
    properties.findSome? (singleOn? column) = some target := by
  have hnone : ∀ p ∈ before, singleOn? column p = none := by
    intro p hp
    refine Option.eq_none_iff_forall_ne_some.2 fun x hx => ?_
    exact hbefore p hp x (singleOn?_eq_some.1 hx)
  exact List.findSome?_eq_some_iff.2 ⟨before, _, after, hfirst, singleOn?_eq_some.2 rfl, hnone⟩

theorem realizedTypeColumn_prescribed {mappings : MappingSource} {table : String}
    {qualifier : Option String} {column : String} {e : Expr}
    (h : realizedTypeColumn mappings table qualifier column = .ok e) :
    Prescribed mappings table qualifier column e := by
  rw [realizedTypeColumn] at h
  obtain ⟨found, hfound, h⟩ := bind_eq_ok.1 h
  cases found with
  | none => cases h
  | some t =>
    have hmapping := mapError_eq_ok.1 hfound
    dsimp only at h
    split at h
    case h_1 => cases h
    case h_2 nested hsingle =>
      -- the look-up as one over a named function, so that the split applies
      have hsingle : t.properties.findSome? (singleOn? column) = some (some nested) := hsingle
      obtain ⟨before, name, after, hfirst, hbefore⟩ := findSome?_split singleOn?_eq_some hsingle
      obtain ⟨target?, htarget, h⟩ := bind_eq_ok.1 h
      split at h
      case h_1 index hindex =>
        obtain ⟨target, rfl, hindex⟩ := Option.bind_eq_some_iff.1 hindex
        obtain ⟨bytes, hliteral, hbytes⟩ := typeIndex_bigEndian index
        rw [pure_eq_ok.1 h, hliteral]
        exact .constant hmapping hfirst hbefore (mapError_eq_ok.1 htarget) hindex hbytes
      case h_2 => cases h
    case h_3 typeColumn hsingle hunion =>
      have hsingle : t.properties.findSome? (singleOn? column) = none := hsingle
      have hunion : t.properties.findSome? (unionOn? column) = some typeColumn := hunion
      obtain ⟨before, name, after, hfirst, hbefore⟩ := findSome?_split unionOn?_eq_some hunion
      rw [pure_eq_ok.1 h]
      refine .typeColumn hmapping ?_ hfirst hbefore
      intro p hp x hx
      have hnone := List.findSome?_eq_none_iff.1 hsingle p hp
      exact Option.some_ne_none x ((singleOn?_eq_some.2 hx).symm.trans hnone)
    case h_4 => cases h

/-- A column that always refers to one table tells that table's type. -/
theorem realizedTypeColumn_constant {mappings : MappingSource} {table column nested : String}
    {t target : TableMapping} {index : Int32}
    (hmapping : mappings.physical table = .ok (some t))
    (hsingle : t.properties.findSome? (singleOn? column) = some (some nested))
    (htarget : mappings.logical nested = .ok (some target)) (hindex : target.index = some index)
    (qualifier : Option String) :
    realizedTypeColumn mappings table qualifier column = .ok (.literal (.typeIndex index)) := by
  rw [realizedTypeColumn]
  refine bind_eq_ok.2 ⟨some t, mapError_eq_ok.2 hmapping, ?_⟩
  dsimp only
  generalize hfirst : List.findSome? _ t.properties = single
  obtain rfl : single = some (some nested) := hfirst.symm.trans hsingle
  refine bind_eq_ok.2 ⟨some target, mapError_eq_ok.2 htarget, ?_⟩
  rw [Option.bind_some, hindex]
  rfl

/-- Orders, with a reference to an item and one to a service. -/
def orderMappings : MappingSource where
  logical
    | "Catalog.Items" => .ok (some
      { logicalName := "Catalog.Items", physicalName := "_Reference5", type := .catalog
        index := some 5 })
    | "Catalog.Services" => .ok (some
      { logicalName := "Catalog.Services", physicalName := "_Reference7", type := .catalog
        index := some 7 })
    | _ => .ok none
  physical
    | "_Document9" => .ok (some
      { logicalName := "Document.Orders", physicalName := "_Document9", type := .document
        properties := [⟨"Item", .single "_fld10rref" (some "Catalog.Items")⟩,
          ⟨"Service", .single "_fld11rref" (some "Catalog.Services")⟩] })
    | _ => .ok none

/-- The scope in which the fields of a branch are looked up. -/
def branchScope (s : Select) : Scope := ⟨s.sources, s.joins.map Join.source⟩

/-- A branch with one more field, and with the sources as finding it left them. -/
def withType (s : Select) (column : String) (type : Expr) (scope : Scope) : Select :=
  { s with
    projections := s.projections ++ [.expr type (some (typeAlias column))]
    sources := scope.sources
    joins := s.joins.zipWith (fun j source => { j with source }) scope.joined }

theorem branchField_eq_error {projections : List SelectItem} {column : String} {e : LoweringError}
    (h : branchField projections column = .error e) :
    e = .missingUnionField column ∨ e = .ambiguousUnionField column := by
  unfold branchField at h
  dsimp only at h
  split at h
  · cases h
  · cases h
    exact .inl rfl
  · cases h
    exact .inr rfl

theorem addToBranch_cases {resolve : Resolver} {column : String} {s s' : Select}
    (h : addToBranch resolve column s = .ok s') :
    (s.projections.any (hasAlias (typeAlias column)) = true ∧ s' = s) ∨
    ∃ table name type scope, branchField s.projections column = .ok (.column table name) ∧
      resolve table name (branchScope s) = .ok (type, scope) ∧
      s' = withType s column type scope := by
  rw [addToBranch] at h
  by_cases halias : s.projections.any (hasAlias (typeAlias column)) = true
  · rw [if_pos halias] at h
    exact .inl ⟨halias, pure_eq_ok.1 h⟩
  · rw [if_neg halias] at h
    obtain ⟨field, hfield, h⟩ := bind_eq_ok.1 h
    split at h
    case h_1 table name =>
      obtain ⟨⟨type, scope⟩, hresolve, h⟩ := bind_eq_ok.1 h
      exact .inr ⟨table, name, type, scope, hfield, hresolve, pure_eq_ok.1 h⟩
    case h_2 => cases h

/-- Relations of a derived table to what it becomes when all its branches are given a field, and of
its set operations to those of the result. -/
structure FieldRelation (resolve : Resolver) (column : String) (P : Query → Query → Prop)
    (Q : Option SetOperation → Option SetOperation → Prop) : Prop where
  select : ∀ {s s' : Select} {o o' : Option SetOperation},
    addToBranch resolve column { s with setOperation := none } = .ok s' → Q o o' →
    P (.select { s with setOperation := o }) (.select { s' with setOperation := o' })
  withCtes : ∀ (recursive : Bool) (ctes : List Cte) {body body' : Query}, P body body' →
    P (.withCtes recursive ctes body) (.withCtes recursive ctes body')
  last : Q none none
  operation : ∀ (op : SetOperator) (all : Bool) {right right' : Query}, P right right' →
    Q (some ⟨op, all, right⟩) (some ⟨op, all, right'⟩)

section FieldRelation

variable {resolve : Resolver} {column : String} {P : Query → Query → Prop}
  {Q : Option SetOperation → Option SetOperation → Prop}

mutual

theorem FieldRelation.query (hrel : FieldRelation resolve column P Q) :
    ∀ (q : Query) {q' : Query}, addToQuery resolve column q = .ok q' → P q q'
  | .select ⟨distinct, projections, sources, joins, filter, groupBy, having, orderBy, limit, offset,
      setOperation⟩, q', h => by
    rw [addToQuery] at h
    obtain ⟨first, hfirst, h⟩ := bind_eq_ok.1 h
    obtain ⟨rest, hrest, h⟩ := bind_eq_ok.1 h
    rw [pure_eq_ok.1 h]
    exact hrel.select
      (s := ⟨distinct, projections, sources, joins, filter, groupBy, having, orderBy, limit, offset,
        setOperation⟩) hfirst (hrel.rest setOperation hrest)
  | .withCtes recursive ctes body, q', h => by
    rw [addToQuery] at h
    obtain ⟨body', hbody, h⟩ := bind_eq_ok.1 h
    rw [pure_eq_ok.1 h]
    exact hrel.withCtes recursive ctes (hrel.query body hbody)
  | .raw text, q', h => by
    rw [addToQuery] at h
    cases h

theorem FieldRelation.rest (hrel : FieldRelation resolve column P Q) :
    ∀ (o : Option SetOperation) {o' : Option SetOperation}, addToRest resolve column o = .ok o' →
      Q o o'
  | none, o', h => by
    rw [addToRest] at h
    rw [pure_eq_ok.1 h]
    exact hrel.last
  | some ⟨op, all, right⟩, o', h => by
    rw [addToRest] at h
    obtain ⟨right', hright, h⟩ := bind_eq_ok.1 h
    rw [pure_eq_ok.1 h]
    exact hrel.operation op all (hrel.query right hright)

end

end FieldRelation

theorem typeColumn_realized {qualifier schema a : Option String} {name : String} {s : Scope}
    (hfound : s.find? qualifier = some (.table schema name a)) (mappings : MappingSource)
    (depth : Nat) (column : String) :
    typeColumn mappings depth qualifier column s =
      (realizedTypeColumn mappings name qualifier column).map (·, s) := by
  unfold typeColumn
  simp only [hfound]
  cases realizedTypeColumn mappings name qualifier column <;> rfl

theorem typeColumn_cases {mappings : MappingSource} {depth : Nat} {qualifier : Option String}
    {column : String} {s t : Scope} {e : Expr}
    (h : typeColumn mappings depth qualifier column s = .ok (e, t)) :
    (∃ schema name a, s.find? qualifier = some (.table schema name a) ∧
      realizedTypeColumn mappings name qualifier column = .ok e ∧ t = s) ∨
    ∃ d query query' a, depth = d + 1 ∧ s.find? qualifier = some (.subquery query a) ∧
      addToQuery (typeColumn mappings d) column query = .ok query' ∧
      e = .column qualifier (typeAlias column) ∧
      t = s.replace qualifier (.subquery query' a) := by
  unfold typeColumn at h
  dsimp only at h
  split at h
  case h_1 => cases h
  case h_2 schema name a hfound =>
    obtain ⟨e', he, h⟩ := bind_eq_ok.1 h
    obtain ⟨rfl, rfl⟩ := Prod.mk.inj (pure_eq_ok.1 h)
    exact .inl ⟨schema, name, a, hfound, he, rfl⟩
  case h_3 => cases h
  case h_4 query a hfound =>
    cases depth with
    | zero => cases h
    | succ d =>
      obtain ⟨query', hquery, h⟩ := bind_eq_ok.1 h
      obtain ⟨rfl, rfl⟩ := Prod.mk.inj (pure_eq_ok.1 h)
      exact .inr ⟨d, query, query', a, rfl, hfound, hquery, rfl, rfl⟩

end Lowering

end LogicalSql
