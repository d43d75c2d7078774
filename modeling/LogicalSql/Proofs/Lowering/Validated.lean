import LogicalSql.Proofs.Lowering.Agreement
import LogicalSql.Proofs.Lowering.NestingLimit
import LogicalSql.Proofs.Mapping.Set
import LogicalSql.Proofs.Query.Walk

/-! Lowering with a mapping set that was found valid. No mapping is missed on the way, and a column
that always refers to one table has the type index of that table. -/
namespace LogicalSql

variable {ε : Type} {p : ε → Prop}

/-- Says of the first computation alone that it fails only with errors that meet `p`. -/
def failing (ν : Type) (p : ε → Prop) : StepLogic ν (Except ε) (Except ε) :=
  .outcomes (fun x _ => Fails x p) .ok .bind

/-- A walk fails only as its hook does. -/
theorem Query.walk_fails {hook : Hook (Except ε)} (h : ∀ f args s, Fails (hook f args s) p)
    (q : Query) : Fails (q.walk hook) p := by
  have hcall :
      ∀ f args s, (failing Unit p).Holds (fun _ _ => True) (hook f args s) (hook f args s) :=
    fun f args s => ⟨h f args s, fun _ _ => trivial⟩
  exact (walk_related _ hcall q).1

/-- The error tells of a look-up that failed, or of a target that is missing or has no index. -/
def LoweringError.blamesMappings : LoweringError → Bool
  | .nestedTableUnmapped _ _ => true
  | .mapping _ => true
  | _ => false

namespace Lowering

variable {r : Resolver} {column : String}

/-- The resolver fails only for what is wrong with the query. -/
def Resolver.Blameless (r : Resolver) : Prop :=
  ∀ qualifier column s, Fails (r qualifier column s) (·.blamesMappings = false)

theorem addToBranch_fails (hr : r.Blameless) (s : Select) :
    Fails (addToBranch r column s) (·.blamesMappings = false) := by
  unfold addToBranch
  split
  · exact .ok s
  · refine Fails.bind (fun e h => ?_) fun field _ => ?_
    · obtain rfl | rfl := branchField_eq_error h <;> rfl
    · split
      · exact (hr _ _ _).bind fun _ _ => .ok _
      · exact .error rfl

theorem addToBranch_of_refers {s : Select} {table : Option String} {name : String} {type : Expr}
    {scope : Scope} (h : Refers column s table name)
    (hr : r table name (branchScope s) = .ok (type, scope)) :
    addToBranch r column s = .ok (withType s column type scope) := by
  rw [addToBranch, if_neg h.fresh]
  exact bind_eq_ok.2 ⟨_, h.field, bind_eq_ok.2 ⟨_, hr, rfl⟩⟩

mutual

theorem addToQuery_fails (hr : r.Blameless) :
    ∀ q : Query, Fails (addToQuery r column q) (·.blamesMappings = false)
  | .select ⟨distinct, projections, sources, joins, filter, groupBy, having, orderBy, limit, offset,
      setOperation⟩ => by
    rw [addToQuery]
    exact (addToBranch_fails hr _).bind fun _ _ =>
      (addToRest_fails hr setOperation).bind fun _ _ => .ok _
  | .withCtes recursive ctes body => by
    rw [addToQuery]
    exact (addToQuery_fails hr body).bind fun _ _ => .ok _
  | .raw text => by
    rw [addToQuery]
    exact .error rfl

theorem addToRest_fails (hr : r.Blameless) :
    ∀ o : Option SetOperation, Fails (addToRest r column o) (·.blamesMappings = false)
  | none => by
    rw [addToRest]
    exact .ok _
  | some ⟨op, all, right⟩ => by
    rw [addToRest]
    exact (addToQuery_fails hr right).bind fun _ _ => .ok _

end

end Lowering

namespace MappingSet

open Lowering TableMapping

variable {set : MappingSet} {tables : List TableMapping}

theorem mem_of_byPhysicalName? (hset : set.Indexes tables) {name : String} {t : TableMapping}
    (h : set.byPhysicalName? name = some t) : t ∈ set.tables := by
  rw [hset.tables_eq]
  exact hset.physical.mem_of_get? h

theorem realizedTypeColumn_fails (hset : set.Indexes tables) (hvalid : set.validate = .ok ())
    (table : String) (qualifier : Option String) (column : String) :
    Fails (realizedTypeColumn set.source table qualifier column) (·.blamesMappings = false) := by
  rw [realizedTypeColumn]
  refine Fails.bind (.ok (set.byPhysicalName? table)) fun found hfound => ?_
  cases found with
  | none => exact .error rfl
  | some t =>
    have ht := mem_of_byPhysicalName? hset (Except.ok.inj hfound)
    dsimp only
    split
    case h_1 => exact .error rfl
    case h_2 nested hsingle =>
      obtain ⟨target, index, htarget, hindex⟩ :=
        validate_eq_ok.1 hvalid t ht nested (mem_targets hsingle)
      refine Fails.bind (.ok (set.byLogicalName? nested)) fun found hfound => ?_
      cases (Except.ok.inj hfound).symm.trans htarget
      rw [Option.bind_some, hindex]
      exact .ok _
    case h_3 => exact .ok _
    case h_4 => exact .error rfl

theorem typeColumn_blameless (hset : set.Indexes tables) (hvalid : set.validate = .ok ())
    (depth : Nat) :
    (typeColumn set.source depth).Blameless := by
  -- the branches of a derived table are looked into with one less of depth
  induction depth using Nat.strongRecOn with
  | ind depth ih =>
    intro qualifier column s
    unfold typeColumn
    dsimp only
    split
    case h_1 => exact .error rfl
    case h_2 => exact (realizedTypeColumn_fails hset hvalid _ _ _).bind fun _ _ => .ok _
    case h_3 => exact .error rfl
    case h_4 query a hfound =>
      cases depth with
      | zero => exact .error rfl
      | succ d => exact (addToQuery_fails (ih d d.lt_succ_self) query).bind fun _ _ => .ok _

theorem lowerCall_fails (hset : set.Indexes tables) (hvalid : set.validate = .ok ())
    (f : LogicalFunction) (args : List Expr) (s : Scope) :
    Fails (lowerCall set.source f args s) (·.blamesMappings = false) := by
  unfold lowerCall
  split
  case h_1 =>
    by_cases hcount : args.length = 3 ∨ args.length = 6
    · rw [if_neg (fun hnot => hnot hcount)]
      split
      · refine Fails.bind (fun e h => ?_) fun _ _ => .ok _
        obtain rfl | rfl := dateTime_eq_error h <;> rfl
      · exact .error rfl
    · rw [if_pos hcount]
      exact .error rfl
  case h_9 table name => exact typeColumn_blameless hset hvalid maxDepth table name s
  case h_10 | h_11 | h_12 | h_13 | h_14 => exact .error rfl
  all_goals exact .ok _

theorem runAll_fails (hset : set.Indexes tables) (hvalid : set.validate = .ok ()) (q : Query) :
    Fails (Pass.runAll (Pass.defaults set.source) q) (·.blamesMappings = false) := by
  rw [Pass.runAll_defaults]
  exact Query.walk_fails (lowerCall_fails hset hvalid) q

/-- A column of a realized table in scope which, by the mapping of that table, always refers to one
logical table. Of the properties with that column alone, the first decides. -/
inductive FixedReference (tables : List TableMapping) (s : Scope) (qualifier : Option String)
    (column nested : String) : Prop
  | intro {schema a : Option String} {name property : String} {t : TableMapping}
      {before after : List PropertyMapping}
      (hfound : s.find? qualifier = some (.table schema name a)) (ht : t ∈ tables)
      (hname : Text.lower t.physicalName = Text.lower name)
      (hfirst : t.properties = before ++ ⟨property, .single column (some nested)⟩ :: after)
      (hbefore : ∀ p ∈ before, ∀ x, p.layout ≠ .single column x)

/-- The four bytes of the type index of the logical table of this name. -/
def TypeBytes (tables : List TableMapping) (nested : String) (bytes : List UInt8) : Prop :=
  ∃ target ∈ tables, ∃ index, Text.lower target.logicalName = Text.lower nested ∧
    typeIndex? target.physicalName = some index ∧ BigEndian index bytes

theorem source_physical_of_mem (hset : ofList tables = .ok set) {t : TableMapping} {name : String}
    (ht : t ∈ tables) (hname : Text.lower t.physicalName = Text.lower name) :
    set.source.physical name = .ok (some t.stored) := by
  have hfound := (indexes_ofList hset).physical.get?_of_mem (List.mem_map_of_mem ht)
  change set.byPhysical.get? (Text.lower t.physicalName) = some t.stored at hfound
  rw [hname] at hfound
  exact congrArg Except.ok hfound

theorem typeBytes_of_target (hset : ofList tables = .ok set) {nested : String}
    {target : TableMapping} {index : Int32} (htarget : set.byLogicalName? nested = some target)
    (hindex : target.index = some index) {bytes : List UInt8} (hbytes : BigEndian index bytes) :
    TypeBytes tables nested bytes := by
  have hfind := Except.ok.inj (source_logical_ofList hset nested)
  rw [htarget] at hfind
  obtain ⟨t, ht, rfl⟩ := Option.map_eq_some_iff.1 hfind.symm
  have hname : Text.lower t.logicalName = Text.lower nested := by
    simpa using List.find?_some ht
  exact ⟨t, List.mem_of_find?_eq_some ht, index, hname, hindex, hbytes⟩

theorem typeColumn_of_fixedReference (hset : ofList tables = .ok set)
    (hvalid : set.validate = .ok ()) {s : Scope} {qualifier : Option String}
    {column nested : String} (h : FixedReference tables s qualifier column nested) :
    ∃ bytes, TypeBytes tables nested bytes ∧ ∀ depth,
      typeColumn set.source depth qualifier column s = .ok (.literal (.binary bytes), s) := by
  obtain ⟨hfound, ht, hname, hfirst, hbefore⟩ := h
  have hmapping := source_physical_of_mem hset ht hname
  have hsingle : (stored _).properties.findSome? (singleOn? column) = some (some nested) :=
    findSome?_singleOn? hfirst hbefore
  have hmem := mem_of_byPhysicalName? (indexes_ofList hset) (Except.ok.inj hmapping)
  obtain ⟨target, index, htarget, hindex⟩ :=
    validate_eq_ok.1 hvalid _ hmem nested (mem_targets hsingle)
  obtain ⟨bytes, hliteral, hbytes⟩ := typeIndex_bigEndian index
  refine ⟨bytes, typeBytes_of_target hset htarget hindex hbytes, fun depth => ?_⟩
  have hlogical : set.source.logical nested = .ok (some target) := congrArg Except.ok htarget
  rw [typeColumn_realized hfound, realizedTypeColumn_constant hmapping hsingle hlogical hindex,
    hliteral]
  rfl

/-- With a valid set no query fails for want of a mapping or of a type index. `TYPEIDENTIFIER` of a
column that always refers to one table becomes the type index of that table, whatever its argument
was before it was lowered to that column, and so does the type field of a branch of a derived table
that has such a column, however deep the branch is nested. -/
theorem lowering_of_valid (hset : ofList tables = .ok set) (hvalid : set.validate = .ok ()) :
    (∀ q : Query,
      (∀ nested shown, Pass.runAll (Pass.defaults set.source) q ≠
        .error (.nestedTableUnmapped nested shown)) ∧
      ∀ m, Pass.runAll (Pass.defaults set.source) q ≠ .error (.mapping m)) ∧
    ∀ s qualifier column nested, FixedReference tables s qualifier column nested →
      ∃ bytes, TypeBytes tables nested bytes ∧
        (∀ argument s₀, (argument.walk (lowerCall set.source)).run s₀ =
            .ok (.column qualifier column, s) →
          ((Expr.call .typeIdentifier [argument]).walk (lowerCall set.source)).run s₀ =
            .ok (.literal (.binary bytes), s)) ∧
        ∀ depth field branch, branchScope branch = s → Refers field branch qualifier column →
          addToBranch (typeColumn set.source depth) field branch =
            .ok (withType branch field (.literal (.binary bytes)) s) := by
  constructor
  · intro q
    have hfails := runAll_fails (indexes_ofList hset) hvalid q
    exact ⟨fun nested shown h => Bool.noConfusion (hfails _ h),
      fun m h => Bool.noConfusion (hfails _ h)⟩
  · intro s qualifier column nested h
    obtain ⟨bytes, hbytes, htype⟩ := typeColumn_of_fixedReference hset hvalid h
    refine ⟨bytes, hbytes, fun argument s₀ hargument => ?_, fun depth field branch hs hrefers => ?_⟩
    · have hargs : (walkExprs (lowerCall set.source) [argument]).run s₀ =
          .ok ([.column qualifier column], s) := by
        rw [walkExprs, walkExprs]
        exact run_bind_eq_ok.2 ⟨_, _, hargument, rfl⟩
      rw [run_walk_call, hargs]
      exact htype maxDepth
    · subst hs
      exact addToBranch_of_refers hrefers (htype depth)

/-- A reference in a realized table that is named in another spelling, as is its target. -/
theorem lowering_of_valid_orders :
    let items : TableMapping :=
      { logicalName := "Catalog.Items", physicalName := "_Reference5", type := .catalog }
    let kind : PropertyMapping := ⟨"Kind", .union "_fld10rref" "_fld10rtref"⟩
    let item : PropertyMapping := ⟨"Item", .single "_fld10rref" (some "catalog.ITEMS")⟩
    let orders : TableMapping :=
      { logicalName := "Document.Orders", physicalName := "_Document9", type := .document
        properties := [kind, item] }
    let o := some "o"
    let s : Scope := ⟨[.table none "_DOCUMENT9" o], []⟩
    let column : Expr := .column o "_fld10rref"
    let branch : Select :=
      { projections := [.expr column (some "item")], sources := [.table none "_DOCUMENT9" o] }
    ∃ set, ofList [items, orders] = .ok set ∧ set.validate = .ok () ∧
      FixedReference [items, orders] s o "_fld10rref" "catalog.ITEMS" ∧
      branchScope branch = s ∧ Refers "item" branch o "_fld10rref" ∧
      ∃ bytes, TypeBytes [items, orders] "catalog.ITEMS" bytes ∧
        ((Expr.call .typeIdentifier [.call .presentation [column]]).walk
          (lowerCall set.source)).run s = .ok (.literal (.binary bytes), s) ∧
        addToBranch (typeColumn set.source 0) "item" branch =
          .ok (withType branch "item" (.literal (.binary bytes)) s) := by
  intro items kind item orders o s column branch
  have hvalidated : (ofList [items, orders] >>= validate) = .ok () := by decide +kernel
  obtain ⟨set, hset, hvalid⟩ := bind_eq_ok.1 hvalidated
  have hfirst : orders.properties = [kind] ++ item :: [] := rfl
  have hfixed : FixedReference [items, orders] s o "_fld10rref" "catalog.ITEMS" :=
    .intro rfl (List.mem_cons_of_mem items List.mem_cons_self) (by decide +kernel) hfirst
      (by simp [kind])
  have hrefers : Refers "item" branch o "_fld10rref" := ⟨by decide, rfl⟩
  obtain ⟨bytes, hbytes, hcall, hbranch⟩ :=
    (lowering_of_valid hset hvalid).2 s o "_fld10rref" "catalog.ITEMS" hfixed
  have hargument : ((Expr.call .presentation [column]).walk (lowerCall set.source)).run s =
      .ok (column, s) := rfl
  exact ⟨set, hset, hvalid, hfixed, rfl, hrefers, bytes, hbytes, hcall _ s hargument,
    hbranch 0 "item" branch rfl hrefers⟩

end MappingSet

end LogicalSql
