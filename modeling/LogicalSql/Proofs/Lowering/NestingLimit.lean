import LogicalSql.Proofs.Lowering.TypeColumn
import LogicalSql.Proofs.Query.Size

/-! How deep derived tables may nest behind a column. The limit refuses exactly the searches that
enter more tables one in the other than it allows, and changes no other. -/
namespace LogicalSql

theorem Scope.size_lt_of_find? {s : Scope} {qualifier : Option String} {q : Query} {a : String}
    (h : s.find? qualifier = some (.subquery q a)) : q.size < s.size := by
  obtain ⟨before, after, hall⟩ := List.append_of_mem (List.mem_of_find?_eq_some (find?_all h))
  simp only [Scope.size, hall, sourceSizes_append, sourceSizes, Source.size]
  omega

namespace Lowering

variable {mappings : MappingSource} {E : LoweringError → Prop} {r r' : Resolver} {column : String}

/-- The type behind a column of a scope. Columns of the branches of a derived table are left to
`inside`. -/
def typeColumnBy (mappings : MappingSource) (inside : Resolver) : Resolver :=
  fun qualifier column scope =>
    let shown := qualifiedSql qualifier column
    match scope.find? qualifier with
    | none => throw (.unresolvedTable shown)
    | some (.table _ name _) => do
      return (← realizedTypeColumn mappings name qualifier column, scope)
    | some (.function _ _ _) => throw (.unsupportedTable shown)
    | some (.subquery query a) => do
      let query ← addToQuery inside column query
      return (.column qualifier (typeAlias column), scope.replace qualifier (.subquery query a))

/-- The search without a limit. It ends, for the scopes inside a scope are smaller, and so the error
is never met: see `unlimitedTypeColumn_eq`. -/
def unlimitedTypeColumn (mappings : MappingSource) (qualifier : Option String) (column : String)
    (scope : Scope) : Except LoweringError (Expr × Scope) :=
  typeColumnBy mappings (fun table name inner =>
    if inner.size < scope.size then unlimitedTypeColumn mappings table name inner
    else throw (.unresolvedTable name)) qualifier column scope
termination_by scope.size

theorem branchScope_size_lt (s : Select) : (branchScope s).size < s.size := by
  obtain ⟨distinct, projections, sources, joins, filter, groupBy, having, orderBy, limit, offset,
    setOperation⟩ := s
  simp only [branchScope, Scope.size_eq, Select.size, joinSizes_eq]
  omega

/-- The resolvers agree in all scopes of fewer nodes. -/
def AgreeBelow (E : LoweringError → Prop) (n : Nat) (r r' : Resolver) : Prop :=
  ∀ table name (s : Scope), s.size < n → Agree E Eq (r table name s) (r' table name s)

theorem AgreeBelow.of_le {n n' : Nat} (h : AgreeBelow E n r r') (hn : n' ≤ n) :
    AgreeBelow E n' r r' :=
  fun table name s hs => h table name s (Nat.lt_of_lt_of_le hs hn)

theorem addToBranch_agreeBelow {s : Select} (h : AgreeBelow E s.size r r') :
    Agree E Eq (addToBranch r column s) (addToBranch r' column s) := by
  rw [addToBranch, addToBranch]
  split
  · exact .ok _
  · refine (Agree.refl _).bind fun field _ => ?_
    split
    · exact (h _ _ (branchScope s) (branchScope_size_lt s)).bind fun _ _ => .ok _
    · exact .error rfl

mutual

theorem addToQuery_agreeBelow : ∀ q : Query, AgreeBelow E q.size r r' →
    Agree E Eq (addToQuery r column q) (addToQuery r' column q)
  | .select ⟨distinct, projections, sources, joins, filter, groupBy, having, orderBy, limit, offset,
      setOperation⟩, h => by
    rw [addToQuery, addToQuery]
    simp only [Query.size, Select.size] at h
    refine (addToBranch_agreeBelow (h.of_le ?_)).bind fun first _ =>
      (addToRest_agreeBelow setOperation (h.of_le ?_)).bind fun rest _ => .ok _
    · simp only [Select.size, setOperationSize]
      omega
    · omega
  | .withCtes recursive ctes body, h => by
    rw [addToQuery, addToQuery]
    simp only [Query.size] at h
    exact (addToQuery_agreeBelow body (h.of_le (by omega))).bind fun body _ => .ok _
  | .raw text, _ => by
    rw [addToQuery, addToQuery]
    exact .error rfl

theorem addToRest_agreeBelow : ∀ o : Option SetOperation, AgreeBelow E (setOperationSize o) r r' →
    Agree E Eq (addToRest r column o) (addToRest r' column o)
  | none, _ => by
    rw [addToRest, addToRest]
    exact .ok _
  | some ⟨op, all, right⟩, h => by
    rw [addToRest, addToRest]
    simp only [setOperationSize] at h
    exact (addToQuery_agreeBelow right (h.of_le (by omega))).bind fun right _ => .ok _

end

theorem typeColumnBy_agree {qualifier : Option String} {s : Scope} (h : AgreeBelow E s.size r r') :
    Agree E Eq (typeColumnBy mappings r qualifier column s)
      (typeColumnBy mappings r' qualifier column s) := by
  rw [typeColumnBy, typeColumnBy]
  split
  case h_4 q a hfound =>
    have hsize := Nat.le_of_lt (Scope.size_lt_of_find? hfound)
    exact (addToQuery_agreeBelow q (h.of_le hsize)).bind fun q' _ => .ok _
  all_goals exact .refl _

theorem unlimitedTypeColumn_eq (mappings : MappingSource) (qualifier : Option String)
    (column : String) (s : Scope) :
    unlimitedTypeColumn mappings qualifier column s =
      typeColumnBy mappings (unlimitedTypeColumn mappings) qualifier column s := by
  rw [unlimitedTypeColumn]
  refine (typeColumnBy_agree fun table name inner hinner => ?_).eq
  rw [if_pos hinner]
  exact .refl _

theorem typeColumn_succ (mappings : MappingSource) (d : Nat) :
    typeColumn mappings (d + 1) = typeColumnBy mappings (typeColumn mappings d) := by
  funext qualifier column s
  rcases h : s.find? qualifier with _ | _ | _ | _ <;> simp only [typeColumn, typeColumnBy, h]

def IsLimit (e : LoweringError) : Prop := ∃ shown limit, e = .unionDepthExceeded shown limit

/-- The search has been given up at the limit. -/
def Limited {α : Type} (x : Except LoweringError α) : Prop :=
  ∃ shown limit, x = .error (.unionDepthExceeded shown limit)

section Limited

variable {α β : Type} {x y : Except LoweringError α}

theorem not_limited_ok (a : α) : ¬ Limited (.ok a : Except LoweringError α) := by
  rintro ⟨shown, limit, h⟩
  cases h

theorem limited_bind {f : α → Except LoweringError β} :
    Limited (x >>= f) ↔ Limited x ∨ ∃ a, x = .ok a ∧ Limited (f a) := by
  cases x with
  | error e =>
    refine ⟨fun ⟨shown, limit, h⟩ => .inl ⟨shown, limit, ?_⟩, ?_⟩
    · cases h
      rfl
    · rintro (⟨shown, limit, h⟩ | ⟨a, h, -⟩)
      · cases h
        exact ⟨shown, limit, rfl⟩
      · cases h
  | ok a =>
    refine ⟨fun h => .inr ⟨a, rfl, h⟩, ?_⟩
    rintro (h | ⟨b, h, hb⟩)
    · exact absurd h (not_limited_ok a)
    · cases h
      exact hb

theorem limited_map {f : α → β} : Limited (x >>= fun a => pure (f a)) ↔ Limited x := by
  rw [limited_bind]
  refine ⟨?_, .inl⟩
  rintro (h | ⟨a, -, h⟩)
  · exact h
  · exact absurd h (not_limited_ok (f a))

theorem Limited.of_agree (h : Agree IsLimit Eq x y) : y = x ∨ Limited x := by
  cases h with
  | ok a => exact .inl rfl
  | error h => exact .inl (h ▸ rfl)
  | excused h y =>
    obtain ⟨shown, limit, rfl⟩ := h
    exact .inr ⟨shown, limit, rfl⟩

end Limited

theorem typeColumn_agree_unlimited (mappings : MappingSource) (d : Nat) :
    ∀ qualifier column s, Agree IsLimit Eq (typeColumn mappings d qualifier column s)
      (unlimitedTypeColumn mappings qualifier column s) := by
  induction d with
  | zero =>
    intro qualifier column s
    rw [unlimitedTypeColumn_eq, typeColumnBy, typeColumn]
    rcases s.find? qualifier with _ | _ | _ | _
    case some.subquery => exact .excused ⟨_, _, rfl⟩ _
    all_goals exact .refl _
  | succ d ih =>
    intro qualifier column s
    rw [unlimitedTypeColumn_eq, typeColumn_succ]
    exact typeColumnBy_agree fun table name inner _ => ih table name inner

/-- The branch does not have the type of the column yet, and names the column so. -/
structure Refers (column : String) (s : Select) (table : Option String) (name : String) :
    Prop where
  fresh : ¬ s.projections.any (hasAlias (typeAlias column)) = true
  field : branchField s.projections column = .ok (.column table name)

/-- The branch is come to: those before it have been given the type. -/
inductive Reached (r : Resolver) (column : String) : Query → Select → Prop
  | first (s : Select) : Reached r column (.select s) { s with setOperation := none }
  | rest {s first branch : Select} {op : SetOperator} {all : Bool} {right : Query}
      (hfirst : addToBranch r column { s with setOperation := none } = .ok first)
      (hrest : s.setOperation = some ⟨op, all, right⟩) (h : Reached r column right branch) :
      Reached r column (.select s) branch
  | body {recursive : Bool} {ctes : List Cte} {body : Query} {branch : Select}
      (h : Reached r column body branch) : Reached r column (.withCtes recursive ctes body) branch

/-- The derived tables that the search without a limit enters on one of its ways, each in a branch
of the one before. -/
inductive Follows (mappings : MappingSource) :
    Option String → String → Scope → List Query → Prop
  | stay (qualifier : Option String) (column : String) (s : Scope) :
      Follows mappings qualifier column s []
  | enter {qualifier : Option String} {column a : String} {s : Scope} {q : Query}
      (hfound : s.find? qualifier = some (.subquery q a)) : Follows mappings qualifier column s [q]
  | into {qualifier table : Option String} {column name a : String} {s : Scope} {q : Query}
      {branch : Select} {path : List Query}
      (hfound : s.find? qualifier = some (.subquery q a))
      (hreached : Reached (unlimitedTypeColumn mappings) column q branch)
      (hrefers : Refers column branch table name)
      (h : Follows mappings table name (branchScope branch) path) :
      Follows mappings qualifier column s (q :: path)

theorem branchField_not_limited (projections : List SelectItem) (column : String) :
    ¬ Limited (branchField projections column) := by
  rintro ⟨shown, limit, h⟩
  obtain h | h := branchField_eq_error h <;> cases h

theorem mapping_not_limited {α : Type} (x : Except MappingError α) :
    ¬ Limited (x.mapError LoweringError.mapping) := by
  rintro ⟨shown, limit, h⟩
  cases x <;> cases h

theorem realizedTypeColumn_not_limited (mappings : MappingSource) (table : String)
    (qualifier : Option String) (column : String) :
    ¬ Limited (realizedTypeColumn mappings table qualifier column) := by
  rw [realizedTypeColumn, limited_bind]
  rintro (h | ⟨found, -, h⟩)
  · exact mapping_not_limited _ h
  · cases found with
    | none =>
      obtain ⟨shown, limit, h⟩ := h
      cases h
    | some t =>
      dsimp only at h
      split at h
      case h_2 =>
        rw [limited_bind] at h
        obtain h | ⟨target, -, shown, limit, h⟩ := h
        · exact mapping_not_limited _ h
        · split at h <;> cases h
      all_goals
        obtain ⟨shown, limit, h⟩ := h
        cases h

theorem addToBranch_limited {s : Select} :
    Limited (addToBranch r column s) ↔
      ∃ table name, Refers column s table name ∧ Limited (r table name (branchScope s)) := by
  rw [addToBranch]
  by_cases hfresh : s.projections.any (hasAlias (typeAlias column)) = true
  · rw [if_pos hfresh]
    refine ⟨fun h => absurd h (not_limited_ok s), ?_⟩
    rintro ⟨table, name, hrefers, -⟩
    exact absurd hfresh hrefers.fresh
  · rw [if_neg hfresh, limited_bind]
    constructor
    · rintro (h | ⟨field, hfield, h⟩)
      · exact absurd h (branchField_not_limited _ _)
      · split at h
        case h_1 table name => exact ⟨table, name, ⟨hfresh, hfield⟩, limited_map.1 h⟩
        case h_2 =>
          obtain ⟨shown, limit, h⟩ := h
          cases h
    · rintro ⟨table, name, hrefers, h⟩
      exact .inr ⟨_, hrefers.field, limited_map.2 h⟩

/-- Of the branches that `r'` comes to, one is given up by `r`. -/
def LimitedIn (r r' : Resolver) (column : String) (q : Query) : Prop :=
  ∃ branch table name, Reached r' column q branch ∧ Refers column branch table name ∧
    Limited (r table name (branchScope branch))

mutual

theorem addToQuery_limited
    (hr : ∀ table name s, Agree IsLimit Eq (r table name s) (r' table name s)) :
    ∀ q : Query, Limited (addToQuery r column q) ↔ LimitedIn r r' column q
  | .select ⟨distinct, projections, sources, joins, filter, groupBy, having, orderBy, limit, offset,
      setOperation⟩ => by
    rw [addToQuery, limited_bind]
    -- the same branch for both resolvers, unless `r` gives it up
    have hagree : ∀ s, Agree IsLimit Eq (addToBranch r column s) (addToBranch r' column s) :=
      fun s => addToBranch_agreeBelow fun table name inner _ => hr table name inner
    constructor
    · rintro (h | ⟨first, hfirst, h⟩)
      · obtain ⟨table, name, hrefers, h⟩ := addToBranch_limited.1 h
        exact ⟨_, table, name, .first _, hrefers, h⟩
      · obtain ⟨op, all, right, rfl, branch, table, name, hreached, h⟩ :=
          (addToRest_limited hr setOperation).1 (limited_map.1 h)
        obtain hsame | hlimited := Limited.of_agree (hagree _)
        · exact ⟨branch, table, name, .rest (hsame.trans hfirst) rfl hreached, h⟩
        · exact absurd (hfirst ▸ hlimited) (not_limited_ok first)
    · rintro ⟨branch, table, name, hreached, h⟩
      cases hreached with
      | first => exact .inl (addToBranch_limited.2 ⟨table, name, h⟩)
      | @rest _ first _ op all right hfirst hrest hreached =>
        refine (Limited.of_agree (hagree _)).symm.imp_right fun hsame => ⟨first, ?_, ?_⟩
        · exact hsame.symm.trans hfirst
        · exact limited_map.2 ((addToRest_limited hr setOperation).2
            ⟨op, all, right, hrest, branch, table, name, hreached, h⟩)
  | .withCtes recursive ctes body => by
    rw [addToQuery, limited_map, addToQuery_limited hr body]
    constructor
    · rintro ⟨branch, table, name, hreached, h⟩
      exact ⟨branch, table, name, .body hreached, h⟩
    · rintro ⟨branch, table, name, hreached, h⟩
      cases hreached with
      | body hreached => exact ⟨branch, table, name, hreached, h⟩
  | .raw text => by
    rw [addToQuery]
    constructor
    · rintro ⟨shown, limit, h⟩
      cases h
    · rintro ⟨branch, table, name, hreached, -⟩
      cases hreached

theorem addToRest_limited
    (hr : ∀ table name s, Agree IsLimit Eq (r table name s) (r' table name s)) :
    ∀ o : Option SetOperation, Limited (addToRest r column o) ↔
      ∃ op all right, o = some ⟨op, all, right⟩ ∧ LimitedIn r r' column right
  | none => by
    rw [addToRest]
    refine ⟨fun h => absurd h (not_limited_ok _), ?_⟩
    rintro ⟨op, all, right, h, -⟩
    cases h
  | some ⟨op, all, right⟩ => by
    rw [addToRest, limited_map, addToQuery_limited hr right]
    refine ⟨fun h => ⟨op, all, right, rfl, h⟩, ?_⟩
    rintro ⟨op', all', right', h, hlimited⟩
    cases h
    exact hlimited

end

theorem typeColumnBy_limited {qualifier : Option String} {s : Scope} :
    Limited (typeColumnBy mappings r qualifier column s) ↔
      ∃ q a, s.find? qualifier = some (.subquery q a) ∧ Limited (addToQuery r column q) := by
  rw [typeColumnBy]
  constructor
  · intro h
    split at h
    case h_2 => exact absurd (limited_map.1 h) (realizedTypeColumn_not_limited _ _ _ _)
    case h_4 q a hfound => exact ⟨q, a, hfound, limited_map.1 h⟩
    all_goals
      obtain ⟨shown, limit, h⟩ := h
      cases h
  · rintro ⟨q, a, hfound, h⟩
    rw [hfound]
    exact limited_map.2 h

theorem typeColumn_zero_limited {qualifier : Option String} {s : Scope} :
    Limited (typeColumn mappings 0 qualifier column s) ↔
      ∃ q a, s.find? qualifier = some (.subquery q a) := by
  rw [typeColumn]
  constructor
  · intro h
    dsimp only at h
    split at h
    case h_2 => exact absurd (limited_map.1 h) (realizedTypeColumn_not_limited _ _ _ _)
    case h_4 q a hfound => exact ⟨q, a, hfound⟩
    all_goals
      obtain ⟨shown, limit, h⟩ := h
      cases h
  · rintro ⟨q, a, hfound⟩
    rw [hfound]
    exact ⟨_, _, rfl⟩

/-- A search is given up exactly if one of its ways enters too many derived tables. -/
theorem typeColumn_limited (mappings : MappingSource) (d : Nat) :
    ∀ qualifier column s, Limited (typeColumn mappings d qualifier column s) ↔
      ∃ path, Follows mappings qualifier column s path ∧ d < path.length := by
  induction d with
  | zero =>
    intro qualifier column s
    rw [typeColumn_zero_limited]
    constructor
    · rintro ⟨q, a, hfound⟩
      exact ⟨[q], .enter hfound, Nat.one_pos⟩
    · rintro ⟨path, hpath, hlength⟩
      cases hpath with
      | stay => cases hlength
      | enter hfound => exact ⟨_, _, hfound⟩
      | into hfound => exact ⟨_, _, hfound⟩
  | succ d ih =>
    intro qualifier column s
    simp only [typeColumn_succ, typeColumnBy_limited,
      addToQuery_limited (typeColumn_agree_unlimited mappings d)]
    constructor
    · rintro ⟨q, a, hfound, branch, table, name, hreached, hrefers, h⟩
      obtain ⟨path, hpath, hlength⟩ := (ih table name (branchScope branch)).1 h
      exact ⟨q :: path, .into hfound hreached hrefers hpath, Nat.succ_lt_succ hlength⟩
    · rintro ⟨path, hpath, hlength⟩
      cases hpath with
      | stay => cases hlength
      | enter => exact absurd (Nat.lt_of_succ_lt_succ hlength) (Nat.not_lt_zero d)
      | @into _ table _ name a _ q branch path hfound hreached hrefers hpath =>
        have hlength := Nat.lt_of_succ_lt_succ hlength
        have h := (ih table name (branchScope branch)).2 ⟨path, hpath, hlength⟩
        exact ⟨q, a, hfound, branch, table, name, hreached, hrefers, h⟩

/-- A search that is not given up ends as it would without the limit. -/
theorem typeColumn_eq_ok_iff {d : Nat} {qualifier : Option String} {s : Scope}
    {result : Expr × Scope} :
    typeColumn mappings d qualifier column s = .ok result ↔
      unlimitedTypeColumn mappings qualifier column s = .ok result ∧
        ∀ path, Follows mappings qualifier column s path → path.length ≤ d := by
  have hlimited := typeColumn_limited mappings d qualifier column s
  have hagree := Limited.of_agree (typeColumn_agree_unlimited mappings d qualifier column s)
  constructor
  · intro h
    rw [h] at hagree hlimited
    refine ⟨hagree.resolve_right (not_limited_ok result), fun path hpath => ?_⟩
    by_contra hlength
    exact not_limited_ok result (hlimited.2 ⟨path, hpath, Nat.not_le.1 hlength⟩)
  · rintro ⟨h, hpaths⟩
    obtain hsame | hgiven := hagree
    · exact hsame.symm.trans h
    · obtain ⟨path, hpath, hlength⟩ := hlimited.1 hgiven
      exact absurd (hpaths path hpath) (Nat.not_le.2 hlength)

/-- The limit is exact, and otherwise not to be noticed. -/
theorem typeColumn_limit_exact (mappings : MappingSource) (qualifier : Option String)
    (column : String) (s : Scope) :
    unlimitedTypeColumn mappings qualifier column s =
      typeColumnBy mappings (unlimitedTypeColumn mappings) qualifier column s ∧
    (∀ e t, typeColumn mappings maxDepth qualifier column s = .ok (e, t) ↔
      unlimitedTypeColumn mappings qualifier column s = .ok (e, t) ∧
        ∀ path, Follows mappings qualifier column s path → path.length ≤ maxDepth) ∧
    ((∃ shown limit, typeColumn mappings maxDepth qualifier column s =
        .error (.unionDepthExceeded shown limit)) ↔
      ∃ path, Follows mappings qualifier column s path ∧ maxDepth < path.length) :=
  ⟨unlimitedTypeColumn_eq mappings qualifier column s, fun _ _ => typeColumn_eq_ok_iff,
    typeColumn_limited mappings maxDepth qualifier column s⟩

/-- Thirty-two derived tables, one in the other, and then one more. -/
example :
    let select := fun source : Source =>
      Query.select { projections := [.expr (.column none "_fld10rref") none], sources := [source] }
    let nested := fun n =>
      Nat.repeat (fun q => select (.subquery q "d")) n (select (.table none "_Document9" none))
    let find := fun n =>
      typeColumn orderMappings maxDepth none "_fld10rref" ⟨[.subquery (nested n) "d"], []⟩
    (find 31).map (fun _ => ()) = .ok () ∧
      (find 32).map (fun _ => ()) = .error (.unionDepthExceeded "_fld10rref" 32) := by
  intro select nested find
  decide +kernel

end Lowering

end LogicalSql
