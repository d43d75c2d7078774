import LogicalSql.Proofs.Query.SetOperations
import LogicalSql.Surface.Interpret

/-! In the query that a statement stands for, whatever a set operation leads to is an operand: no
`WITH`, and no clause that would apply to a whole chain. -/
namespace LogicalSql.Surface

/-- The tables in front of a query. -/
def enclose : Option (Bool × List LogicalSql.Cte) → LogicalSql.Query → LogicalSql.Query
  | some (recursive, ctes), q => .withCtes recursive ctes q
  | none, q => q

/-- The clauses behind a body are those of the selection that it stands for, if it is one. -/
inductive Modified (orderBy : List OrderItem) (limit offset : Option Expr) :
    LogicalSql.Query → LogicalSql.Query → Prop where
  | select {s : LogicalSql.Select} {orderBy' : List LogicalSql.OrderItem}
      {limit' offset' : Option LogicalSql.Expr} (horder : interpretOrder orderBy = .ok orderBy')
      (hlimit : interpretOption limit = .ok limit')
      (hoffset : interpretOption offset = .ok offset') :
      Modified orderBy limit offset (.select s) (.select (s.overrideWith orderBy' limit' offset'))
  | other {q : LogicalSql.Query} (h : ∀ s, q ≠ .select s) : Modified orderBy limit offset q q

theorem Query.interpret_eq_ok {withClause : Option WithClause} {body : Body}
    {orderBy : List OrderItem} {limit offset : Option Expr} {offsetRows : Option String}
    {fetch : Option Shown} {locks : List Shown} {purpose : Option Shown} {q : LogicalSql.Query}
    (h : Query.interpret ⟨withClause, body, orderBy, limit, offset, offsetRows, fetch, locks,
      purpose⟩ = .ok q) :
    ∃ ctes b b', interpretWith withClause = .ok ctes ∧ body.interpret false = .ok b ∧
      Modified orderBy limit offset b b' ∧ q = enclose ctes b' := by
  rw [Query.interpret] at h
  obtain ⟨ctes, hctes, h⟩ := bind_eq_ok.1 h
  obtain ⟨b, hb, h⟩ := bind_eq_ok.1 h
  cases b with
  | select s =>
    obtain ⟨orderBy', horder, h⟩ := bind_eq_ok.1 h
    obtain ⟨limit', hlimit, h⟩ := bind_eq_ok.1 h
    obtain ⟨offset', hoffset, h⟩ := bind_eq_ok.1 h
    refine ⟨ctes, _, _, hctes, hb, .select horder hlimit hoffset, ?_⟩
    cases ctes <;> exact pure_eq_ok.1 h
  | withCtes | raw =>
    refine ⟨ctes, _, _, hctes, hb, .other (fun s hs => by cases hs), ?_⟩
    cases ctes <;> exact pure_eq_ok.1 h

theorem literal_flat (value : Literal) : AreFlat (LogicalSql.Expr.literal value).setOperations := by
  rw [LogicalSql.Expr.setOperations]
  exact .nil

theorem interpretNumber_flat (digits : String) :
    Yields (interpretNumber digits) fun e => AreFlat e.setOperations := by
  have hfloat : Yields (interpretNumber.float digits) fun e => AreFlat e.setOperations := by
    unfold interpretNumber.float
    split
    · exact .pure (literal_flat _)
    · exact nofun
  unfold interpretNumber
  split
  · split
    · exact .pure (literal_flat _)
    · exact hfloat
  · exact hfloat

theorem Constant.interpret_flat (value : Constant) :
    Yields value.interpret fun e => AreFlat e.setOperations := by
  cases value with
  | null => exact .pure (literal_flat _)
  | boolean b => exact .pure (literal_flat _)
  | number digits => exact interpretNumber_flat digits
  | string text => exact .pure (literal_flat _)
  | placeholder text =>
    simp only [Constant.interpret]
    split
    · refine .pure ?_
      rw [LogicalSql.Expr.setOperations]
      exact .nil
    · exact nofun
  | styled => exact nofun
  | doubleQuoted => exact nofun

theorem interpretParts_flat (parts : List Ident) :
    AreFlat (interpretParts parts).setOperations := by
  unfold interpretParts
  split <;> rw [LogicalSql.Expr.setOperations] <;> exact .nil

theorem interpretTable_flat (name : ObjectName) (a : Option String) :
    AreFlat (interpretTable name a).setOperations := by
  unfold interpretTable
  split <;> rw [LogicalSql.Source.setOperations] <;> exact .nil

theorem applyFunction_flat {args : List LogicalSql.Expr} {filter : Option LogicalSql.Expr}
    (hargs : AreFlat (exprSetOperations args)) (hfilter : AreFlat (optionSetOperations filter))
    (name : String) (distinct : Bool) :
    Yields (applyFunction name args distinct filter) fun e => AreFlat e.setOperations := by
  unfold applyFunction
  split
  · exact nofun
  · split
    · refine .pure ?_
      rw [LogicalSql.Expr.setOperations]
      exact hargs
    · split
      · refine .pure ?_
        rw [LogicalSql.Expr.setOperations]
        exact hargs.append hfilter
      · refine .pure ?_
        rw [LogicalSql.Expr.setOperations]
        exact hargs

/-- Clauses that take the place of others add their own set operations at most. -/
theorem overrideWith_flat {s : LogicalSql.Select} {orderBy : List LogicalSql.OrderItem}
    {limit offset : Option LogicalSql.Expr} (hs : AreFlat s.setOperations)
    (horder : AreFlat (orderSetOperations orderBy)) (hlimit : AreFlat (optionSetOperations limit))
    (hoffset : AreFlat (optionSetOperations offset)) :
    AreFlat (s.overrideWith orderBy limit offset).setOperations := by
  obtain ⟨distinct, projections, sources, joins, filter, groupBy, having, own, ownLimit, ownOffset,
    setOperation⟩ := s
  simp only [LogicalSql.Select.overrideWith, LogicalSql.Select.setOperations,
    AreFlat.append_iff] at hs ⊢
  obtain ⟨⟨⟨⟨hparts, hown⟩, hownLimit⟩, hownOffset⟩, hchain⟩ := hs
  refine ⟨⟨⟨⟨hparts, ?_⟩, ?_⟩, ?_⟩, hchain⟩
  · cases orderBy with
    | nil => exact hown
    | cons => exact horder
  · cases limit with
    | none => exact hownLimit
    | some => exact hlimit
  · cases offset with
    | none => exact hownOffset
    | some => exact hoffset

/-- Only a plain selection may stand in parentheses as an operand. -/
theorem Query.interpretOperand_eq_ok {q : Query} {q' : LogicalSql.Query}
    (h : q.interpretOperand = .ok q') :
    ∃ s s' offsetRows locks purpose,
      q = ⟨none, .select s, [], none, none, offsetRows, none, locks, purpose⟩ ∧
        s.interpret = .ok s' ∧ q' = .select s' := by
  unfold Query.interpretOperand at h
  split at h
  · obtain ⟨s', hs', h⟩ := bind_eq_ok.1 h
    exact ⟨_, s', _, _, _, rfl, hs', pure_eq_ok.1 h⟩
  · cases h

mutual

theorem Query.interpret_flat : ∀ q : Query, Yields q.interpret fun q' => AreFlat q'.setOperations
  | ⟨withClause, body, orderBy, limit, offset, _, _, _, _⟩ => by
    intro q h
    obtain ⟨ctes, b, b', hctes, hb, hmodified, rfl⟩ := Query.interpret_eq_ok h
    have hflat : AreFlat b'.setOperations := by
      have hbody := (Body.interpret_flat false body b hb).1
      cases hmodified with
      | select horder hlimit hoffset =>
        rw [LogicalSql.Query.setOperations] at hbody ⊢
        exact overrideWith_flat hbody (interpretOrder_flat orderBy _ horder)
          (interpretOption_flat limit _ hlimit) (interpretOption_flat offset _ hoffset)
      | other => exact hbody
    cases ctes with
    | none => exact hflat
    | some ctes =>
      rw [enclose, LogicalSql.Query.setOperations]
      exact (interpretWith_flat withClause _ hctes ctes rfl).append hflat

theorem interpretWith_flat : ∀ w : Option WithClause,
    Yields (interpretWith w) fun ctes => ∀ c, ctes = some c → AreFlat (cteSetOperations c.2)
  | none => by
    rw [interpretWith]
    exact .pure nofun
  | some ⟨_, recursive, ctes⟩ => by
    rw [interpretWith]
    refine (interpretCtes_flat ctes).bind fun ctes hctes => .pure ?_
    rintro _ ⟨⟩
    exact hctes

theorem interpretCtes_flat : ∀ ctes : List Cte,
    Yields (interpretCtes ctes) fun ctes => AreFlat (cteSetOperations ctes)
  | [] => by
    rw [interpretCtes]
    exact .pure (by rw [cteSetOperations]; exact .nil)
  | ⟨⟨name, columns⟩, _, query, _, _⟩ :: cs => by
    rw [interpretCtes]
    refine (Query.interpret_flat query).bind fun query hquery => ?_
    refine (interpretCtes_flat cs).bind fun cs hcs => .pure ?_
    rw [cteSetOperations]
    exact hquery.append hcs

theorem Body.interpret_flat (isOperand : Bool) : ∀ b : Body,
    Yields (b.interpret isOperand) fun q => AreFlat q.setOperations ∧ (isOperand → q.IsOperand)
  | .select s => by
    rw [Body.interpret]
    refine (Select.interpret_flat s).bind fun s hs => .pure ?_
    rw [LogicalSql.Query.setOperations]
    exact ⟨hs.1, fun _ => .select hs.2.orderBy hs.2.limit hs.2.offset⟩
  | .query q => by
    rw [Body.interpret]
    cases isOperand with
    | false => exact fun q' hq' => ⟨Query.interpret_flat q q' hq', nofun⟩
    | true => exact fun q' hq' => (Query.interpretOperand_flat q q' hq').imp_right fun h _ => h
  | .setOperation left op quantifier right => by
    rw [Body.interpret]
    refine (Body.interpret_flat true left).bind fun left hleft => ?_
    refine (Body.interpret_flat true right).bind fun right hright => ?_
    intro q hq
    exact (Query.combine_flat (hleft.2 rfl) hleft.1 (hright.2 rfl) hright.1 hq).symm.imp_right
      fun h _ => h
  | .other shown => by
    rw [Body.interpret]
    refine .pure ⟨?_, fun _ => .raw _⟩
    rw [LogicalSql.Query.setOperations]
    exact .nil

theorem Query.interpretOperand_flat : ∀ q : Query,
    Yields q.interpretOperand fun q' => AreFlat q'.setOperations ∧ q'.IsOperand
  | ⟨_, .select s, _, _, _, _, _, _, _⟩ => by
    intro q' h
    obtain ⟨_, s', _, _, _, heq, hs', rfl⟩ := Query.interpretOperand_eq_ok h
    cases heq
    obtain ⟨hflat, halone⟩ := Select.interpret_flat s s' hs'
    rw [LogicalSql.Query.setOperations]
    exact ⟨hflat, .select halone.orderBy halone.limit halone.offset⟩
  | ⟨_, .query _, _, _, _, _, _, _, _⟩ => by
    intro q' h
    obtain ⟨_, _, _, _, _, heq, -⟩ := Query.interpretOperand_eq_ok h
    cases heq
  | ⟨_, .setOperation _ _ _ _, _, _, _, _, _, _, _⟩ => by
    intro q' h
    obtain ⟨_, _, _, _, _, heq, -⟩ := Query.interpretOperand_eq_ok h
    cases heq
  | ⟨_, .other _, _, _, _, _, _, _, _⟩ => by
    intro q' h
    obtain ⟨_, _, _, _, _, heq, -⟩ := Query.interpretOperand_eq_ok h
    cases heq

theorem Select.interpret_flat : ∀ s : Select,
    Yields s.interpret fun s' => AreFlat s'.setOperations ∧ s'.Alone
  | ⟨_, distinct, _, projection, _, sources, _, filter, _, groupBy, _, _, _, having, _, _, _⟩ => by
    rw [Select.interpret]
    refine (interpretItems_flat projection).bind fun projections hprojections => ?_
    refine (interpretTableItems_flat sources).bind fun tables htables => ?_
    refine (interpretOption_flat filter).bind fun filter hfilter => ?_
    refine (interpretExprs_flat groupBy).bind fun groupBy hgroupBy => ?_
    refine (interpretOption_flat having).bind fun having hhaving => .pure ⟨?_, rfl, rfl, rfl, rfl⟩
    simp only [LogicalSql.Select.setOperations, orderSetOperations, optionSetOperations,
      chainSetOperations, List.append_nil, AreFlat.append_iff]
    exact ⟨⟨⟨⟨⟨hprojections, htables.1⟩, htables.2⟩, hfilter⟩, hgroupBy⟩, hhaving⟩

theorem interpretItems_flat : ∀ items : List Item,
    Yields (interpretItems items) fun items => AreFlat (itemSetOperations items)
  | [] => by
    rw [interpretItems]
    exact .pure (by rw [itemSetOperations]; exact .nil)
  | .wildcard _ :: is => by
    rw [interpretItems]
    refine (interpretItems_flat is).bind fun is his => .pure ?_
    rw [itemSetOperations]
    exact his
  | .wildcardOf _ _ :: is => by
    rw [interpretItems]
    refine (interpretItems_flat is).bind fun is his => .pure ?_
    rw [itemSetOperations]
    exact his
  | .expr e _ :: is => by
    rw [interpretItems]
    refine (Expr.interpret_flat e).bind fun e he => ?_
    refine (interpretItems_flat is).bind fun is his => .pure ?_
    rw [itemSetOperations]
    exact he.append his

theorem interpretOrder_flat : ∀ items : List OrderItem,
    Yields (interpretOrder items) fun items => AreFlat (orderSetOperations items)
  | [] => by
    rw [interpretOrder]
    exact .pure (by rw [orderSetOperations]; exact .nil)
  | ⟨e, _, _⟩ :: os => by
    rw [interpretOrder]
    refine (Expr.interpret_flat e).bind fun e he => ?_
    refine (interpretOrder_flat os).bind fun os hos => .pure ?_
    rw [orderSetOperations]
    exact he.append hos

theorem interpretTableItems_flat : ∀ items : List TableItem,
    Yields (interpretTableItems items) fun tables =>
      AreFlat (sourceSetOperations tables.1) ∧ AreFlat (joinSetOperations tables.2)
  | [] => by
    rw [interpretTableItems]
    refine .pure ⟨?_, ?_⟩
    · rw [sourceSetOperations]
      exact .nil
    · rw [joinSetOperations]
      exact .nil
  | ⟨factor, joins⟩ :: ts => by
    rw [interpretTableItems]
    refine (TableFactor.interpret_flat factor).bind fun source hsource => ?_
    refine (interpretJoins_flat joins).bind fun joins hjoins => ?_
    refine (interpretTableItems_flat ts).bind fun rest hrest => .pure ⟨?_, ?_⟩
    · rw [sourceSetOperations]
      exact hsource.append hrest.1
    · rw [joinSetOperations_append]
      exact hjoins.append hrest.2

theorem TableFactor.interpret_flat : ∀ factor : TableFactor,
    Yields factor.interpret fun source => AreFlat source.setOperations
  | .table name none _ a _ => by
    rw [TableFactor.interpret]
    exact .pure (interpretTable_flat name _)
  | .table name (some args) _ a _ => by
    rw [TableFactor.interpret]
    refine (interpretArguments_flat args).bind fun args hargs => .pure ?_
    rw [LogicalSql.Source.setOperations]
    exact hargs
  | .derived _ query (some a) => by
    rw [TableFactor.interpret]
    refine (Query.interpret_flat query).bind fun query hquery => .pure ?_
    rw [LogicalSql.Source.setOperations]
    exact hquery
  | .derived _ _ none => by
    rw [TableFactor.interpret]
    exact nofun
  | .function e a => by
    rw [TableFactor.interpret]
    refine .pure ?_
    rw [LogicalSql.Source.setOperations, exprSetOperations]
    exact .nil
  | .nestedJoin item a => by
    rw [TableFactor.interpret]
    exact nofun
  | .other shown => by
    rw [TableFactor.interpret]
    exact nofun

theorem interpretJoins_flat : ∀ joins : List Join,
    Yields (interpretJoins joins) fun joins => AreFlat (joinSetOperations joins)
  | [] => by
    rw [interpretJoins]
    exact .pure (by rw [joinSetOperations]; exact .nil)
  | ⟨_, operator, factor, constraint⟩ :: js => by
    rw [interpretJoins]
    refine Yields.bind (p := fun _ => True) (fun _ _ => trivial) fun kind _ => ?_
    refine (Constraint.interpret_flat constraint).bind fun condition hcondition => ?_
    refine (TableFactor.interpret_flat factor).bind fun source hsource => ?_
    refine (interpretJoins_flat js).bind fun js hjs => .pure ?_
    rw [joinSetOperations]
    exact (hsource.append hcondition).append hjs

theorem Constraint.interpret_flat : ∀ constraint : Constraint,
    Yields constraint.interpret fun condition => AreFlat (conditionSetOperations condition)
  | .none => by
    rw [Constraint.interpret]
    exact .pure (by rw [conditionSetOperations]; exact .nil)
  | .natural => by
    rw [Constraint.interpret]
    exact .pure (by rw [conditionSetOperations]; exact .nil)
  | .on e => by
    rw [Constraint.interpret]
    refine (Expr.interpret_flat e).bind fun e he => .pure ?_
    rw [conditionSetOperations]
    exact he
  | .using columns => by
    rw [Constraint.interpret]
    exact .pure (by rw [conditionSetOperations]; exact .nil)

theorem interpretOption_flat : ∀ e : Option Expr,
    Yields (interpretOption e) fun e => AreFlat (optionSetOperations e)
  | none => by
    rw [interpretOption]
    exact .pure (by rw [optionSetOperations]; exact .nil)
  | some e => by
    rw [interpretOption]
    refine (Expr.interpret_flat e).bind fun e he => .pure ?_
    rw [optionSetOperations]
    exact he

theorem interpretExprs_flat : ∀ es : List Expr,
    Yields (interpretExprs es) fun es => AreFlat (exprSetOperations es)
  | [] => by
    rw [interpretExprs]
    exact .pure (by rw [exprSetOperations]; exact .nil)
  | e :: es => by
    rw [interpretExprs]
    refine (Expr.interpret_flat e).bind fun e he => ?_
    refine (interpretExprs_flat es).bind fun es hes => .pure ?_
    rw [exprSetOperations]
    exact he.append hes

theorem interpretWhens_flat : ∀ whens : List (Expr × Expr),
    Yields (interpretWhens whens) fun whens => AreFlat (whenSetOperations whens)
  | [] => by
    rw [interpretWhens]
    exact .pure (by rw [whenSetOperations]; exact .nil)
  | (condition, result) :: ws => by
    rw [interpretWhens]
    refine (Expr.interpret_flat condition).bind fun condition hcondition => ?_
    refine (Expr.interpret_flat result).bind fun result hresult => ?_
    refine (interpretWhens_flat ws).bind fun ws hws => .pure ?_
    rw [whenSetOperations]
    exact (hcondition.append hresult).append hws

theorem Expr.interpret_flat : ∀ e : Expr, Yields e.interpret fun e => AreFlat e.setOperations
  | .identifier i => by
    rw [Expr.interpret]
    exact .pure (by rw [LogicalSql.Expr.setOperations]; exact .nil)
  | .compound parts => by
    rw [Expr.interpret]
    exact .pure (interpretParts_flat parts)
  | .constant value => by
    rw [Expr.interpret]
    exact Constant.interpret_flat value
  | .binary left op right => by
    rw [Expr.interpret]
    refine (Expr.interpret_flat left).bind fun left hleft => ?_
    refine Yields.bind (p := fun _ => True) (fun _ _ => trivial) fun op _ => ?_
    refine (Expr.interpret_flat right).bind fun right hright => .pure ?_
    rw [LogicalSql.Expr.setOperations]
    exact hleft.append hright
  | .unary op e => by
    rw [Expr.interpret]
    refine Yields.bind (p := fun _ => True) (fun _ _ => trivial) fun op _ => ?_
    refine (Expr.interpret_flat e).bind fun e he => .pure ?_
    rw [LogicalSql.Expr.setOperations]
    exact he
  | .function ⟨name, _, args, _, filter, _, window⟩ => by
    rw [Expr.interpret]
    dsimp only
    split
    · exact nofun
    · refine (interpretOption_flat filter).bind fun filter hfilter => ?_
      refine (Arguments.interpret_flat args).bind fun args hargs => ?_
      exact applyFunction_flat hargs hfilter _ _
  | .substring e start length _ => by
    rw [Expr.interpret]
    refine (Expr.interpret_flat e).bind fun e he => ?_
    refine (interpretOption_flat start).bind fun start hstart => ?_
    refine (interpretOption_flat length).bind fun length hlength => .pure ?_
    rw [LogicalSql.Expr.setOperations, List.cons_append, exprSetOperations,
      exprSetOperations_append, exprSetOperations_toList, exprSetOperations_toList]
    exact he.append (hstart.append hlength)
  | .case operand whens otherwise => by
    rw [Expr.interpret]
    refine (interpretWhens_flat whens).bind fun whens hwhens => ?_
    refine (interpretOption_flat operand).bind fun operand hoperand => ?_
    refine (interpretOption_flat otherwise).bind fun otherwise hotherwise => .pure ?_
    rw [LogicalSql.Expr.setOperations]
    exact (hoperand.append hwhens).append hotherwise
  | .subquery query => by
    rw [Expr.interpret]
    refine (Query.interpret_flat query).bind fun query hquery => .pure ?_
    rw [LogicalSql.Expr.setOperations]
    exact hquery
  | .exists query negated => by
    rw [Expr.interpret]
    refine (Query.interpret_flat query).bind fun query hquery => .pure ?_
    cases negated with
    | false =>
      change AreFlat (LogicalSql.Expr.exists query).setOperations
      rw [LogicalSql.Expr.setOperations]
      exact hquery
    | true =>
      change AreFlat (LogicalSql.Expr.unary .not (.exists query)).setOperations
      rw [LogicalSql.Expr.setOperations, LogicalSql.Expr.setOperations]
      exact hquery
  | .inList e list negated => by
    rw [Expr.interpret]
    refine (Expr.interpret_flat e).bind fun e he => ?_
    refine (interpretExprs_flat list).bind fun list hlist => .pure ?_
    rw [LogicalSql.Expr.setOperations]
    exact he.append hlist
  | .inSubquery e query negated => by
    rw [Expr.interpret]
    refine (Expr.interpret_flat e).bind fun e he => ?_
    refine (Query.interpret_flat query).bind fun query hquery => .pure ?_
    rw [LogicalSql.Expr.setOperations]
    exact he.append hquery
  | .between e low high negated => by
    rw [Expr.interpret]
    refine (Expr.interpret_flat e).bind fun e he => ?_
    refine (Expr.interpret_flat low).bind fun low hlow => ?_
    refine (Expr.interpret_flat high).bind fun high hhigh => .pure ?_
    rw [LogicalSql.Expr.setOperations]
    exact (he.append hlow).append hhigh
  | .isNull e negated => by
    rw [Expr.interpret]
    refine (Expr.interpret_flat e).bind fun e he => .pure ?_
    rw [LogicalSql.Expr.setOperations]
    exact he
  | .cast _ e dataType _ => by
    rw [Expr.interpret]
    refine (Expr.interpret_flat e).bind fun e he => .pure ?_
    rw [LogicalSql.Expr.setOperations]
    exact he
  | .nested e => by
    rw [Expr.interpret]
    refine (Expr.interpret_flat e).bind fun e he => .pure ?_
    rw [LogicalSql.Expr.setOperations]
    exact he
  | .like e pattern ignoreCase negated _ _ => by
    rw [Expr.interpret]
    refine (Expr.interpret_flat e).bind fun e he => ?_
    refine (Expr.interpret_flat pattern).bind fun pattern hpattern => .pure ?_
    rw [LogicalSql.Expr.setOperations]
    exact he.append hpattern
  | .wildcardOf name _ => by
    rw [Expr.interpret]
    exact nofun
  | .other shown => by
    rw [Expr.interpret]
    exact nofun

theorem Arguments.interpret_flat : ∀ args : Arguments,
    Yields args.interpret fun args => AreFlat (exprSetOperations args.1)
  | .none => by
    rw [Arguments.interpret]
    exact .pure (by rw [exprSetOperations]; exact .nil)
  | .list distinct args _ => by
    rw [Arguments.interpret]
    exact (interpretArguments_flat args).bind fun args hargs => .pure hargs
  | .subquery query => by
    rw [Arguments.interpret]
    refine (Query.interpret_flat query).bind fun query hquery => .pure ?_
    rw [exprSetOperations, exprSetOperations, LogicalSql.Expr.setOperations, List.append_nil]
    exact hquery

theorem interpretArguments_flat : ∀ args : List Argument,
    Yields (interpretArguments args) fun args => AreFlat (exprSetOperations args)
  | [] => by
    rw [interpretArguments]
    exact .pure (by rw [exprSetOperations]; exact .nil)
  | .expr e :: as => by
    rw [interpretArguments]
    refine (Expr.interpret_flat e).bind fun e he => ?_
    refine (interpretArguments_flat as).bind fun as has => .pure ?_
    rw [exprSetOperations]
    exact he.append has
  | .wildcard _ :: as => by
    rw [interpretArguments]
    refine (interpretArguments_flat as).bind fun as has => .pure ?_
    rw [exprSetOperations, LogicalSql.Expr.setOperations, List.nil_append]
    exact has
  | .wildcardOf _ _ :: as => by
    rw [interpretArguments]
    exact interpretArguments_flat as
  | .named _ _ _ _ :: as => by
    rw [interpretArguments]
    exact interpretArguments_flat as

end

theorem Statement.interpret_flat (s : Statement) :
    Yields s.interpret fun q => AreFlat q.setOperations := by
  cases s with
  | query q => exact Query.interpret_flat q
  | other text =>
    refine .pure ?_
    rw [LogicalSql.Query.setOperations]
    exact .nil

end LogicalSql.Surface
