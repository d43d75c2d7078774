import LogicalSql.Proofs.Query.Cut
import LogicalSql.Proofs.Storage.Replacement

/-! Lookups are unambiguous. Whatever characters the names of a table and of its columns have, the
statement that looks for keys is read in one way only, each key at the parameter of its place. -/
namespace LogicalSql

open Surface Surface.Token

namespace SelectStatement

/-! The grammar of lookups, in tokens. -/

/-- A column compared with the parameter of this number, both in lower case or both as they are. -/
structure Condition where
  column : String
  parameter : Nat
  lowered : Bool
  deriving DecidableEq, Repr

def nameToken (name : String) : Token := .word name (some '"')

def parameterToken (n : Nat) : Token := .placeholder ("$" ++ toString n)

def Condition.tokens : Condition → List Token
  | ⟨column, parameter, true⟩ =>
    [.keyword "lower", .symbol "(", nameToken column, .symbol ")", .symbol "=", .keyword "lower",
      .symbol "(", parameterToken parameter, .symbol ")"]
  | ⟨column, parameter, false⟩ => [nameToken column, .symbol "=", parameterToken parameter]

def quotedNameTokens (names : List String) : List Token :=
  commas (names.map fun name => [nameToken name])

/-- Without conditions the clause is left out. -/
def whereTokens : List Condition → List Token
  | [] => []
  | conditions => .keyword "where" :: [.keyword "and"].intercalate (conditions.map Condition.tokens)

end SelectStatement

open SelectStatement

/-- A statement that asks for columns of the rows of a table that meet all conditions. -/
structure SelectStatement where
  schema : String
  table : String
  columns : List String
  conditions : List Condition
  deriving DecidableEq, Repr

namespace SelectStatement

def tokens (q : SelectStatement) : List Token :=
  .keyword "select" :: (quotedNameTokens q.columns ++
    .keyword "from" :: nameToken q.schema :: .symbol "." :: nameToken q.table ::
      whereTokens q.conditions)

/-! A reader of the grammar. -/

/-- Zeros in front are refused. -/
def parameter? (text : String) : Option Nat :=
  let n := Text.digitsValue (text.toList.drop 1)
  if text = "$" ++ toString n then some n else none

def readColumn? : List Token → Option String
  | [.word column (some '"')] => some column
  | _ => none

def readCondition? : List Token → Option Condition
  | [.word "lower" none, .symbol "(", .word column (some '"'), .symbol ")", .symbol "=",
      .word "lower" none, .symbol "(", .placeholder text, .symbol ")"] =>
    (parameter? text).map (⟨column, ·, true⟩)
  | [.word column (some '"'), .symbol "=", .placeholder text] =>
    (parameter? text).map (⟨column, ·, false⟩)
  | _ => none

/-- Items with a separator between them. -/
def readItems? {α : Type} (sep : Token) (item? : List Token → Option α) (ts : List Token) :
    Option (List α) :=
  (ts.splitOn sep).mapM item?

def readColumns? (ts : List Token) : Option (List String) :=
  if ts = [] then some [] else readItems? (.symbol ",") readColumn? ts

def readWhere? : List Token → Option (List Condition)
  | [] => some []
  | .word "where" none :: ts => readItems? (.keyword "and") readCondition? ts
  | _ => none

def ofTokens? : List Token → Option SelectStatement
  | .word "select" none :: ts =>
    match ts.dropWhile (· != .keyword "from") with
    | .word "from" none :: .word schema (some '"') :: .symbol "." :: .word table (some '"') ::
        rest => do
      let columns ← readColumns? (ts.takeWhile (· != .keyword "from"))
      let conditions ← readWhere? rest
      return { schema, table, columns, conditions }
    | _ => none
  | _ => none

def read? (text : String) : Option SelectStatement := (tokens? text.toList).bind ofTokens?

/-- Each condition's column with the value of its parameter. Parameters count from one. -/
def bound (q : SelectStatement) (parameters : List Value) : List (String × Option Value) :=
  q.conditions.map fun c => (c.column, parameters[c.parameter - 1]?)

/-! The reader takes what the grammar gives and nothing else. -/

theorem parameter?_eq_some {text : String} {n : Nat} :
    parameter? text = some n ↔ text = "$" ++ toString n := by
  constructor
  · intro h
    simp only [parameter?] at h
    split at h
    case isTrue heq => rwa [Option.some.inj h] at heq
    case isFalse => cases h
  · rintro rfl
    have hdigits : ("$" ++ toString n).toList.drop 1 = (toString n).toList := by
      rw [String.toList_append]
      rfl
    simp only [parameter?, hdigits, Text.digitsValue_toString, if_true]

theorem readColumn?_eq_some {ts : List Token} {column : String} :
    readColumn? ts = some column ↔ ts = [nameToken column] := by
  constructor
  · intro h
    unfold readColumn? at h
    split at h
    case h_1 name =>
      rw [Option.some.inj h]
      rfl
    case h_2 => cases h
  · rintro rfl
    rfl

theorem readCondition?_eq_some {ts : List Token} {c : Condition} :
    readCondition? ts = some c ↔ ts = c.tokens := by
  constructor
  · intro h
    unfold readCondition? at h
    split at h
    case h_1 column text =>
      obtain ⟨n, hn, rfl⟩ := Option.map_eq_some_iff.1 h
      rw [parameter?_eq_some.1 hn]
      rfl
    case h_2 column text =>
      obtain ⟨n, hn, rfl⟩ := Option.map_eq_some_iff.1 h
      rw [parameter?_eq_some.1 hn]
      rfl
    case h_3 => cases h
  · rintro rfl
    obtain ⟨column, n, lowered⟩ := c
    have hn : parameter? ("$" ++ toString n) = some n := parameter?_eq_some.2 rfl
    cases lowered <;>
      simp [Condition.tokens, nameToken, parameterToken, readCondition?, hn, -Nat.toString_eq_repr]

theorem and_not_mem_tokens (c : Condition) : .keyword "and" ∉ c.tokens := by
  obtain ⟨column, n, lowered⟩ := c
  cases lowered <;> simp [Condition.tokens, nameToken, parameterToken]

section Items

variable {α : Type} {sep : Token} {item? : List Token → Option α} {print : α → List Token}

theorem mapM_eq_some (hitem : ∀ ts a, item? ts = some a ↔ ts = print a)
    {parts : List (List Token)} {as : List α} :
    parts.mapM item? = some as ↔ parts = as.map print := by
  induction parts generalizing as with
  | nil => cases as <;> simp
  | cons p ps ih => cases as <;> simp [Option.bind_eq_some_iff, hitem, ih]

theorem readItems?_eq_some (hitem : ∀ ts a, item? ts = some a ↔ ts = print a)
    (hsep : ∀ a, sep ∉ print a) {ts : List Token} {as : List α} :
    readItems? sep item? ts = some as ↔ as ≠ [] ∧ ts = [sep].intercalate (as.map print) := by
  rw [readItems?, mapM_eq_some hitem]
  constructor
  · intro h
    refine ⟨?_, ?_⟩
    · rintro rfl
      exact List.splitOn_ne_nil _ _ h
    · rw [← h, List.intercalate_splitOn]
  · rintro ⟨hne, rfl⟩
    refine List.splitOn_intercalate sep ?_ (by simpa using hne)
    intro part hpart
    obtain ⟨a, -, rfl⟩ := List.mem_map.1 hpart
    exact hsep a

end Items

theorem quotedNameTokens_eq_nil {names : List String} :
    quotedNameTokens names = [] ↔ names = [] := by
  rcases names with _ | ⟨a, _ | ⟨b, names⟩⟩ <;> simp [quotedNameTokens, commas]

theorem ne_from_of_mem_quotedNameTokens (names : List String) :
    ∀ t ∈ quotedNameTokens names, (t != .keyword "from") = true := by
  induction names with
  | nil => simp [quotedNameTokens, commas]
  | cons a names ih =>
    cases names with
    | nil => simp [quotedNameTokens, commas, nameToken]
    | cons b names => simpa [quotedNameTokens, commas, nameToken] using ih

theorem readColumns?_eq_some {ts : List Token} {columns : List String} :
    readColumns? ts = some columns ↔ ts = quotedNameTokens columns := by
  unfold readColumns?
  split
  case isTrue hnil =>
    rw [hnil, Option.some_inj, eq_comm, ← quotedNameTokens_eq_nil, eq_comm]
  case isFalse hne =>
    rw [readItems?_eq_some (fun _ _ => readColumn?_eq_some) (by simp [nameToken])]
    refine ⟨And.right, fun h => ⟨fun hnil => hne ?_, h⟩⟩
    rw [h, quotedNameTokens_eq_nil, hnil]

theorem readWhere?_eq_some {ts : List Token} {conditions : List Condition} :
    readWhere? ts = some conditions ↔ ts = whereTokens conditions := by
  have hitems : ∀ ts, readItems? (.keyword "and") readCondition? ts = some conditions ↔
      conditions ≠ [] ∧ ts = [.keyword "and"].intercalate (conditions.map Condition.tokens) :=
    fun ts => readItems?_eq_some (fun _ _ => readCondition?_eq_some) and_not_mem_tokens
  constructor
  · intro h
    unfold readWhere? at h
    split at h
    case h_1 =>
      rw [← Option.some.inj h]
      rfl
    case h_2 ts =>
      obtain ⟨hne, rfl⟩ := (hitems ts).1 h
      obtain ⟨c, cs, rfl⟩ := List.exists_cons_of_ne_nil hne
      rfl
    case h_3 => cases h
  · rintro rfl
    cases conditions with
    | nil => rfl
    | cons c cs => exact (hitems _).2 ⟨List.cons_ne_nil _ _, rfl⟩

theorem ofTokens?_eq_some {ts : List Token} {q : SelectStatement} :
    ofTokens? ts = some q ↔ ts = q.tokens := by
  constructor
  · intro h
    unfold ofTokens? at h
    split at h
    case h_2 => cases h
    case h_1 ts =>
      split at h
      case h_2 => cases h
      case h_1 schema table rest hdrop =>
        obtain ⟨columns, hcolumns, h⟩ := Option.bind_eq_some_iff.1 h
        obtain ⟨conditions, hconditions, h⟩ := Option.bind_eq_some_iff.1 h
        cases h
        have hts : ts.takeWhile (· != .keyword "from") ++ ts.dropWhile (· != .keyword "from") =
            ts := List.takeWhile_append_dropWhile
        rw [hdrop, readColumns?_eq_some.1 hcolumns, readWhere?_eq_some.1 hconditions] at hts
        rw [tokens, ← hts]
        rfl
  · rintro rfl
    obtain ⟨schema, table, columns, conditions⟩ := q
    have hfrom := ne_from_of_mem_quotedNameTokens columns
    have hcolumns := readColumns?_eq_some.2 (Eq.refl (quotedNameTokens columns))
    have hwhere := readWhere?_eq_some.2 (Eq.refl (whereTokens conditions))
    rw [tokens, ofTokens?, List.dropWhile_append_of_pos hfrom, List.takeWhile_append_of_pos hfrom]
    simp [nameToken, hcolumns, hwhere]

/-- A text is read as a statement just when it has the tokens of that statement. -/
theorem read?_eq_some {text : String} {q : SelectStatement} :
    read? text = some q ↔ tokens? text.toList = some q.tokens := by
  rw [read?, Option.bind_eq_some_iff]
  constructor
  · rintro ⟨ts, hts, h⟩
    rw [hts, ofTokens?_eq_some.1 h]
  · intro h
    exact ⟨q.tokens, h, ofTokens?_eq_some.2 rfl⟩

end SelectStatement

/-! The text of a lookup is cut into the tokens of its statement. -/

namespace Cut

theorem quoteName (name : String) : Cut (LogicalSql.quoteName name).toList [nameToken name] := by
  refine of_cutsTo (fun rest ts hends hrest => ?_) (by simp [nameToken])
  exact .quotedWord (fun c hc => endsWord_of_endsPiece (hends c hc)) hrest

/-- A point in front of a quote begins no number. -/
theorem quotedName (desc : TableDesc) :
    Cut desc.quotedName.toList [nameToken desc.schema, .symbol ".", nameToken desc.name] := by
  refine of_cutsTo (fun rest ts hends hrest => ?_) (by simp [nameToken])
  have hname := (quoteName desc.name).lexes rest ts hends hrest
  have hdigit :
      ∀ c ∈ ((LogicalSql.quoteName desc.name).toList ++ rest).head?, c.isDigit = false := by
    rw [LogicalSql.quoteName, Text.toList_quoted]
    rintro _ ⟨⟩
    rfl
  have hschema : Lexes ((LogicalSql.quoteName desc.schema).toList ++
      '.' :: ((LogicalSql.quoteName desc.name).toList ++ rest))
      (nameToken desc.schema :: .symbol "." :: ([nameToken desc.name] ++ ts)) :=
    .quotedWord (by simp [endsWord]) (.point hdigit hname)
  simpa [TableDesc.quotedName] using hschema

theorem condition (i : Nat) (key : Key) :
    Cut (TableDesc.conditionSql i key).toList
      (Condition.tokens ⟨key.1, i + 1, key.2.text?.isSome⟩) := by
  obtain ⟨column, value⟩ := key
  have hname := quoteName column
  have hparameter := placeholder (i + 1)
  cases value with
  | text =>
    have hlowered := (hparameter.call "lower" (by decide)).operator .eq
    have h := (hname.call "lower" (by decide)).spaced hlowered
    simpa [TableDesc.conditionSql, Condition.tokens, Value.text?, parameterToken, BinaryOp.tokens,
      BinaryOp.sql] using h
  | integer =>
    have h := hname.spaced (hparameter.operator .eq)
    simpa [TableDesc.conditionSql, Condition.tokens, Value.text?, parameterToken, BinaryOp.tokens,
      BinaryOp.sql] using h

end Cut

theorem forall₂_mapIdx {α β γ : Type} {R : β → γ → Prop} {f : Nat → α → β} {g : Nat → α → γ}
    (h : ∀ i a, R (f i a) (g i a)) (as : List α) : List.Forall₂ R (as.mapIdx f) (as.mapIdx g) := by
  induction as generalizing f g with
  | nil => exact .nil
  | cons a as ih =>
    rw [List.mapIdx_cons, List.mapIdx_cons]
    exact .cons (h 0 a) (ih fun i => h (i + 1))

namespace TableDesc

/-- One condition a key, at the parameter of its place. Texts are lowered. -/
def conditions (keys : List Key) : List Condition :=
  keys.mapIdx fun i key => ⟨key.1, i + 1, key.2.text?.isSome⟩

def selectStatement (desc : TableDesc) (keys : List Key) : SelectStatement where
  schema := desc.schema
  table := desc.name
  columns := desc.columns.map Column.name
  conditions := conditions keys

theorem columnList_cut (desc : TableDesc) :
    Cut desc.columnList.toList (quotedNameTokens (desc.columns.map Column.name)) := by
  have hnames : Cuts (desc.columns.map fun c => quoteName c.name)
      ((desc.columns.map Column.name).map fun name => [nameToken name]) := by
    rw [List.map_map, Cuts, List.forall₂_map_left_iff, List.forall₂_map_right_iff]
    exact List.forall₂_same.2 fun c _ => .quoteName c.name
  exact hnames.commaList

theorem conditions_cut (keys : List Key) :
    Cut (" and ".intercalate (keys.mapIdx conditionSql)).toList
      ([.keyword "and"].intercalate ((conditions keys).map Condition.tokens)) := by
  have hcuts : Cuts (keys.mapIdx conditionSql) ((conditions keys).map Condition.tokens) := by
    refine List.forall₂_map_right_iff.2 (forall₂_mapIdx (fun i key => ?_) keys)
    exact .condition i key
  refine hcuts.intercalate (fun h => ?_) (by simp [endsPiece])
  exact (h.keyword "and" (by decide)).space

theorem selectSql_cut (desc : TableDesc) (keys : List Key) :
    Cut (desc.selectSql keys).toList (desc.selectStatement keys).tokens := by
  cases keys with
  | nil =>
    have hfrom := (Cut.quotedName desc).keyword "from" (by decide)
    have h := (desc.columnList_cut.spaced hfrom).keyword "select" (by decide)
    simpa [selectSql, SelectStatement.tokens, selectStatement, whereTokens, conditions] using h
  | cons key keys =>
    have hwhere := (conditions_cut (key :: keys)).keyword "where" (by decide)
    have hfrom := ((Cut.quotedName desc).spaced hwhere).keyword "from" (by decide)
    have h := (desc.columnList_cut.spaced hfrom).keyword "select" (by decide)
    simpa [selectSql, SelectStatement.tokens, selectStatement, whereTokens, conditions] using h

theorem read?_selectSql (desc : TableDesc) (keys : List Key) :
    SelectStatement.read? (desc.selectSql keys) = some (desc.selectStatement keys) := by
  have hlexes := (desc.selectSql_cut keys).lexes [] [] (by simp) .nil
  rw [List.append_nil, List.append_nil] at hlexes
  exact SelectStatement.read?_eq_some.2 (tokens?_eq_some.2 hlexes)

/-- The value at each parameter is that of its key. -/
theorem bound_selectStatement (desc : TableDesc) (keys : List Key) :
    (desc.selectStatement keys).bound (keys.map (·.2)) =
      keys.map fun key => (key.1, some key.2) := by
  apply List.ext_getElem?
  intro i
  simp only [SelectStatement.bound, selectStatement, conditions, List.getElem?_map,
    List.getElem?_mapIdx, Option.map_map]
  cases hi : keys[i]? with
  | none => rfl
  | some key => simp [hi]

theorem columnIndex_of_mem {desc : TableDesc} {name : String}
    (h : ∃ c ∈ desc.columns, c.name = name) : ∃ i, desc.columnIndex name = .ok i := by
  obtain ⟨c, hc, rfl⟩ := h
  unfold columnIndex
  split
  case h_1 i _ => exact ⟨i, rfl⟩
  case h_2 hnone =>
    have hne := List.findIdx?_eq_none_iff.1 hnone c hc
    simp at hne

end TableDesc

/-- A lookup in described columns is sent with the values of its keys, if the server takes it. -/
theorem Server.log_select {desc : TableDesc} {keys : List Key} {s : Server}
    (hkeys : ∀ key ∈ keys, ∃ c ∈ desc.columns, c.name = key.1)
    (haccepts : s.refuses s.log (desc.selectSql keys) = false) :
    ((select desc keys).run.run s).2.log =
      s.log ++ [.execute (desc.selectSql keys) (keys.map (·.2))] := by
  unfold select
  rw [run_bind, run_forM_of_ok ?check]
  case check =>
    intro key hkey
    obtain ⟨i, hi⟩ := TableDesc.columnIndex_of_mem (hkeys key hkey)
    rw [run_bind, hi]
    rfl
  simp only [run_bind, run_execute, haccepts, if_neg Bool.false_ne_true, run_mapM_liftM]

namespace TableDesc

/-- The text of a lookup is read as the columns of the table in their order, its schema, its name
and one condition a key, in the order of the keys, where the condition at a place has the parameter
of that place and is lowered for a text. No other statement has these tokens. It is sent with the
values of the keys, and the value at each parameter is that of its key. -/
theorem selectSql_read_back (desc : TableDesc) (keys : List Key) :
    let q : SelectStatement :=
      { schema := desc.schema, table := desc.name, columns := desc.columns.map Column.name
        conditions := keys.mapIdx fun i key => ⟨key.1, i + 1, key.2.text?.isSome⟩ }
    SelectStatement.read? (desc.selectSql keys) = some q ∧
      (∀ q', tokens? (desc.selectSql keys).toList = some q'.tokens ↔ q' = q) ∧
      q.bound (keys.map (·.2)) = (keys.map fun key => (key.1, some key.2)) ∧
      ∀ s : Server, (∀ key ∈ keys, ∃ c ∈ desc.columns, c.name = key.1) →
        s.refuses s.log (desc.selectSql keys) = false →
        ((Server.select desc keys).run.run s).2.log =
          s.log ++ [.execute (desc.selectSql keys) (keys.map (·.2))] := by
  intro q
  have hread : SelectStatement.read? (desc.selectSql keys) = some q := desc.read?_selectSql keys
  refine ⟨hread, fun q' => ?_, desc.bound_selectStatement keys, fun s hkeys haccepts => ?_⟩
  · rw [← SelectStatement.read?_eq_some, hread, Option.some_inj, eq_comm]
  · exact Server.log_select hkeys haccepts

/-- Names that hold quotes, separators, keywords and parameters. -/
theorem selectSql_read_back_hostile :
    let desc : TableDesc :=
      { schema := "a\".\"b", name := "t\" where \"x\" = $1 and \"", indexes := []
        columns := [⟨"a\", \"b", .text⟩, ⟨"lower(\"c\") = lower($2)", .int4⟩, ⟨"", .text⟩] }
    let keys : List Key :=
      [("lower(\"c\") = lower($2)", .integer 7), ("a\", \"b", .text "x"), ("", .text "$1")]
    let s : Server := {}
    (∀ key ∈ keys, ∃ c ∈ desc.columns, c.name = key.1) ∧
      s.refuses s.log (desc.selectSql keys) = false ∧
      SelectStatement.read? (desc.selectSql keys) = some
        { schema := "a\".\"b", table := "t\" where \"x\" = $1 and \""
          columns := ["a\", \"b", "lower(\"c\") = lower($2)", ""]
          conditions :=
            [⟨"lower(\"c\") = lower($2)", 1, false⟩, ⟨"a\", \"b", 2, true⟩, ⟨"", 3, true⟩] } ∧
      ((Server.select desc keys).run.run s).2.log =
        [.execute (desc.selectSql keys) [.integer 7, .text "x", .text "$1"]] := by
  intro desc keys s
  have hkeys : ∀ key ∈ keys, ∃ c ∈ desc.columns, c.name = key.1 := by simp [keys, desc]
  obtain ⟨hread, -, -, hsent⟩ := selectSql_read_back desc keys
  exact ⟨hkeys, rfl, hread, hsent s hkeys rfl⟩

end TableDesc

end LogicalSql
