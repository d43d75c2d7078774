import LogicalSql.Proofs.Mapping.Backed

/-! What a catalog has written to a memory it finds there again: of the mappings with one name the
first, with the type index of its physical name. -/
namespace LogicalSql

theorem lookup_filter_of_ne {ν : Type} {key other : String} (h : other ≠ key)
    (entries : List (String × ν)) :
    (entries.filter (·.1 != key)).lookup other = entries.lookup other := by
  induction entries with
  | nil => rfl
  | cons entry entries ih =>
    obtain ⟨k, v⟩ := entry
    by_cases hk : k = key
    · have hother : (other == k) = false := beq_eq_false_iff_ne.2 (hk ▸ h)
      rw [List.filter_cons_of_neg (by simp [hk]), ih, List.lookup_cons, hother]
    · rw [List.filter_cons_of_pos (by simp [hk]), List.lookup_cons, List.lookup_cons, ih]

namespace MemoryStorage

/-- The memory with these rows in the place of those of a table. -/
def put (m : MemoryStorage) (desc : TableDesc) (rows : List Row) : MemoryStorage :=
  { m with tables := (desc.qualifiedName, rows) :: m.tables.filter (·.1 != desc.qualifiedName) }

@[simp] theorem rows_put (m : MemoryStorage) (desc : TableDesc) (rows : List Row) :
    (m.put desc rows).rows desc = rows := by
  simp [put, MemoryStorage.rows]

theorem rows_put_of_ne (m : MemoryStorage) {desc other : TableDesc} (rows : List Row)
    (h : other.qualifiedName ≠ desc.qualifiedName) :
    (m.put desc rows).rows other = m.rows other := by
  have hkey : (other.qualifiedName == desc.qualifiedName) = false := beq_eq_false_iff_ne.2 h
  rw [put, MemoryStorage.rows, MemoryStorage.rows, List.lookup_cons, hkey]
  dsimp only
  rw [lookup_filter_of_ne h]

theorem checkRows_eq_ok {desc : TableDesc} {rows : List Row}
    (h : ∀ row ∈ rows, row.length = desc.columns.length) : desc.checkRows rows = .ok () :=
  forM_eq_ok.2 fun row hrow => if_pos (h row hrow)

theorem run_recreate (m : MemoryStorage) {desc : TableDesc} {rows : List Row}
    (h : ∀ row ∈ rows, row.length = desc.columns.length) :
    (recreate desc rows).run.run m = (.ok (), m.put desc rows) := by
  rw [recreate, checkRows_eq_ok h]
  rfl

/-- A look-up of a value of an enumeration gives the rows that agree in both names, in their
order. -/
theorem run_select_enumValue (m : MemoryStorage) (enum value : String) :
    (select enumMappingsDesc
      [("enumName", .text enum), ("enumValueName", .text value)]).run.run m =
      (.ok ((m.rows enumMappingsDesc).filter (matchesKeys [(0, .text enum), (1, .text value)])),
        { m with selects := m.selects + 1 }) := rfl

end MemoryStorage

namespace Catalog

section EnumValues

variable {σ : Type}

theorem run_rememberEnumValue {c : Catalog σ} {key : String × String}
    (h : c.enums.get? key = none) (a : Option Int32) :
    (rememberEnumValue key a).run.run c = (.ok a, { c with enums := (key, a) :: c.enums }) := by
  have hcache : c.enums.remember key a = (key, a) :: c.enums := Cache.remember_of_none h
  change (Except.ok (((c.enums.remember key a).get? key).getD a),
    { c with enums := c.enums.remember key a }) = _
  rw [hcache, Cache.get?_cons, if_pos rfl]
  rfl

variable [Storage σ]

/-- The answer of the storage to a look-up of a value, and the storage after it. -/
def lookupEnumValue (enum value : String) (storage : σ) : Except MappingError (Option Int32) × σ :=
  match (Storage.select enumMappingsDesc
    [("enumName", .text enum), ("enumValueName", .text value)]).run.run storage with
  | (.error e, storage) => (.error (.storage e), storage)
  | (.ok [], storage) => (.ok none, storage)
  | (.ok (row :: _), storage) =>
    (((enumMappingsDesc.integerAt row 2).mapError .storage).map some, storage)

theorem run_loadEnumValue (c : Catalog σ) (enum value : String) :
    (loadEnumValue enum value).run.run c =
      ((lookupEnumValue enum value c.storage).1,
        { c with storage := (lookupEnumValue enum value c.storage).2 }) := by
  unfold loadEnumValue lookupEnumValue
  rw [run_bind, run_onStorage]
  rcases (Storage.select enumMappingsDesc
    [("enumName", .text enum), ("enumValueName", .text value)]).run.run c.storage with
    ⟨_ | _ | ⟨row, _⟩, storage⟩
  · rfl
  · rfl
  · cases h : enumMappingsDesc.integerAt row 2 <;> simp only [h] <;> rfl

/-- A value that is not remembered is looked up, and the answer remembered. -/
theorem run_resolveEnumValue (enum value : String) (c : Catalog σ) :
    (resolveEnumValue enum value).run.run c =
      match c.enums.get? (enum, value), lookupEnumValue enum value c.storage with
      | some a, _ => (.ok a, c)
      | none, (.error e, storage) => (.error e, { c with storage })
      | none, (.ok a, storage) =>
        (.ok a, { c with storage, enums := ((enum, value), a) :: c.enums }) := by
  rw [resolveEnumValue, run_bind, run_get]
  dsimp only
  cases hget : c.enums.get? (enum, value) with
  | some a => rfl
  | none =>
    dsimp only
    rw [run_bind, run_loadEnumValue]
    rcases lookupEnumValue enum value c.storage with ⟨_ | a, storage⟩
    · rfl
    · exact run_rememberEnumValue (c := { c with storage }) hget a

end EnumValues

/-- The name of one kind, without case. -/
def nameKey : NameKind → TableMapping → String
  | .logical => TableMapping.logicalKey
  | .physical => TableMapping.physicalKey

/-- The first of the mappings with this name, with the index that is written in its physical
name. -/
def firstTable (tables : List TableMapping) (kind : NameKind) (name : String) :
    Option TableMapping :=
  (tables.find? (nameKey kind · == Text.lower name)).map TableMapping.stored

/-- The position that the first of the mappings with both names gives. -/
def firstPosition (enums : List EnumMapping) (names : String × String) : Option Int32 :=
  (enums.find? fun e => Text.lower e.enumName == Text.lower names.1 &&
    Text.lower e.valueName == Text.lower names.2).map EnumMapping.orderIndex

variable {tables : List TableMapping} {enums : List EnumMapping} {c c' : Catalog MemoryStorage}

/-- The storage holds the rows of these mappings, and what is remembered is the first of them. -/
structure Stores (tables : List TableMapping) (enums : List EnumMapping)
    (c : Catalog MemoryStorage) : Prop where
  writable : ∀ t ∈ tables, t.checkProperties = .ok ()
  tableRows : c.storage.rows tableMappingsDesc = tables.map TableMapping.toRow
  enumRows : c.storage.rows enumMappingsDesc = enums.map EnumMapping.toRow
  answers : ∀ kind {name a}, (c.answers kind).get? name = some a → a = firstTable tables kind name
  positions : ∀ {names a}, c.enums.get? names = some a → a = firstPosition enums names

namespace Stores

theorem lookup (hc : c.Stores tables enums) (kind : NameKind) (name : String) :
    Catalog.lookup (column kind) name c.storage =
      (.ok (firstTable tables kind name),
        { c.storage with selects := c.storage.selects + 1 }) := by
  cases kind with
  | logical =>
    exact lookup_rows hc.writable hc.tableRows rfl name fun t => by
      simp [MemoryStorage.matchesKeys, TableMapping.toRow, Value.agrees, nameKey,
        TableMapping.logicalKey]
  | physical =>
    exact lookup_rows hc.writable hc.tableRows rfl name fun t => by
      simp [MemoryStorage.matchesKeys, TableMapping.toRow, Value.agrees, nameKey,
        TableMapping.physicalKey]

theorem lookupEnumValue (hc : c.Stores tables enums) (enum value : String) :
    Catalog.lookupEnumValue enum value c.storage =
      (.ok (firstPosition enums (enum, value)),
        { c.storage with selects := c.storage.selects + 1 }) := by
  have hmatch : MemoryStorage.matchesKeys [(0, .text enum), (1, .text value)] ∘
      EnumMapping.toRow = fun e => Text.lower e.enumName == Text.lower enum &&
        Text.lower e.valueName == Text.lower value := by
    funext e
    simp [MemoryStorage.matchesKeys, EnumMapping.toRow, Value.agrees]
  have hselect : (Storage.select enumMappingsDesc
      [("enumName", .text enum), ("enumValueName", .text value)]).run.run c.storage = _ :=
    MemoryStorage.run_select_enumValue c.storage enum value
  rw [hc.enumRows, List.filter_map, hmatch] at hselect
  rw [firstPosition, ← List.head?_filter, Catalog.lookupEnumValue, hselect]
  dsimp only
  rcases enums.filter _ with _ | ⟨e, _⟩ <;> rfl

/-- A look-up that is counted changes neither the rows nor what is remembered. -/
theorem counted (hc : c.Stores tables enums) (n : Nat) :
    { c with storage.selects := n }.Stores tables enums :=
  ⟨hc.writable, hc.tableRows, hc.enumRows, hc.answers, hc.positions⟩

theorem learn (hc : c.Stores tables enums) (kind : NameKind) (name : String) :
    (c.learn kind name (firstTable tables kind name)).Stores tables enums := by
  refine ⟨hc.writable, by cases kind <;> exact hc.tableRows, by cases kind <;> exact hc.enumRows,
    fun other _ _ hn => ?_, fun hn => hc.positions (by cases kind <;> exact hn)⟩
  cases kind <;> cases other
  · exact Cache.get?_cons_eq (hc.answers .logical) hn
  · exact hc.answers .physical hn
  · exact hc.answers .logical hn
  · exact Cache.get?_cons_eq (hc.answers .physical) hn

theorem resolve (hc : c.Stores tables enums) (kind : NameKind) (name : String) :
    ∃ c', (Catalog.resolve kind name).run.run c = (.ok (firstTable tables kind name), c') ∧
      c'.Stores tables enums := by
  cases hget : (c.answers kind).get? name with
  | some a =>
    rw [run_resolve_of_some kind hget, hc.answers kind hget]
    exact ⟨c, rfl, hc⟩
  | none =>
    rw [run_resolve, hget, hc.lookup]
    exact ⟨_, rfl, (hc.counted _).learn kind name⟩

theorem resolveEnumValue (hc : c.Stores tables enums) (enum value : String) :
    ∃ c', (Catalog.resolveEnumValue enum value).run.run c =
        (.ok (firstPosition enums (enum, value)), c') ∧ c'.Stores tables enums := by
  cases hget : c.enums.get? (enum, value) with
  | some a =>
    rw [run_resolveEnumValue, hget, hc.positions hget]
    exact ⟨c, rfl, hc⟩
  | none =>
    rw [run_resolveEnumValue, hget, hc.lookupEnumValue]
    exact ⟨_, rfl, hc.writable, hc.tableRows, hc.enumRows, hc.answers,
      fun hn => Cache.get?_cons_eq hc.positions hn⟩

end Stores

/-- A question to a catalog. -/
inductive Question where
  | logical (name : String)
  | physical (name : String)
  | enumValue (enum value : String)

/-- Asks without a look at the answer. -/
def Question.ask : Question → CatalogM MemoryStorage Unit
  | .logical name => do let _ ← resolveLogical name
  | .physical name => do let _ ← resolvePhysical name
  | .enumValue enum value => do let _ ← Catalog.resolveEnumValue enum value

theorem Stores.ask (question : Question) (c : Catalog MemoryStorage)
    (hc : c.Stores tables enums) :
    ∃ c', question.ask.run.run c = (.ok (), c') ∧ c'.Stores tables enums := by
  cases question with
  | logical name =>
    obtain ⟨c', hrun, hc'⟩ := hc.resolve .logical name
    change (resolveLogical name).run.run c = _ at hrun
    exact ⟨c', by rw [Question.ask, run_bind, hrun]; rfl, hc'⟩
  | physical name =>
    obtain ⟨c', hrun, hc'⟩ := hc.resolve .physical name
    change (resolvePhysical name).run.run c = _ at hrun
    exact ⟨c', by rw [Question.ask, run_bind, hrun]; rfl, hc'⟩
  | enumValue enum value =>
    obtain ⟨c', hrun, hc'⟩ := hc.resolveEnumValue enum value
    exact ⟨c', by rw [Question.ask, run_bind, hrun]; rfl, hc'⟩

theorem writable_of_writeTables (h : ((writeTables tables).run.run c).1 = .ok ()) :
    ∀ t ∈ tables, checkWritable t = .ok () := by
  rw [run_writeTables_eq] at h
  cases hchecks : tables.forM checkWritable with
  | error e =>
    rw [hchecks] at h
    cases h
  | ok => exact forM_eq_ok.1 hchecks

theorem run_writeTables (h : ∀ t ∈ tables, checkWritable t = .ok ()) :
    (writeTables tables).run.run c =
      (.ok (), { c with
        storage := c.storage.put tableMappingsDesc (tables.map TableMapping.toRow) }) := by
  have hrecreate : (Storage.recreate tableMappingsDesc (tables.map TableMapping.toRow)).run.run
      c.storage = _ := MemoryStorage.run_recreate c.storage (List.forall_mem_map.2 fun _ _ => rfl)
  rw [run_writeTables_eq, forM_eq_ok.2 h]
  dsimp only
  rw [run_onStorage, hrecreate]

/-- Enumeration mappings are always accepted. -/
theorem run_writeEnums :
    (writeEnums enums).run.run c =
      (.ok (), { c with
        storage := c.storage.put enumMappingsDesc (enums.map EnumMapping.toRow) }) := by
  have hrecreate : (Storage.recreate enumMappingsDesc (enums.map EnumMapping.toRow)).run.run
      c.storage = _ := MemoryStorage.run_recreate c.storage (List.forall_mem_map.2 fun _ _ => rfl)
  rw [writeEnums_eq, run_onStorage, hrecreate]

/-- Both writes, in either order. -/
inductive Writes (tables : List TableMapping) (enums : List EnumMapping) :
    CatalogM MemoryStorage Unit → Prop where
  | tablesFirst : Writes tables enums (do writeTables tables; writeEnums enums)
  | enumsFirst : Writes tables enums (do writeEnums enums; writeTables tables)

theorem Writes.stores {write : CatalogM MemoryStorage Unit} (hwrite : Writes tables enums write)
    (hwritable : ∀ t ∈ tables, checkWritable t = .ok ())
    (hlogical : c.logical = []) (hphysical : c.physical = []) (henums : c.enums = []) :
    ∃ c', write.run.run c = (.ok (), c') ∧ c'.Stores tables enums := by
  have hne : tableMappingsDesc.qualifiedName ≠ enumMappingsDesc.qualifiedName := by decide
  have hproperties : ∀ t ∈ tables, t.checkProperties = .ok () := fun t ht =>
    checkProperties_of_checkWritable (hwritable t ht)
  have hanswers : ∀ kind, c.answers kind = [] := by
    rintro (_ | _)
    · exact hlogical
    · exact hphysical
  have hnone : ∀ kind {name a}, (c.answers kind).get? name = some a →
      a = firstTable tables kind name := fun kind _ _ hn => by
    rw [hanswers] at hn
    cases hn
  have hnoEnums : ∀ {names a}, c.enums.get? names = some a → a = firstPosition enums names :=
    fun hn => by
      rw [henums] at hn
      cases hn
  cases hwrite with
  | tablesFirst =>
    rw [run_bind, run_writeTables hwritable]
    dsimp only
    rw [run_writeEnums]
    refine ⟨_, rfl, hproperties, ?_, MemoryStorage.rows_put .., hnone, hnoEnums⟩
    rw [MemoryStorage.rows_put_of_ne _ _ hne, MemoryStorage.rows_put]
  | enumsFirst =>
    rw [run_bind, run_writeEnums]
    dsimp only
    rw [run_writeTables hwritable]
    refine ⟨_, rfl, hproperties, MemoryStorage.rows_put .., ?_, hnone, hnoEnums⟩
    rw [MemoryStorage.rows_put_of_ne _ _ hne.symm, MemoryStorage.rows_put]

/-- What was written is found again, whichever questions came before: by a logical or a physical
name the first table mapping with that name, all as it was written but for the index, which is the
one in the physical name, and by the names of an enumeration and of its value the position of the
first mapping with both. Case is ignored, and what was not written is not found. -/
theorem resolve_of_writes {write : CatalogM MemoryStorage Unit} (hwrite : Writes tables enums write)
    (hlogical : c.logical = []) (hphysical : c.physical = []) (henums : c.enums = [])
    (haccepted : ((writeTables tables).run.run c).1 = .ok ()) (questions : List Question) :
    ∃ c', (do write; questions.forM Question.ask : CatalogM MemoryStorage Unit).run.run c =
        (.ok (), c') ∧
      (∀ name, ((resolveLogical name).run.run c').1 =
        .ok ((tables.find? fun t => Text.lower t.logicalName == Text.lower name).map fun t =>
          { t with index := typeIndex? t.physicalName })) ∧
      (∀ name, ((resolvePhysical name).run.run c').1 =
        .ok ((tables.find? fun t => Text.lower t.physicalName == Text.lower name).map fun t =>
          { t with index := typeIndex? t.physicalName })) ∧
      ∀ enum value, ((resolveEnumValue enum value).run.run c').1 =
        .ok ((enums.find? fun e => Text.lower e.enumName == Text.lower enum &&
          Text.lower e.valueName == Text.lower value).map EnumMapping.orderIndex) := by
  obtain ⟨c₁, hrun, hc₁⟩ :=
    hwrite.stores (writable_of_writeTables haccepted) hlogical hphysical henums
  obtain ⟨c', hask, hc'⟩ := run_forM_of_keeps (fun question _ => Stores.ask question) hc₁
  refine ⟨c', ?_, fun name => ?_, fun name => ?_, fun enum value => ?_⟩
  · rw [run_bind, hrun]
    exact hask
  · obtain ⟨_, h, -⟩ := hc'.resolve .logical name
    exact congrArg Prod.fst h
  · obtain ⟨_, h, -⟩ := hc'.resolve .physical name
    exact congrArg Prod.fst h
  · obtain ⟨_, h, -⟩ := hc'.resolveEnumValue enum value
    exact congrArg Prod.fst h

/-- Of two mappings whose names differ in case only, the first is found. -/
theorem resolve_first_of_two :
    let items : TableMapping :=
      { logicalName := "Catalog.Items", physicalName := "_Reference5", type := .catalog
        properties := [⟨"Owner", .single "_fld7rref" (some "Catalog.Items")⟩] }
    let again : TableMapping :=
      { logicalName := "CATALOG.ITEMS", physicalName := "_reference5", type := .document }
    let enums : List EnumMapping := [⟨"Kind", "Good", 2⟩, ⟨"kind", "GOOD", 3⟩]
    let write : CatalogM MemoryStorage Unit := do writeEnums enums; writeTables [items, again]
    let questions : List Question := [.logical "catalog.items", .enumValue "KIND" "good"]
    ((writeTables [items, again]).run.run { storage := ({} : MemoryStorage) }).1 = .ok () ∧
    ∃ c', (do write; questions.forM Question.ask : CatalogM MemoryStorage Unit).run.run
        { storage := {} } = (.ok (), c') ∧
      ((resolveLogical "catalog.items").run.run c').1 = .ok (some { items with index := some 5 }) ∧
      ((resolvePhysical "_REFERENCE5").run.run c').1 = .ok (some { items with index := some 5 }) ∧
      ((resolvePhysical "_Reference").run.run c').1 = .ok none ∧
      ((resolveEnumValue "KIND" "good").run.run c').1 = .ok (some 2) := by
  intro items again enums write questions
  have haccepted : ((writeTables [items, again]).run.run
      { storage := ({} : MemoryStorage) }).1 = .ok () := by decide +kernel
  obtain ⟨c', hrun, hlogical, hphysical, hvalue⟩ := resolve_of_writes
    (.enumsFirst : Writes [items, again] enums write) rfl rfl rfl haccepted questions
  refine ⟨haccepted, c', hrun, ?_, ?_, ?_, ?_⟩
  · rw [hlogical]
    decide +kernel
  · rw [hphysical]
    decide +kernel
  · rw [hphysical]
    decide +kernel
  · rw [hvalue]
    decide +kernel

end Catalog

end LogicalSql
