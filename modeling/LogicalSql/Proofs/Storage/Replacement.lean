import LogicalSql.Proofs.Outcome
import LogicalSql.Storage.Server

/-! The replacement of a table on a server that may refuse any statement. Whatever it refuses, the
table is committed only after everything else was granted, and otherwise rolled back. -/
namespace LogicalSql

namespace Message

def begin : Message := .simple "START TRANSACTION"

def commit : Message := .simple "COMMIT"

def rollback : Message := .simple "ROLLBACK"

/-- The statement that a message is about. -/
def sql : Message → String
  | .simple sql | .copy sql _ | .copyAborted sql | .execute sql _ | .refused sql => sql

/-- A statement that was not granted, and what the server was sent of it. -/
inductive Failed : Message → Message → Prop
  | simple (sql : String) : Failed (.simple sql) (.simple sql)
  | copy (sql : String) (rows : List Row) : Failed (.copy sql rows) (.refused sql)
  | cancelled (sql : String) (rows : List Row) : Failed (.copy sql rows) (.copyAborted sql)
  | execute (sql : String) (parameters : List Value) :
      Failed (.execute sql parameters) (.refused sql)

theorem Failed.sql_eq {m logged : Message} (h : m.Failed logged) : logged.sql = m.sql := by
  cases h <;> rfl

theorem Failed.ne_commit {m logged : Message} (h : m.Failed logged) (hm : m ≠ commit) :
    logged ≠ commit := by
  cases h with
  | simple sql => exact hm
  | copy | cancelled | execute => simp [commit]

end Message

/-- The statements of a replacement up to the commit. -/
def TableDesc.replacement (desc : TableDesc) (rows : List Row) : List Message :=
  .begin :: .simple desc.replaceTableSql :: .copy desc.copySql rows ::
    desc.createIndexSqls.map (.execute · [])

namespace Server

/-- The statement succeeds behind what the server was sent before. Of a copy every row has to fit
the columns, and the server has to take it up to its end. -/
def Grants (script : Script) (desc : TableDesc) (log : List Message) : Message → Prop
  | .copy sql rows => script.refuses log sql = false ∧ (∀ row ∈ rows, fitsRow desc row = true) ∧
      ∀ k ≤ rows.length, script.drops log (rows.take k) = false
  | .simple sql | .execute sql _ | .copyAborted sql | .refused sql => script.refuses log sql = false

/-- How statements go one after another: each is granted, up to the first that is not. -/
inductive Course (script : Script) (desc : TableDesc) :
    List Message → List Message → Except StorageError Unit → List Message → Prop
  | done (log : List Message) : Course script desc log [] (.ok ()) []
  | granted {log rest sent : List Message} {m : Message} {r : Except StorageError Unit}
      (h : Grants script desc log m) (hrest : Course script desc (log ++ [m]) rest r sent) :
      Course script desc log (m :: rest) r (m :: sent)
  | failed {log : List Message} (rest : List Message) {m logged : Message}
      (h : ¬Grants script desc log m) (hlogged : m.Failed logged) :
      Course script desc log (m :: rest) (.error .server) [logged]

/-- Whatever the server decides, the program sends these statements. -/
def Sends (desc : TableDesc) (p : StorageM Server Unit) (plan : List Message) : Prop :=
  ∀ s : Server, ∃ r sent, p.run.run s = (r, { s with log := s.log ++ sent }) ∧
    Course s.toScript desc s.log plan r sent

variable {desc : TableDesc}

theorem run_accepts (sql : String) (s : Server) :
    (accepts sql).run.run s = (.ok (!s.refuses s.log sql), s) := rfl

theorem run_send (message : Message) (s : Server) :
    (send message).run.run s = (.ok (), { s with log := s.log ++ [message] }) := rfl

theorem run_get (s : Server) : (get : StorageM Server Server).run.run s = (.ok s, s) := rfl

theorem run_simple (sql : String) (s : Server) :
    (simple sql).run.run s =
      (if s.refuses s.log sql then .error .server else .ok (),
        { s with log := s.log ++ [.simple sql] }) := by
  unfold simple
  simp only [run_bind, run_accepts, run_send]
  cases s.refuses s.log sql <;> rfl

theorem run_copy (desc : TableDesc) (rows : List Row) (s : Server) :
    (copy desc rows).run.run s =
      if s.refuses s.log desc.copySql then
        (.error .server, { s with log := s.log ++ [.refused desc.copySql] })
      else if s.takesRows desc [] rows then
        (.ok (), { s with log := s.log ++ [.copy desc.copySql rows] })
      else (.error .server, { s with log := s.log ++ [.copyAborted desc.copySql] }) := by
  unfold copy
  simp only [run_bind, run_accepts]
  cases s.refuses s.log desc.copySql with
  | true => rfl
  | false =>
    simp only [run_bind, run_get, Bool.not_false, if_true]
    cases s.takesRows desc [] rows <;> rfl

theorem run_execute (sql : String) (parameters : List Value) (s : Server) :
    (execute sql parameters).run.run s =
      if s.refuses s.log sql then
        (.error .server, { s with log := s.log ++ [.refused sql] })
      else (.ok (s.answers s.log sql), { s with log := s.log ++ [.execute sql parameters] }) := by
  unfold execute
  simp only [run_bind, run_get, run_accepts]
  cases s.refuses s.log sql <;> rfl

/-! Programs that send a plan. -/

theorem Course.append {script : Script} {log plan plan' sent sent' : List Message}
    {r r' : Except StorageError Unit} (h : Course script desc log plan r sent) (hr : r = .ok ())
    (h' : Course script desc (log ++ sent) plan' r' sent') :
    Course script desc log (plan ++ plan') r' (sent ++ sent') := by
  induction h with
  | done log => simpa using h'
  | granted hm hrest ih => exact .granted hm (ih hr (by simpa using h'))
  | failed => cases hr

theorem Course.append_of_error {script : Script} {log plan plan' sent : List Message}
    {r : Except StorageError Unit} {e : StorageError} (h : Course script desc log plan r sent)
    (hr : r = .error e) : Course script desc log (plan ++ plan') r sent := by
  induction h with
  | done => cases hr
  | granted hm hrest ih => exact .granted hm (ih hr)
  | failed rest hm hlogged => exact .failed _ hm hlogged

namespace Sends

variable {p q : StorageM Server Unit} {plan plan' : List Message}

theorem pure : Sends desc (Pure.pure ()) [] := by
  intro s
  refine ⟨.ok (), [], ?_, .done _⟩
  rw [List.append_nil]
  rfl

theorem bind (hp : Sends desc p plan) (hq : Sends desc q plan') :
    Sends desc (p >>= fun _ => q) (plan ++ plan') := by
  intro s
  obtain ⟨r, sent, hrun, hcourse⟩ := hp s
  rw [run_bind, hrun]
  cases hr : r with
  | error e => exact ⟨_, sent, rfl, hr ▸ hcourse.append_of_error hr⟩
  | ok =>
    obtain ⟨r', sent', hrun', hcourse'⟩ := hq { s with log := s.log ++ sent }
    refine ⟨r', sent ++ sent', ?_, hcourse.append hr hcourse'⟩
    rw [List.append_assoc] at hrun'
    exact hrun'

/-- A program that sends one statement. -/
theorem single {m : Message}
    (h : ∀ s : Server, Grants s.toScript desc s.log m →
      p.run.run s = (.ok (), { s with log := s.log ++ [m] }))
    (hnot : ∀ s : Server, ¬Grants s.toScript desc s.log m → ∃ logged, m.Failed logged ∧
      p.run.run s = (.error .server, { s with log := s.log ++ [logged] })) :
    Sends desc p [m] := by
  intro s
  by_cases hm : Grants s.toScript desc s.log m
  · exact ⟨_, [m], h s hm, .granted hm (.done _)⟩
  · obtain ⟨logged, hlogged, hrun⟩ := hnot s hm
    exact ⟨_, [logged], hrun, .failed [] hm hlogged⟩

theorem forM {α : Type} {f : α → StorageM Server PUnit} {message : α → Message}
    (hf : ∀ a, Sends desc (f a) [message a]) (as : List α) :
    Sends desc (as.forM f) (as.map message) := by
  induction as with
  | nil => exact .pure
  | cons a as ih => exact (hf a).bind ih

end Sends

theorem sends_simple (sql : String) : Sends desc (simple sql) [.simple sql] := by
  refine .single (fun s h => ?_) fun s h => ⟨_, .simple sql, ?_⟩
  · have haccepted : s.refuses s.log sql = false := h
    rw [run_simple, haccepted, if_neg Bool.false_ne_true]
  · have hrefused : s.refuses s.log sql = true := Bool.not_eq_false _ ▸ h
    rw [run_simple, if_pos hrefused]

theorem takesRows_iff (s : Server) (desc : TableDesc) (sent rows : List Row) :
    s.takesRows desc sent rows = true ↔ (∀ row ∈ rows, fitsRow desc row = true) ∧
      ∀ k ≤ rows.length, s.drops s.log (sent ++ rows.take k) = false := by
  induction rows generalizing sent with
  | nil => simp [takesRows]
  | cons row rows ih =>
    simp only [takesRows, Bool.and_eq_true, Bool.not_eq_true', ih, List.forall_mem_cons]
    constructor
    · rintro ⟨⟨hdrops, hrow⟩, hrows, hlater⟩
      refine ⟨⟨hrow, hrows⟩, fun k hk => ?_⟩
      cases k with
      | zero => simpa using hdrops
      | succ k => simpa using hlater k (by simpa using hk)
    · rintro ⟨⟨hrow, hrows⟩, hall⟩
      refine ⟨⟨by simpa using hall 0 (Nat.zero_le _), hrow⟩, hrows, fun k hk => ?_⟩
      simpa using hall (k + 1) (by simpa using hk)

theorem sends_copy (desc : TableDesc) (rows : List Row) :
    Sends desc (copy desc rows) [.copy desc.copySql rows] := by
  have htakes : ∀ s : Server, s.takesRows desc [] rows = true ↔
      (∀ row ∈ rows, fitsRow desc row = true) ∧
        ∀ k ≤ rows.length, s.drops s.log (rows.take k) = false := fun s =>
    takesRows_iff s desc [] rows
  refine .single (fun s h => ?_) fun s h => ?_
  · obtain ⟨haccepted, hrows⟩ := h
    rw [run_copy, haccepted, if_neg Bool.false_ne_true, if_pos ((htakes s).2 hrows)]
  · by_cases hrefused : s.refuses s.log desc.copySql = true
    · refine ⟨_, .copy _ rows, ?_⟩
      rw [run_copy, if_pos hrefused]
    · have hgiven : ¬s.takesRows desc [] rows = true := fun htaken =>
        h ⟨by simpa using hrefused, (htakes s).1 htaken⟩
      refine ⟨_, .cancelled _ rows, ?_⟩
      rw [run_copy, if_neg hrefused, if_neg hgiven]

theorem sends_execute (sql : String) :
    Sends desc (do let _ ← execute sql []) [.execute sql []] := by
  refine .single (fun s h => ?_) fun s h => ⟨_, .execute sql [], ?_⟩
  · have haccepted : s.refuses s.log sql = false := h
    rw [run_bind, run_execute, haccepted, if_neg Bool.false_ne_true]
    rfl
  · have hrefused : s.refuses s.log sql = true := Bool.not_eq_false _ ▸ h
    rw [run_bind, run_execute, if_pos hrefused]

theorem sends_replace (desc : TableDesc) (rows : List Row) :
    Sends desc (replace desc rows) (desc.replacement rows) :=
  (sends_simple _).bind ((sends_simple _).bind ((sends_copy desc rows).bind
    (.forM sends_execute _)))

/-! The whole of a replacement. -/

/-- Each statement was granted in its turn. -/
def AllGranted (script : Script) (desc : TableDesc) (log plan : List Message) : Prop :=
  ∀ before m after, plan = before ++ m :: after → Grants script desc (log ++ before) m

section Course

variable {script : Script} {log plan sent : List Message} {m : Message}
  {r : Except StorageError Unit}

theorem allGranted_nil : AllGranted script desc log [] := by
  intro before m after h
  simp at h

theorem AllGranted.cons (hm : Grants script desc log m)
    (h : AllGranted script desc (log ++ [m]) plan) : AllGranted script desc log (m :: plan) := by
  intro before m' after hplan
  cases before with
  | nil =>
    cases hplan
    rwa [List.append_nil]
  | cons b before =>
    cases hplan
    have hgrants := h before m' after rfl
    rwa [List.append_assoc] at hgrants

theorem Course.of_ok (h : Course script desc log plan r sent) (hr : r = .ok ()) :
    sent = plan ∧ AllGranted script desc log plan := by
  induction h with
  | done log => exact ⟨rfl, allGranted_nil⟩
  | granted hm hrest ih =>
    obtain ⟨rfl, hall⟩ := ih hr
    exact ⟨rfl, hall.cons hm⟩
  | failed => cases hr

theorem Course.of_error {e : StorageError} (h : Course script desc log plan r sent)
    (hr : r = .error e) : ∃ before m after logged, plan = before ++ m :: after ∧
      AllGranted script desc log before ∧ ¬Grants script desc (log ++ before) m ∧
      m.Failed logged ∧ sent = before ++ [logged] ∧ e = .server := by
  induction h with
  | done => cases hr
  | @granted log rest sent m r hm hrest ih =>
    obtain ⟨before, m', after, logged, rfl, hall, hnot, hlogged, rfl, he⟩ := ih hr
    rw [List.append_assoc] at hnot
    exact ⟨m :: before, m', after, logged, rfl, hall.cons hm, hnot, hlogged, rfl, he⟩
  | @failed log rest m logged hm hlogged =>
    cases hr
    exact ⟨[], m, rest, logged, rfl, allGranted_nil, by rwa [List.append_nil], hlogged, rfl, rfl⟩

end Course

section Recreate

variable {rows : List Row} {s t : Server} {e : StorageError}

theorem checkRows_eq_ok :
    desc.checkRows rows = .ok () ↔ ∀ row ∈ rows, row.length = desc.columns.length := by
  have hrow : ∀ row, desc.checkRow row = .ok () ↔ row.length = desc.columns.length := by
    intro row
    unfold TableDesc.checkRow
    split <;> simp_all
  rw [TableDesc.checkRows, forM_eq_ok]
  simp only [hrow]

theorem wrong_of_checkRows (h : desc.checkRows rows = .error e) :
    ∃ row ∈ rows, row.length ≠ desc.columns.length ∧
      e = .columnCount desc.qualifiedName desc.columns.length row.length := by
  obtain ⟨before, row, after, rfl, -, hrow⟩ := first_of_forM_eq_error h
  refine ⟨row, by simp, ?_⟩
  unfold TableDesc.checkRow at hrow
  split at hrow
  case isTrue => cases hrow
  case isFalse hlength => exact ⟨hlength, (Except.error.inj hrow).symm⟩

theorem run_checkRows (desc : TableDesc) (rows : List Row) (s : Server) :
    (liftM (desc.checkRows rows) : StorageM Server Unit).run.run s = (desc.checkRows rows, s) := rfl

theorem run_recreate_of_unchecked (h : desc.checkRows rows = .error e) :
    (recreate desc rows).run.run s = (.error e, s) := by
  unfold recreate
  rw [run_bind, run_checkRows, h]

theorem run_recreate_of_replaced (h : desc.checkRows rows = .ok ())
    (hreplace : (replace desc rows).run.run s = (.ok (), t)) :
    (recreate desc rows).run.run s = (simple "COMMIT").run.run t := by
  unfold recreate
  rw [run_bind, run_checkRows, h]
  simp only [run_bind, run_tryCatch_of_ok hreplace]

theorem run_recreate_of_failed (h : desc.checkRows rows = .ok ())
    (hreplace : (replace desc rows).run.run s = (.error e, t)) :
    (recreate desc rows).run.run s = (.error e, { t with log := t.log ++ [.rollback] }) := by
  unfold recreate
  rw [run_bind, run_checkRows, h]
  simp only [run_bind, run_tryCatch_of_error hreplace]
  rfl

end Recreate

/-- How a replacement ends, with what the server was sent. -/
inductive Ending (s : Server) (desc : TableDesc) (rows : List Row) :
    Except StorageError Unit → List Message → Prop
  | committed (h : AllGranted s.toScript desc s.log (desc.replacement rows))
      (hcommit : s.refuses (s.log ++ desc.replacement rows) "COMMIT" = false) :
      Ending s desc rows (.ok ()) (desc.replacement rows ++ [.commit])
  | uncommitted (h : AllGranted s.toScript desc s.log (desc.replacement rows))
      (hcommit : s.refuses (s.log ++ desc.replacement rows) "COMMIT" = true) :
      Ending s desc rows (.error .server) (desc.replacement rows ++ [.commit])
  | rolledBack {before after : List Message} {m logged : Message}
      (hplan : desc.replacement rows = before ++ m :: after)
      (h : AllGranted s.toScript desc s.log before)
      (hm : ¬Grants s.toScript desc (s.log ++ before) m) (hlogged : m.Failed logged) :
      Ending s desc rows (.error .server) (before ++ [logged, .rollback])

theorem ending_recreate {rows : List Row} (h : desc.checkRows rows = .ok ()) (s : Server) :
    ∃ r sent, (recreate desc rows).run.run s = (r, { s with log := s.log ++ sent }) ∧
      Ending s desc rows r sent := by
  obtain ⟨r, sent, hrun, hcourse⟩ := sends_replace desc rows s
  cases r with
  | error e =>
    obtain ⟨before, m, after, logged, hplan, hall, hm, hlogged, rfl, rfl⟩ := hcourse.of_error rfl
    refine ⟨_, before ++ [logged, .rollback], ?_, .rolledBack hplan hall hm hlogged⟩
    rw [run_recreate_of_failed h hrun]
    simp
  | ok =>
    obtain ⟨rfl, hall⟩ := hcourse.of_ok rfl
    have hlast := run_recreate_of_replaced h hrun
    rw [run_simple, List.append_assoc] at hlast
    cases hcommit : s.refuses (s.log ++ desc.replacement rows) "COMMIT" with
    | false =>
      rw [hcommit] at hlast
      exact ⟨_, _, hlast, .committed hall hcommit⟩
    | true =>
      rw [hcommit] at hlast
      exact ⟨_, _, hlast, .uncommitted hall hcommit⟩

theorem replaceTableSql_ne_commit (desc : TableDesc) : desc.replaceTableSql ≠ "COMMIT" := by
  have hstart : ∀ more : String, "create schema if not exists " ++ more ≠ "COMMIT" := by
    intro more h
    have hlist := congrArg String.toList h
    rw [String.toList_append] at hlist
    simp at hlist
  unfold TableDesc.replaceTableSql
  simp only [String.append_assoc]
  exact hstart _

theorem commit_not_mem_replacement (desc : TableDesc) (rows : List Row) :
    Message.commit ∉ desc.replacement rows := by
  simp [TableDesc.replacement, Message.commit, Message.begin, (replaceTableSql_ne_commit desc).symm]

namespace Ending

variable {rows : List Row} {s : Server} {r : Except StorageError Unit} {sent : List Message}

/-- The statements are those of the plan up to some point, with nothing behind them but the end of
the transaction. -/
theorem statements (h : Ending s desc rows r sent) : ∃ statements cancel,
    sent = statements ++ cancel ∧
    statements.map Message.sql <+: (desc.replacement rows ++ [Message.commit]).map Message.sql ∧
    (cancel = [] ∨ cancel = [.rollback]) := by
  cases h with
  | committed | uncommitted => exact ⟨_, [], (List.append_nil _).symm, List.prefix_refl _, .inl rfl⟩
  | @rolledBack before after m logged hplan _ _ hlogged =>
    refine ⟨before ++ [logged], [.rollback], by simp, ?_, .inr rfl⟩
    rw [hplan]
    simp [hlogged.sql_eq]

/-- The commit is sent behind all other statements. -/
theorem allGranted (h : Ending s desc rows r sent) (hcommit : Message.commit ∈ sent) :
    AllGranted s.toScript desc s.log (desc.replacement rows) := by
  cases h with
  | committed hall | uncommitted hall => exact hall
  | @rolledBack before after m logged hplan _ _ hlogged =>
    have hnot := commit_not_mem_replacement desc rows
    rw [hplan, List.mem_append, List.mem_cons, not_or, not_or] at hnot
    have hlogged := hlogged.ne_commit (Ne.symm hnot.2.1)
    have hrollback : Message.commit ≠ .rollback := by decide
    simp [hnot.1, hlogged.symm, hrollback] at hcommit

theorem ok_iff (h : Ending s desc rows r sent) :
    r = .ok () ↔ ∃ before, sent = before ++ [Message.commit] ∧
      s.refuses (s.log ++ before) "COMMIT" = false := by
  cases h with
  | committed _ hcommit => exact ⟨fun _ => ⟨_, rfl, hcommit⟩, fun _ => rfl⟩
  | uncommitted _ hcommit =>
    constructor
    · intro h
      cases h
    · rintro ⟨before, hbefore, haccepted⟩
      rw [List.append_cancel_right hbefore, haccepted] at hcommit
      cases hcommit
  | @rolledBack before after m logged =>
    constructor
    · intro h
      cases h
    · rintro ⟨before', hbefore, -⟩
      have hlast := congrArg List.getLast? hbefore
      simp [Message.commit, Message.rollback] at hlast

end Ending

/-- A replacement sends nothing where a row has the wrong number of values. Otherwise it sends the
statements of a transaction in their order, up to the first that the server does not grant, and the
commit only behind all others. It succeeds just when the commit does. -/
theorem recreate_transactional (desc : TableDesc) (rows : List Row) (s : Server) :
    let steps := desc.replacement rows
    let run := (recreate desc rows).run.run s
    ((∃ row ∈ rows, row.length ≠ desc.columns.length) →
      run.2 = s ∧ ∃ row ∈ rows, row.length ≠ desc.columns.length ∧
        run.1 = .error (.columnCount desc.qualifiedName desc.columns.length row.length)) ∧
    ((∀ row ∈ rows, row.length = desc.columns.length) →
      ∃ sent, run.2 = { s with log := s.log ++ sent } ∧ Ending s desc rows run.1 sent ∧
        (∃ statements cancel, sent = statements ++ cancel ∧
          statements.map Message.sql <+: (steps ++ [Message.commit]).map Message.sql ∧
          (cancel = [] ∨ cancel = [.rollback])) ∧
        (Message.commit ∈ sent → AllGranted s.toScript desc s.log steps) ∧
        (run.1 = .ok () ↔ ∃ before, sent = before ++ [Message.commit] ∧
          s.refuses (s.log ++ before) "COMMIT" = false)) := by
  intro steps run
  refine ⟨fun hwrong => ?_, fun hright => ?_⟩
  · cases hcheck : desc.checkRows rows with
    | ok =>
      obtain ⟨row, hrow, hlength⟩ := hwrong
      exact absurd (checkRows_eq_ok.1 hcheck row hrow) hlength
    | error e =>
      have hrun : run = (.error e, s) := run_recreate_of_unchecked hcheck
      obtain ⟨row, hrow, hlength, rfl⟩ := wrong_of_checkRows hcheck
      rw [hrun]
      exact ⟨rfl, row, hrow, hlength, rfl⟩
  · obtain ⟨r, sent, hrun, hending⟩ := ending_recreate (checkRows_eq_ok.2 hright) s
    have hrun : run = (r, { s with log := s.log ++ sent }) := hrun
    rw [hrun]
    exact ⟨sent, rfl, hending, hending.statements, hending.allGranted, hending.ok_iff⟩

/-- A server that refuses the second index is sent the rollback in the place of the commit. A row
without values is not sent at all. -/
theorem recreate_transactional_refused_index :
    let desc : TableDesc :=
      { schema := "mapping", name := "enums", columns := [⟨"name", .varchar 200⟩, ⟨"index", .int4⟩]
        indexes := ["name", "index"] }
    let rows : List Row := [[.text "Enum.Status", .integer 1], [.text "Enum.Status", .integer 2]]
    let s : Server := { refuses := fun _ sql => sql == desc.createIndexSql 1 "index" }
    let run := (recreate desc rows).run.run s
    (∀ row ∈ rows, row.length = desc.columns.length) ∧ run.1 = .error .server ∧
      run.2.log = [.begin, .simple desc.replaceTableSql, .copy desc.copySql rows,
        .execute (desc.createIndexSql 0 "name") [], .refused (desc.createIndexSql 1 "index"),
        .rollback] ∧
      Ending s desc rows (.error .server) run.2.log ∧
      ((recreate desc ([] :: rows)).run.run s).2 = s := by
  intro desc rows s run
  have hlength : ∀ row ∈ rows, row.length = desc.columns.length := by decide
  have herror : run.1 = .error .server := by decide +kernel
  have hwrong : ∃ row ∈ [] :: rows, row.length ≠ desc.columns.length :=
    ⟨[], List.mem_cons_self, by decide⟩
  obtain ⟨sent, hrun, hending, -⟩ := (recreate_transactional desc rows s).2 hlength
  have hlog : run.2.log = sent := by
    have hrun : run.2 = { s with log := [] ++ sent } := hrun
    rw [hrun, List.nil_append]
  have hending : Ending s desc rows run.1 sent := hending
  rw [← hlog, herror] at hending
  exact ⟨hlength, herror, by decide +kernel, hending,
    ((recreate_transactional desc ([] :: rows) s).1 hwrong).1⟩

end Server

end LogicalSql
