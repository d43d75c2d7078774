import LogicalSql.Proofs.Query.Walk

/-! The first call that a hook refuses ends the walk. Up to that call, the walk goes as it would
with a hook that takes the call. -/
namespace LogicalSql

variable {ε σ α β : Type}

/-- A call as a hook gets it. -/
structure HookCall where
  function : LogicalFunction
  args : List Expr
  scope : Scope

/-- Steps that may fail, with the state of a hook and a record of its calls. -/
abbrev Logged (ε σ : Type) := ExceptT ε (StateM (σ × List HookCall))

namespace Logged

def note (c : HookCall) : Logged ε σ Unit := modify fun (st, calls) => (st, calls ++ [c])

/-- A step that knows nothing of the record. -/
def lift (x : ExceptT ε (StateM σ) α) : Logged ε σ α :=
  ExceptT.mk fun (st, calls) => let (r, st') := x.run.run st; (r, st', calls)

theorem run_note_bind (c : HookCall) (f : Unit → Logged ε σ α) (st : σ) (log : List HookCall) :
    (note c >>= f).run.run (st, log) = (f ()).run.run (st, log ++ [c]) := by
  rw [run_bind]
  rfl

end Logged

namespace Hook

variable (h : Hook (ExceptT ε (StateM σ)))

/-- Writes each call down before it is handled. -/
def recorded : Hook (Logged ε σ) := fun f args scope => do
  Logged.note ⟨f, args, scope⟩
  Logged.lift (h f args scope)

/-- Refuses the calls of one function. -/
def refusing (F : LogicalFunction) (refusal : HookCall → ε) : Hook (ExceptT ε (StateM σ)) :=
  fun f args scope => if f = F then throw (refusal ⟨f, args, scope⟩) else h f args scope

end Hook

/-- The ends of two runs that begin with one state and the record `log`. The second is the end of
the first, or the refusal of the first call of `F` that the first run came by. -/
inductive CutShort (F : LogicalFunction) (refusal : HookCall → ε) (log : List HookCall) :
    Except ε α × σ × List HookCall → Except ε α × σ × List HookCall → Prop
  | same (r : Except ε α) (st : σ) {calls : List HookCall} (hcalls : ∀ c ∈ calls, c.function ≠ F) :
    CutShort F refusal log (r, st, log ++ calls) (r, st, log ++ calls)
  | refused (r : Except ε α) (st st' : σ) (before : List HookCall) (c : HookCall)
      (after : List HookCall) (hbefore : ∀ b ∈ before, b.function ≠ F) (hc : c.function = F) :
    CutShort F refusal log (r, st, log ++ (before ++ c :: after))
      (.error (refusal c), st', log ++ (before ++ [c]))

namespace CutShort

variable {F : LogicalFunction} {refusal : HookCall → ε} {log : List HookCall}

/-- The first run only adds to the record. -/
theorem exists_eq_append {o o' : Except ε α × σ × List HookCall} (h : CutShort F refusal log o o') :
    ∃ r st calls, o = (r, st, log ++ calls) := by
  cases h with
  | same r st hcalls => exact ⟨r, st, _, rfl⟩
  | refused r st st' before c after hbefore hc => exact ⟨r, st, _, rfl⟩

/-- Calls that both runs came by earlier, none of them refused. -/
theorem append {calls : List HookCall} {o o' : Except ε α × σ × List HookCall}
    (hcalls : ∀ c ∈ calls, c.function ≠ F) (h : CutShort F refusal (log ++ calls) o o') :
    CutShort F refusal log o o' := by
  cases h with
  | same r st hcalls' =>
    rw [List.append_assoc]
    exact .same r st (List.forall_mem_append.2 ⟨hcalls, hcalls'⟩)
  | refused r st st' before c after hbefore hc =>
    rw [List.append_assoc, List.append_assoc, ← List.append_assoc calls,
      ← List.append_assoc calls]
    have hbefore := List.forall_mem_append.2 ⟨hcalls, hbefore⟩
    exact .refused r st st' (calls ++ before) c after hbefore hc

end CutShort

/-- Two steps of which the second refuses calls of `F`, with a condition on what the first
returns. -/
def cutShort (ν : Type) (F : LogicalFunction) (refusal : HookCall → ε) :
    StepLogic ν (Logged ε σ) (Logged ε σ) where
  Holds P x y := ∀ st log, CutShort F refusal log (x.run.run (st, log)) (y.run.run (st, log)) ∧
    ∀ a rest, x.run.run (st, log) = (.ok a, rest) → P [] a
  pure := by
    intro α P a ha st log
    have h : CutShort F refusal log (.ok a, st, log ++ []) (.ok a, st, log ++ []) :=
      .same _ st (List.forall_mem_nil _)
    rw [List.append_nil] at h
    refine ⟨h, ?_⟩
    intro b rest hb
    cases hb
    exact ha
  bind := by
    intro α β P Q x y f g hxy hfg st log
    obtain ⟨h, hx⟩ := hxy st log
    rw [run_bind, run_bind]
    generalize x.run.run (st, log) = o at h hx
    generalize y.run.run (st, log) = o' at h
    cases h with
    | same r st' hcalls =>
      cases r with
      | error e =>
        refine ⟨.same _ st' hcalls, ?_⟩
        intro b rest hb
        cases hb
      | ok a =>
        obtain ⟨hnext, hb⟩ := hfg [] a (hx a _ rfl) st' _
        exact ⟨hnext.append hcalls, hb⟩
    | refused r st' st'' before c after hbefore hc =>
      cases r with
      | error e =>
        refine ⟨.refused _ st' st'' before c after hbefore hc, ?_⟩
        intro b rest hb
        cases hb
      | ok a =>
        -- the first run goes on behind the call at which the second has ended
        obtain ⟨hnext, hb⟩ := hfg [] a (hx a _ rfl) st' (log ++ (before ++ c :: after))
        refine ⟨?_, hb⟩
        obtain ⟨r, t, calls, hend⟩ := hnext.exists_eq_append
        simp only [hend, List.append_assoc, List.cons_append]
        exact .refused r t st'' before c (after ++ calls) hbefore hc

theorem Hook.recorded_cutShort (ν : Type) (h : Hook (ExceptT ε (StateM σ))) (F : LogicalFunction)
    (refusal : HookCall → ε) (f : LogicalFunction) (args : List Expr) (s : Scope) :
    (cutShort ν F refusal).Holds (fun _ _ => True) (h.recorded f args s)
      ((h.refusing F refusal).recorded f args s) := by
  intro st log
  refine ⟨?_, fun _ _ _ => trivial⟩
  rw [recorded, recorded, Logged.run_note_bind, Logged.run_note_bind, refusing]
  by_cases hf : f = F
  · rw [if_pos hf]
    exact .refused _ _ st [] _ [] (List.forall_mem_nil _) hf
  · rw [if_neg hf]
    exact .same _ _ (List.forall_mem_singleton.2 hf)

/-- Where a walk comes by a call of `F`, the walk that refuses such calls ends with the refusal of
the first of them, and its record ends with that call. Else the two walks are the same. -/
theorem Query.walk_refusing (h : Hook (ExceptT ε (StateM σ))) (F : LogicalFunction)
    (refusal : HookCall → ε) (q : Query) (st : σ) :
    ∃ r st' calls, (q.walk h.recorded).run.run (st, []) = (r, st', calls) ∧
      ((∀ c ∈ calls, c.function ≠ F) ∧
        (q.walk (h.refusing F refusal).recorded).run.run (st, []) = (r, st', calls) ∨
      ∃ before c after st'', calls = before ++ c :: after ∧
        (∀ b ∈ before, b.function ≠ F) ∧ c.function = F ∧
        (q.walk (h.refusing F refusal).recorded).run.run (st, []) =
          (.error (refusal c), st'', before ++ [c])) := by
  have hcut := (walk_related _ (h.recorded_cutShort Unit F refusal) q st []).1
  generalize (q.walk h.recorded).run.run (st, []) = o at hcut
  generalize (q.walk (h.refusing F refusal).recorded).run.run (st, []) = o' at hcut
  cases hcut with
  | same r st' hcalls => exact ⟨r, st', _, rfl, .inl ⟨hcalls, rfl⟩⟩
  | refused r st' st'' before c after hbefore hc =>
    exact ⟨r, st', _, rfl, .inr ⟨before, c, after, st'', rfl, hbefore, hc, rfl⟩⟩

end LogicalSql
