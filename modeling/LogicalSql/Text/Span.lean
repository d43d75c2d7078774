/-! Code points: sets of them, written as closed spans, and case pairs at a fixed distance, written as
runs. -/
namespace LogicalSql.Text

/-- Both ends of a span belong to it. -/
abbrev Span := Nat × Nat

def inSpans (spans : List Span) (c : Char) : Bool :=
  spans.any fun s => s.1 ≤ c.toNat && c.toNat ≤ s.2

/-- Every `step`-th code point from `first` to `last` maps to the one `shift` above it. -/
structure CaseRun where
  first : Nat
  last : Nat
  step : Nat
  shift : Int

def CaseRun.covers (r : CaseRun) (c : Nat) : Bool :=
  r.first ≤ c && c ≤ r.last && (c - r.first) % r.step == 0

def shiftBy (runs : List CaseRun) (c : Char) : Char :=
  match runs.find? (·.covers c.toNat) with
  | some r => Char.ofNat (c.toNat + r.shift).toNat
  | none => c

end LogicalSql.Text
