import LogicalSql.Lowering.Text
import LogicalSql.Proofs.Lowering.Kept

/-! The calls that lowering leaves: of the functions that SQL does not have, exactly the calls in
the arguments of table functions. -/
namespace LogicalSql

/-- Every call of the query, wherever it stands. -/
def Query.calls (q : Query) : List LogicalFunction := q.harvest .calls .calls

/-- The calls that stand in the arguments of table functions. -/
def Query.argumentCalls (q : Query) : List LogicalFunction := q.harvest {} .calls

theorem LogicalFunction.sqlName_mem {f : LogicalFunction} (h : f.isSql = true) :
    f.sqlName ∈ ["date_part", "date_trunc", "substring"] := by
  cases f <;> simp_all [isSql, sqlName]

namespace Query

/-- What is not printed as a call of an SQL function is left just where it stood in the arguments of
a table function. -/
theorem mem_calls_lowered {mappings : MappingSource} {q q' : Query}
    (h : Pass.runAll (Pass.defaults mappings) q = .ok q') {f : LogicalFunction}
    (hf : f.sqlName ∉ ["date_part", "date_trunc", "substring"]) :
    f ∈ q'.calls ↔ f ∈ q.argumentCalls := by
  rw [Pass.runAll_defaults] at h
  refine Query.mem_harvest_lower ?_ h
  intro g hg hfg
  cases List.mem_singleton.1 hfg
  exact hf (LogicalFunction.sqlName_mem hg)

/-- `SELECT YEAR(d) FROM generate_series(1, QUARTER(a)) AS g`: the year becomes a call of
`date_part`, the quarter stays. -/
theorem quarter_mem_calls_lowered :
    let series := Source.function "generate_series"
      [.integer 1, .call .quarter [.column none "a"]] (some "g")
    let select := fun field =>
      Query.select { projections := [.expr field none], sources := [series] }
    let q := select (.call .year [.column none "d"])
    let q' := select (.call .datePart [.string "year", .column none "d"])
    Pass.runAll (Pass.defaults MappingSet.empty.source) q = .ok q' ∧
      LogicalFunction.quarter ∈ q'.calls ∧ LogicalFunction.year ∉ q'.calls := by
  intro series select q q'
  have h : Pass.runAll (Pass.defaults MappingSet.empty.source) q = .ok q' := rfl
  refine ⟨h, (mem_calls_lowered h ?_).2 ?_, fun hyear => ?_⟩
  · decide
  · decide
  · exact absurd ((mem_calls_lowered h (by decide)).1 hyear) (by decide)

/-- A call in the argument of a table function is left there, and so printed. -/
theorem year_left_in_argument :
    (do
      let q ← (parse "SELECT g FROM generate_series(1, YEAR(a)) g").toOption
      let q' ← (Pass.runAll (Pass.defaults MappingSet.empty.source) q).toOption
      return (q'.calls, q'.sql)) =
    some ([LogicalFunction.year], "SELECT g FROM generate_series(1, YEAR(a)) AS g") := by
  decide +kernel

end Query

end LogicalSql
