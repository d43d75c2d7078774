import LogicalSql.Lowering.Call

/-! Passes over a query, run one after another. -/
namespace LogicalSql

structure Pass where
  name : String
  transform : Query → Except LoweringError Query

namespace Pass

def functions (mappings : MappingSource) : Pass where
  name := "query_functions"
  transform := Query.lower mappings

/-- The first pass that fails ends the run. -/
def runAll (passes : List Pass) (query : Query) : Except LoweringError Query :=
  passes.foldlM (fun query pass => pass.transform query) query

def defaults (mappings : MappingSource) : List Pass := [functions mappings]

end Pass

/-- The SQL text of a query with its logical functions replaced. -/
def Query.loweredSql (mappings : MappingSource) (query : Query) : Except LoweringError String :=
  return (← Pass.runAll (Pass.defaults mappings) query).sql

end LogicalSql
