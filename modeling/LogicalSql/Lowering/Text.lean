import LogicalSql.Lowering.Pipeline
import LogicalSql.Mapping.Catalog
import LogicalSql.Query.Parse

/-! Query texts lowered to SQL text. -/
namespace LogicalSql

/-- Reads a query and lowers it with a fixed set of mappings. -/
def MappingSet.lowerText (set : MappingSet) (text : String) : Except LoweringError String := do
  let query ← (Query.parse text).mapError LoweringError.parse
  query.loweredSql set.source

namespace Catalog

variable {σ : Type}

/-- The SQL text of a query, from the mappings remembered so far. -/
def lower (query : Query) : ExceptT LoweringError (StateM (Catalog σ)) String := do
  query.loweredSql (← get).source

/-- Reads a query, loads its mappings and lowers it. -/
def lowerText [Storage σ] (text : String) : ExceptT LoweringError (StateM (Catalog σ)) String := do
  let query ← (Query.parse text).mapError LoweringError.parse
  (warm query).adapt LoweringError.mapping
  lower query

end Catalog

end LogicalSql
