import LogicalSql.Storage.Table

/-! What is asked of a place that keeps tables. -/
namespace LogicalSql

/-- A step on a storage. A step that fails may have changed the storage. -/
abbrev StorageM (σ : Type) := ExceptT StorageError (StateM σ)

class Storage (σ : Type) where
  /-- Puts a table with these rows in the place of the one of that name. -/
  recreate : TableDesc → List Row → StorageM σ Unit
  /-- The rows that agree with all keys. -/
  select : TableDesc → List Key → StorageM σ (List Row)

end LogicalSql
