import LogicalSql.Storage.Backend

/-! Tables kept in memory. -/
namespace LogicalSql

structure MemoryStorage where
  /-- The rows of each table by its qualified name, the one written last first. -/
  tables : List (String × List Row) := []
  /-- How many look-ups there were. -/
  selects : Nat := 0
  deriving DecidableEq, Repr

namespace MemoryStorage

/-- A table that was never written has no rows. -/
def rows (m : MemoryStorage) (desc : TableDesc) : List Row :=
  (m.tables.lookup desc.qualifiedName).getD []

def rowCount (m : MemoryStorage) (desc : TableDesc) : Nat := (m.rows desc).length

def recreate (desc : TableDesc) (rows : List Row) : StorageM MemoryStorage Unit := do
  desc.checkRows rows
  modify fun m => { m with
    tables := (desc.qualifiedName, rows) :: m.tables.filter (·.1 != desc.qualifiedName) }

/-- The value at the position of each key agrees with it. -/
def matchesKeys (positions : List (Nat × Value)) (row : Row) : Bool :=
  positions.all fun (i, value) => (row[i]?.map (·.agrees value)).getD false

/-- A look-up counts even when it asks for a column that is not there. -/
def select (desc : TableDesc) (keys : List Key) : StorageM MemoryStorage (List Row) := do
  modify fun m => { m with selects := m.selects + 1 }
  let positions ← keys.mapM fun (column, value) => return (← desc.columnIndex column, value)
  return ((← get).rows desc).filter (matchesKeys positions)

instance : Storage MemoryStorage := ⟨recreate, select⟩

end MemoryStorage

end LogicalSql
