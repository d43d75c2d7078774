import LogicalSql.Surface.Reader.DataType

/-! What the parts of a statement may hold. -/
namespace LogicalSql.Surface

/-- Readers for the parts of a statement. The first three go one level of nesting further down. -/
structure Level where
  /-- An expression whose operators bind more strongly than the given strength. -/
  expr : Nat → Reader Expr
  query : Reader Query
  statement : Reader Statement
  /-- An expression before any operator. -/
  primary : Reader Expr
  tableItem : Reader TableItem

namespace Level

variable (L : Level)

/-- An expression with operators of any strength. -/
def anyExpr : Reader Expr := L.expr 0

def exprs : Reader (List Expr) := Reader.commaSeparated L.anyExpr

end Level

end LogicalSql.Surface
