import LogicalSql.Query.Print
import LogicalSql.Query.Walk

/-! A walk that keeps a record of the calls it meets. -/
namespace LogicalSql

/-- A call with its walked arguments, and the source that its first argument belongs to. -/
structure Visit where
  function : LogicalFunction
  args : List Expr
  source : Option Source

/-- What a recorded walk does with the calls. -/
structure VisitRule where
  /-- Calls of this function are replaced by their first argument. -/
  unwrap : Option LogicalFunction := none
  /-- The first call of this function ends the walk. -/
  refuse : Option LogicalFunction := none

/-- The function whose call was refused. -/
abbrev Visiting := ExceptT LogicalFunction (StateM (List Visit))

def Visit.of (function : LogicalFunction) (args : List Expr) (scope : Scope) : Visit where
  function
  args
  source :=
    match args with
    | .column table _ :: _ => scope.find? table
    | _ => none

def VisitRule.hook (rule : VisitRule) : Hook Visiting := fun function args scope => do
  modify (· ++ [Visit.of function args scope])
  if rule.refuse = some function then throw function
  match args with
  | first :: _ => return (if rule.unwrap = some function then first else .call function args, scope)
  | [] => return (.call function args, scope)

/-- The calls in the order of the walk, with the walked query or the function refused. -/
def Query.trace (rule : VisitRule) (query : Query) : Except LogicalFunction Query × List Visit :=
  (query.walk rule.hook).run.run []

end LogicalSql
