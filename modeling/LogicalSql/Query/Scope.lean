import LogicalSql.Query.Basic

/-! The table sources that the expressions of one `SELECT` can name. -/
namespace LogicalSql

structure Scope where
  sources : List Source
  joined : List Source

namespace Scope

def all (scope : Scope) : List Source := scope.sources ++ scope.joined

def answersTo (qualifier : Option String) (source : Source) : Bool :=
  match qualifier with
  | none => true
  | some q => source.bindingName == some q

/-- The first source with the qualifier as its name. Without a qualifier there must be one source
in all. -/
def find? (scope : Scope) (qualifier : Option String) : Option Source :=
  match qualifier with
  | none =>
    match scope.all with
    | [source] => some source
    | _ => none
  | some _ => scope.all.find? (answersTo qualifier)

def replaceFirst (p : Source → Bool) (new : Source) : List Source → List Source
  | [] => []
  | s :: ss => if p s then new :: ss else s :: replaceFirst p new ss

/-- Puts `new` where `find?` found a source. -/
def replace (scope : Scope) (qualifier : Option String) (new : Source) : Scope :=
  if scope.sources.any (answersTo qualifier) then
    { scope with sources := replaceFirst (answersTo qualifier) new scope.sources }
  else { scope with joined := replaceFirst (answersTo qualifier) new scope.joined }

end Scope

end LogicalSql
