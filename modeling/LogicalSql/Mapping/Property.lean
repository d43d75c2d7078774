import LogicalSql.Text.Lines

/-! How a logical property is laid out in physical columns, and its one-line text. -/
namespace LogicalSql

inductive PropertyLayout where
  /-- One column. With a target it refers to that logical table always. -/
  | single (column : String) (target : Option String)
  /-- A reference whose target differs by row, as `typeColumn` says. -/
  | union (referenceColumn typeColumn : String)
  deriving DecidableEq, Repr

structure PropertyMapping where
  name : String
  layout : PropertyLayout
  deriving DecidableEq, Repr

namespace PropertyLayout

def ofFields? (tag first second : String) : Option PropertyLayout :=
  if first.isEmpty then none
  else if tag = "single" then some (.single first (if second.isEmpty then none else some second))
  else if tag = "union" ∧ ¬second.isEmpty then some (.union first second)
  else none

def fields : PropertyLayout → List String
  | .single column target => ["single", column, target.getD ""]
  | .union referenceColumn typeColumn => ["union", referenceColumn, typeColumn]

def target? : PropertyLayout → Option String
  | .single _ target => target
  | .union _ _ => none

end PropertyLayout

namespace PropertyMapping

/-- Four fields between bars. An empty last field means no target. -/
def text (p : PropertyMapping) : String := "|".intercalate (p.name :: p.layout.fields)

/-- Blanks around the text are dropped, those around inner bars are kept. -/
def parse? (text : String) : Option PropertyMapping :=
  match (Text.splitOn '|' (Text.trim text).toList).map String.ofList with
  | [name, tag, first, second] =>
    if name.isEmpty then none else (PropertyLayout.ofFields? tag first second).map (⟨name, ·⟩)
  | _ => none

/-- The text stays on one line and reads back as the same property. -/
def isStorable (p : PropertyMapping) : Bool :=
  p.text.toList.all (fun c => c != '\r' && c != '\n') && parse? p.text == some p

end PropertyMapping

end LogicalSql
