import LogicalSql.Json.Reader

/-! Records and variants in JSON text. -/
namespace LogicalSql.Json

variable {α β ρ : Type}

/-- A field of a record that is read into a draft. -/
structure FieldReader (ρ : Type) where
  name : String
  required : Bool
  isSet : ρ → Bool
  read : ρ → Reader ρ

structure RecordShape (ρ α : Type) where
  name : String
  fields : List (FieldReader ρ)
  draft : ρ
  finish : ρ → Except ShapeError α

def shaped : Except ShapeError α → Reader α
  | .ok a => return a
  | .error e => throw (.shape e)

def need (field : String) : Option α → Except ShapeError α
  | some a => .ok a
  | none => .error (.missing field)

/-- A repeated field is reported before its value is read. Unknown fields are passed over. -/
def readMember (fields : List (FieldReader ρ)) (name : String) (draft : ρ) : Reader ρ := do
  match fields.find? (·.name == name) with
  | some field =>
    if field.isSet draft then throw (.shape (.repeated name))
    else
      colon
      field.read draft
  | none =>
    colon
    skipValue
    return draft

/-- Fields in the order of their declaration. Only those that may be missing can be left out. -/
def readElements (expected : String) : List (FieldReader ρ) → Nat → ρ → Reader ρ
  | [], _, draft => return draft
  | field :: fields, i, draft => do
    if ← hasElement (i == 0) then
      let draft ← field.read draft
      readElements expected fields (i + 1) draft
    else if field.required then throw (.shape (.tooShort i expected))
    else readElements expected fields (i + 1) draft

def closeList : Reader Unit := do
  if (← peek) = ']' then advance else malformed

/-- A record is an object or a list of its fields. -/
def record (shape : RecordShape ρ α) : Reader α := do
  match ← peek with
  | '\x7b' =>
    advance
    shaped (shape.finish (← members (readMember shape.fields) shape.draft))
  | '[' =>
    advance
    let expected := shape.name ++ " with " ++ toString shape.fields.length ++ " elements"
    let draft ← readElements expected shape.fields 0 shape.draft
    closeList
    shaped (shape.finish draft)
  | _ => unexpected shape.name

/-- The variant with this name. -/
def variantNamed (variants : List β) (nameOf : β → String) (name : String) :
    Except ShapeError β :=
  match variants.find? (nameOf · == name) with
  | some v => .ok v
  | none => .error (.unknownVariant name (variants.map nameOf))

/-- A variant without content is its name, or an object with that name and `null`. -/
def variant (variants : List β) (nameOf : β → String) : Reader β := do
  match ← peek with
  | '"' => shaped (variantNamed variants nameOf (← string))
  | '\x7b' =>
    advance
    let v ← shaped (variantNamed variants nameOf (← stringAs "variant identifier"))
    colon
    if (← peek) ≠ 'n' then unexpected "unit"
    let _ ← scalar
    if (← peek) = '\x7d' then advance else malformed
    return v
  | _ => malformed

end LogicalSql.Json
