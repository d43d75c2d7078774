import LogicalSql.Proofs.Mapping.PropertyText

/-! Which properties may be stored, told by their fields alone. Only the two ends of a line lose
their blanks, so blanks matter at the start of the name and at the end of the last field. -/
namespace LogicalSql

namespace Text

def StartsBlank (s : String) : Prop := ∃ c ∈ s.toList.head?, isBlank c = true

def EndsBlank (s : String) : Prop := ∃ c ∈ s.toList.getLast?, isBlank c = true

end Text

namespace PropertyLayout

/-- The names that a layout holds, without its tag. -/
def names : PropertyLayout → List String
  | .single column target => column :: target.toList
  | .union referenceColumn typeColumn => [referenceColumn, typeColumn]

/-- No name is empty, and the text does not end with a blank. Without a target it ends with a
bar. -/
def Closed : PropertyLayout → Prop
  | .single column target => column ≠ "" ∧ ∀ t, target = some t → t ≠ "" ∧ ¬Text.EndsBlank t
  | .union referenceColumn typeColumn =>
    referenceColumn ≠ "" ∧ typeColumn ≠ "" ∧ ¬Text.EndsBlank typeColumn

def tag : PropertyLayout → String
  | .single _ _ => "single"
  | .union _ _ => "union"

def first : PropertyLayout → String
  | .single column _ => column
  | .union referenceColumn _ => referenceColumn

def second : PropertyLayout → String
  | .single _ target => target.getD ""
  | .union _ typeColumn => typeColumn

theorem fields_eq (layout : PropertyLayout) :
    layout.fields = [layout.tag, layout.first, layout.second] := by
  cases layout <;> rfl

/-- The fields of a layout stand for it, and the last of them does not end with a blank, just when
it is closed. -/
theorem closed_iff (layout : PropertyLayout) :
    layout.Closed ↔ ofFields? layout.tag layout.first layout.second = some layout ∧
      ¬Text.EndsBlank layout.second := by
  have hempty : ¬Text.EndsBlank "" := by simp [Text.EndsBlank]
  cases layout with
  | single column target =>
    cases target with
    | none => simp [Closed, ofFields?, tag, first, second, hempty]
    | some t => simp [Closed, ofFields?, tag, first, second, and_assoc]
  | union referenceColumn typeColumn =>
    simp [Closed, ofFields?, tag, first, second, and_assoc]

end PropertyLayout

namespace PropertyMapping

variable (p : PropertyMapping)

def fields : List String := p.name :: p.layout.fields

theorem toList_text_eq_intercalate :
    p.text.toList = ['|'].intercalate (p.fields.map String.toList) := by
  rw [text, String.toList_intercalate]
  rfl

/-- The text between its ends. -/
theorem toList_text : p.text.toList = p.name.toList ++
    ('|' :: p.layout.tag.toList ++ '|' :: p.layout.first.toList ++
      '|' :: p.layout.second.toList) := by
  rw [toList_text_eq_intercalate, fields, p.layout.fields_eq]
  simp [List.intercalate]

theorem splitOn_text_iff :
    Text.splitOn '|' p.text.toList = p.fields.map String.toList ↔
      ∀ field ∈ p.fields, '|' ∉ field.toList := by
  rw [toList_text_eq_intercalate, Text.splitOn_intercalate_iff (by simp [fields])]
  simp

theorem isTrimmed_text_iff (hname : p.name ≠ "") :
    Text.IsTrimmed p.text.toList ↔ ¬Text.StartsBlank p.name ∧ ¬Text.EndsBlank p.layout.second := by
  have hhead : p.text.toList.head? = p.name.toList.head? := by
    rw [toList_text]
    exact List.head?_append_of_ne_nil _ (by simpa using hname)
  have hlast : p.text.toList.getLast? = ('|' :: p.layout.second.toList).getLast? := by
    rw [toList_text, ← List.append_assoc]
    exact List.getLast?_append_of_ne_nil _ (List.cons_ne_nil _ _)
  have hbar : Text.isBlank '|' = false := by decide
  rw [Text.IsTrimmed, hhead, hlast, Text.StartsBlank, Text.EndsBlank]
  cases hsecond : p.layout.second.toList with
  | nil => simp [hbar]
  | cons c cs => simp

/-- A property reads back from its text just when the text has no blanks around it, no field holds
a bar, and the fields stand for the property. -/
theorem parse?_text_iff :
    parse? p.text = some p ↔ Text.IsTrimmed p.text.toList ∧
      (∀ field ∈ p.fields, '|' ∉ field.toList) ∧ p.name ≠ "" ∧
      PropertyLayout.ofFields? p.layout.tag p.layout.first p.layout.second = some p.layout := by
  constructor
  · intro h
    obtain ⟨tag, first, second, hpieces, hname, hlayout⟩ := pieces_of_parse? h
    have htrim : Text.trim p.text = p.text := (text_of_parse? h).symm
    have hfields := PropertyLayout.fields_of_ofFields? hlayout
    have hsplit : Text.splitOn '|' p.text.toList = p.fields.map String.toList := by
      rw [htrim] at hpieces
      rw [hpieces, fields, hfields]
    rw [p.layout.fields_eq] at hfields
    cases hfields
    refine ⟨?_, p.splitOn_text_iff.1 hsplit, hname, hlayout⟩
    rw [← htrim]
    exact Text.isTrimmed_trim p.text
  · rintro ⟨htrimmed, hbars, hname, hlayout⟩
    have hsplit := (p.splitOn_text_iff).2 hbars
    have hfields : (p.fields.map String.toList).map String.ofList =
        [p.name, p.layout.tag, p.layout.first, p.layout.second] := by
      simp [fields, p.layout.fields_eq]
    rw [parse?, Text.trim_eq_self htrimmed, hsplit, hfields]
    simp [hname, hlayout]

theorem forall_mem_text_iff {q : Char → Prop} (hbar : q '|') :
    (∀ c ∈ p.text.toList, q c) ↔ ∀ field ∈ p.fields, ∀ c ∈ field.toList, q c := by
  rw [toList_text, fields, p.layout.fields_eq]
  simp only [List.forall_mem_append, List.forall_mem_cons]
  simp [hbar, and_assoc]

/-- What holds of the letters of the tags holds of all fields if it holds of the names. -/
theorem forall_mem_fields_iff {q : Char → Prop} (hsingle : ∀ c ∈ "single".toList, q c)
    (hunion : ∀ c ∈ "union".toList, q c) :
    (∀ field ∈ p.fields, ∀ c ∈ field.toList, q c) ↔
      ∀ s ∈ p.name :: p.layout.names, ∀ c ∈ s.toList, q c := by
  rw [fields, List.forall_mem_cons, List.forall_mem_cons]
  refine and_congr_right fun _ => ?_
  cases p.layout with
  | single column target =>
    rw [PropertyLayout.fields, PropertyLayout.names, List.forall_mem_cons, and_iff_right hsingle]
    cases target <;> simp
  | union referenceColumn typeColumn =>
    rw [PropertyLayout.fields, PropertyLayout.names, List.forall_mem_cons, and_iff_right hunion]

/-- A property may be stored just when none of its names holds a bar or the end of a line, its own
name is not empty and does not start with a blank, and its layout is closed. -/
theorem isStorable_iff :
    p.isStorable = true ↔
      (∀ s ∈ p.name :: p.layout.names, ∀ c ∈ s.toList, c ≠ '|' ∧ c ≠ '\r' ∧ c ≠ '\n') ∧
      p.name ≠ "" ∧ ¬Text.StartsBlank p.name ∧ p.layout.Closed := by
  have hline := p.forall_mem_text_iff (q := fun c => c ≠ '\r' ∧ c ≠ '\n') (by decide)
  have hnames := p.forall_mem_fields_iff (q := fun c => c ≠ '|' ∧ c ≠ '\r' ∧ c ≠ '\n')
    (by simp) (by simp)
  have hstorable : p.isStorable = true ↔
      (∀ c ∈ p.text.toList, c ≠ '\r' ∧ c ≠ '\n') ∧ parse? p.text = some p := by
    simp [isStorable]
  rw [hstorable, hline, ← hnames, p.layout.closed_iff, parse?_text_iff]
  simp only [← List.forall_mem_ne', ← ne_eq, forall_and]
  constructor
  · rintro ⟨hends, htrimmed, hbars, hname, hlayout⟩
    obtain ⟨hstart, hend⟩ := (p.isTrimmed_text_iff hname).1 htrimmed
    exact ⟨⟨hbars, hends⟩, hname, hstart, hlayout, hend⟩
  · rintro ⟨⟨hbars, hends⟩, hname, hstart, hlayout, hend⟩
    exact ⟨hends, (p.isTrimmed_text_iff hname).2 ⟨hstart, hend⟩, hbars, hname, hlayout⟩

end PropertyMapping

end LogicalSql
