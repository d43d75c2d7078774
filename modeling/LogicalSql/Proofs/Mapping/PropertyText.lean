import LogicalSql.Mapping.Table
import LogicalSql.Proofs.Outcome
import LogicalSql.Proofs.Text.Lines
import Mathlib.Data.List.Forall2

/-! The text of a list of properties, one a line. Main statement: properties that may be stored are
read back from their text, and a text that is read is written again as its lines without the blanks
around them. -/
namespace LogicalSql

theorem PropertyLayout.fields_of_ofFields? {tag first second : String} {layout : PropertyLayout}
    (h : ofFields? tag first second = some layout) : layout.fields = [tag, first, second] := by
  unfold ofFields? at h
  split at h
  · cases h
  · split at h
    case isTrue htag =>
      cases h
      cases hsecond : second.isEmpty with
      | true => simp [fields, htag, String.isEmpty_iff.1 hsecond]
      | false => simp [fields, htag]
    case isFalse =>
      split at h
      case isTrue htag =>
        cases h
        rw [fields, htag.1]
      case isFalse => cases h

namespace PropertyMapping

variable {p : PropertyMapping} {text : String}

theorem pieces_of_parse? (h : parse? text = some p) : ∃ tag first second,
    Text.splitOn '|' (Text.trim text).toList = [p.name, tag, first, second].map String.toList ∧
      p.name ≠ "" ∧ PropertyLayout.ofFields? tag first second = some p.layout := by
  unfold parse? at h
  split at h
  case h_1 name tag first second hfields =>
    split at h
    case isTrue => cases h
    case isFalse hname =>
      obtain ⟨layout, hlayout, rfl⟩ := Option.map_eq_some_iff.1 h
      refine ⟨tag, first, second, ?_, by simpa using hname, hlayout⟩
      simp [← hfields, Function.comp_def]
  case h_2 => cases h

/-- A property is written as it was read, without the blanks around it. -/
theorem text_of_parse? (h : parse? text = some p) : p.text = Text.trim text := by
  obtain ⟨tag, first, second, hpieces, -, hlayout⟩ := pieces_of_parse? h
  rw [PropertyMapping.text, PropertyLayout.fields_of_ofFields? hlayout, ← String.toList_inj,
    String.toList_intercalate, ← hpieces, Text.splitOn_eq]
  exact List.intercalate_splitOn '|'

theorem parse?_trim (text : String) : parse? (Text.trim text) = parse? text := by
  rw [parse?, parse?, Text.trim_trim]

/-- The text stands on a line of its own and reads back as the property. -/
structure IsLine (p : PropertyMapping) : Prop where
  feed : '\n' ∉ p.text.toList
  parse : parse? p.text = some p

theorem isLine_of_isStorable (h : p.isStorable = true) : p.IsLine := by
  simp only [isStorable, Bool.and_eq_true, List.all_eq_true, bne_iff_ne, beq_iff_eq] at h
  exact ⟨fun hfeed => (h.1 _ hfeed).2 rfl, h.2⟩

/-- What was read from a line can be written on a line. -/
theorem isLine_of_parse? {line : String} (hline : '\n' ∉ line.toList) (h : parse? line = some p) :
    p.IsLine := by
  have htext := text_of_parse? h
  refine ⟨fun hfeed => hline ?_, ?_⟩
  · rw [htext] at hfeed
    exact Text.mem_of_mem_trim hfeed
  · rw [htext, parse?_trim, h]

theorem IsLine.isTrimmed (h : p.IsLine) : Text.IsTrimmed p.text.toList := by
  have htrim := Text.isTrimmed_trim p.text
  rwa [← text_of_parse? h.parse] at htrim

theorem IsLine.isBlankLine (h : p.IsLine) : isBlankLine p.text = false := by
  cases hblank : LogicalSql.isBlankLine p.text with
  | false => rfl
  | true =>
    have htrim : Text.trim p.text = "" := String.isEmpty_iff.1 hblank
    have hparse := h.parse
    rw [parse?, htrim] at hparse
    cases hparse

/-- A carriage return at the end would be blank. -/
theorem IsLine.getLast?_ne (h : p.IsLine) : p.text.toList.getLast? ≠ some '\r' := by
  intro hlast
  have hblank := h.isTrimmed.2 '\r' hlast
  revert hblank
  decide

theorem IsLine.toList_ne_nil (h : p.IsLine) : p.text.toList ≠ [] := by
  intro hnil
  have hempty : p.text = "" := String.toList_eq_nil_iff.1 hnil
  have hblank := h.isBlankLine
  rw [hempty] at hblank
  cases hblank

end PropertyMapping

variable {table text : String} {properties : List PropertyMapping}

theorem parseProperty_eq_ok {line : String} {p : PropertyMapping} :
    parseProperty table line = .ok p ↔ PropertyMapping.parse? line = some p := by
  unfold parseProperty
  split
  case h_1 q hq => rw [hq, Except.ok.injEq, Option.some.injEq]
  case h_2 hnone =>
    rw [hnone]
    exact ⟨nofun, nofun⟩

theorem mapM_parseProperty {lines : List String} :
    lines.mapM (parseProperty table) = .ok properties ↔
      List.Forall₂ (fun line p => PropertyMapping.parse? line = some p) lines properties := by
  induction lines generalizing properties with
  | nil => rw [List.mapM_nil, pure_eq_ok, List.forall₂_nil_left_iff]
  | cons line lines ih =>
    rw [List.mapM_cons, bind_eq_ok, List.forall₂_cons_left_iff]
    constructor
    · rintro ⟨p, hp, hrest⟩
      obtain ⟨ps, hps, hlast⟩ := bind_eq_ok.1 hrest
      exact ⟨p, ps, parseProperty_eq_ok.1 hp, ih.1 hps, pure_eq_ok.1 hlast⟩
    · rintro ⟨p, ps, hp, hps, rfl⟩
      exact ⟨p, parseProperty_eq_ok.2 hp, bind_eq_ok.2 ⟨ps, ih.2 hps, rfl⟩⟩

/-- Properties that have a line each are read back from their lines. -/
theorem parseProperties_propertiesText (table : String) (h : ∀ p ∈ properties, p.IsLine) :
    parseProperties table (propertiesText properties) = .ok properties := by
  have hlines : Text.lines (propertiesText properties) = properties.map PropertyMapping.text := by
    refine Text.lines_intercalate ?_ ?_ ?_ <;> intro s hs <;>
      obtain ⟨p, hp, rfl⟩ := List.mem_map.1 hs
    · exact (h p hp).getLast?_ne
    · exact (h p hp).feed
    · exact (h p hp).toList_ne_nil
  have hblank : (properties.map PropertyMapping.text).filter (!isBlankLine ·) =
      properties.map PropertyMapping.text := by
    refine List.filter_eq_self.2 fun s hs => ?_
    obtain ⟨p, hp, rfl⟩ := List.mem_map.1 hs
    rw [(h p hp).isBlankLine]
    rfl
  rw [parseProperties, hlines, hblank, mapM_parseProperty, List.forall₂_map_left_iff,
    List.forall₂_same]
  exact fun p hp => (h p hp).parse

theorem isLine_of_parseProperties (h : parseProperties table text = .ok properties) :
    ∀ p ∈ properties, p.IsLine := by
  refine Yields.mapM (fun line hline p hp => ?_) properties h
  have hfeed := Text.feed_not_mem_of_mem_lines (List.mem_filter.1 hline).1
  exact PropertyMapping.isLine_of_parse? hfeed (parseProperty_eq_ok.1 hp)

/-- A text that was read is written again line by line. -/
theorem propertiesText_of_parseProperties (h : parseProperties table text = .ok properties) :
    propertiesText properties = "\n".intercalate (Text.nonBlankLines text) := by
  have hlines := mapM_parseProperty.1 h
  have htexts : properties.map PropertyMapping.text =
      ((Text.lines text).filter (!isBlankLine ·)).map Text.trim := by
    rw [← List.forall₂_eq_eq_eq, List.forall₂_map_left_iff, List.forall₂_map_right_iff]
    exact hlines.flip.imp fun p line hparse => PropertyMapping.text_of_parse? hparse
  rw [propertiesText, htexts, ← Text.filter_trim_lines, List.filter_map]
  rfl

theorem TableMapping.checkProperties_eq_ok {t : TableMapping} :
    t.checkProperties = .ok () ↔ ∀ p ∈ t.properties, p.isStorable = true := by
  have hnone : t.properties.find? (!·.isStorable) = none ↔
      ∀ p ∈ t.properties, p.isStorable = true := by
    simp [List.find?_eq_none]
  rw [← hnone, checkProperties]
  cases t.properties.find? (!·.isStorable) <;> simp

theorem parseProperties_of_checkProperties (table : String) {t : TableMapping}
    (h : t.checkProperties = .ok ()) :
    parseProperties table (propertiesText t.properties) = .ok t.properties := by
  refine parseProperties_propertiesText table fun p hp => ?_
  exact PropertyMapping.isLine_of_isStorable (TableMapping.checkProperties_eq_ok.1 h p hp)

/-- The properties of a mapping that passes its check are read back from their text. What is read
from any text is written as the lines of the text that are not blank, without the blanks around
them, and is read again from there. -/
theorem properties_lossless (table : String) :
    (∀ t : TableMapping, t.checkProperties = .ok () →
      parseProperties table (propertiesText t.properties) = .ok t.properties) ∧
    ∀ (text : String) (properties : List PropertyMapping),
      parseProperties table text = .ok properties →
      propertiesText properties = "\n".intercalate (Text.nonBlankLines text) ∧
        parseProperties table (propertiesText properties) = .ok properties := by
  refine ⟨fun t => parseProperties_of_checkProperties table, fun text properties h => ?_⟩
  refine ⟨propertiesText_of_parseProperties h, ?_⟩
  exact parseProperties_propertiesText table (isLine_of_parseProperties h)

/-- Blank lines and blanks around a line are lost, those beside a bar are not. A carriage return is
blank at the end of a line, and part of a field inside it. -/
theorem properties_lossless_spaced :
    let orders : TableMapping :=
      { logicalName := "Document.Orders", physicalName := "_Document9", type := .document
        properties := [⟨"Item ", .single " _fld10" none⟩, ⟨"Owner", .union "_a" "_b"⟩] }
    let read : List PropertyMapping :=
      [⟨"Item ", .single " a\rb " (some "Catalog.Items")⟩, ⟨"Owner", .union "_a" "_b"⟩]
    let spaced := "\r\n\u3000Item |single| a\rb |Catalog.Items\t\r\n \n\nOwner|union|_a|_b"
    orders.checkProperties = .ok () ∧
      parseProperties "" (propertiesText orders.properties) = .ok orders.properties ∧
    parseProperties "" spaced = .ok read ∧
      Text.nonBlankLines spaced = ["Item |single| a\rb |Catalog.Items", "Owner|union|_a|_b"] ∧
      propertiesText read = "Item |single| a\rb |Catalog.Items\nOwner|union|_a|_b" ∧
      parseProperties "" (propertiesText read) = .ok read := by
  intro orders read spaced
  have horders : orders.checkProperties = .ok () := by decide +kernel
  have hread : parseProperties "" spaced = .ok read := by decide +kernel
  have hlines : Text.nonBlankLines spaced =
      ["Item |single| a\rb |Catalog.Items", "Owner|union|_a|_b"] := by decide +kernel
  obtain ⟨htext, hagain⟩ := (properties_lossless "").2 spaced read hread
  refine ⟨horders, (properties_lossless "").1 orders horders, hread, hlines, ?_, hagain⟩
  rw [htext, hlines]
  decide +kernel

end LogicalSql
