import LogicalSql.Proofs.Surface.Cut
import LogicalSql.Proofs.Surface.Words

/-! Types as they are shown, with the tokens of their texts. -/
namespace LogicalSql.Surface

open Token (commas)
open Reader (sizeTokens Bracketed TypeEnds)

/-! Tokens. -/

/-- The words of a text, with a blank between each two. -/
def wordsOf (text : String) : List String := (text.toList.splitOn ' ').map String.ofList

def wordTokens (text : String) : List Token := (wordsOf text).map .keyword

def naturalToken (n : Nat) : Token := .number (toString n) false

/-- A number in parentheses, if there is one. -/
def lengthTokens : Option Nat → List Token
  | none => []
  | some n => [.symbol "(", naturalToken n, .symbol ")"]

def CharacterLength.tokens : CharacterLength → List Token
  | .max => [.keyword "MAX"]
  | .count n unit => naturalToken n :: (unit.map Token.keyword).toList

/-- The length of a type of characters. -/
def charactersTokens : Option CharacterLength → List Token
  | none => []
  | some length => .symbol "(" :: (length.tokens ++ [.symbol ")"])

/-- The number of digits, and of those behind the point. -/
def placesTokens : Option (Nat × Option Nat) → List Token
  | none => []
  | some (precision, none) => [.symbol "(", naturalToken precision, .symbol ")"]
  | some (precision, some scale) =>
    [.symbol "(", naturalToken precision, .symbol ",", naturalToken scale, .symbol ")"]

/-- A modifier of a type is a word or a number. -/
def modifierToken (text : String) : Token :=
  if isWord text then .word text none else .number text false

/-- A member of an enumeration, with the sign and the digits of its number. -/
def EnumMember.tokens (m : EnumMember) : List Token :=
  match m.value with
  | some (sign, .number digits long) =>
    .string m.name :: .symbol "=" ::
      ((sign.map fun op => .symbol op.sql).toList ++ [.number digits long])
  | _ => [.string m.name]

/-- The word of an enumeration, with the number of bits behind it. -/
def enumWord (bits : Option Nat) : String := "ENUM" ++ (bits.map toString).getD ""

def DataType.tokens : DataType → List Token
  | .plain shown _ => wordTokens shown
  | .sized shown _ size => wordTokens shown ++ lengthTokens size
  | .unsigned shown _ size => wordTokens shown ++ lengthTokens size ++ [.keyword "UNSIGNED"]
  | .characters shown _ length => wordTokens shown ++ charactersTokens length
  | .exact shown _ places => wordTokens shown ++ placesTokens places
  | .time shown _ precision zone =>
    match zone with
    | .unsaid => wordTokens shown ++ lengthTokens precision
    | .aware => wordTokens shown ++ lengthTokens precision ++ wordTokens "WITH TIME ZONE"
    | .unaware => wordTokens shown ++ lengthTokens precision ++ wordTokens "WITHOUT TIME ZONE"
    | .short => wordTokens (shown ++ "TZ") ++ lengthTokens precision
  | .zonedTime precision none =>
    .keyword "DateTime64" :: .symbol "(" :: ([naturalToken precision] ++ [.symbol ")"])
  | .zonedTime precision (some zone) =>
    .keyword "DateTime64" :: .symbol "(" ::
      ([naturalToken precision, .symbol ",", .string zone] ++ [.symbol ")"])
  | .fixedString length =>
    .keyword "FixedString" :: .symbol "(" :: ([naturalToken length] ++ [.symbol ")"])
  | .custom name [] => pointed name
  | .custom name modifiers =>
    pointed name ++
      .symbol "(" :: (commas (modifiers.map fun m => [modifierToken m]) ++ [.symbol ")"])
  | .array element size =>
    element.tokens ++ .symbol "[" :: ((size.map naturalToken).toList ++ [.symbol "]"])
  | .enumeration members bits =>
    .keyword (enumWord bits) :: .symbol "(" ::
      (commas (members.map EnumMember.tokens) ++ [.symbol ")"])
  | .set values =>
    .keyword "SET" :: .symbol "(" :: (commas (values.map fun v => [.string v]) ++ [.symbol ")"])
  | .angleArray element =>
    .keyword "ARRAY" :: .symbol "<" :: (element.tokens ++ [.symbol ">"])

/-! Types whose text says all of them. -/

def plainShown : List String := Reader.plainTypes.map (·.2.1) ++ ["DOUBLE", "DOUBLE PRECISION"]

def integerShown : List String := Reader.integerTypes.map (·.1)

def sizedShown : List String :=
  Reader.lengthTypes.map (·.1) ++ integerShown ++
    ["BIT", "BIT VARYING", "CHAR LARGE OBJECT", "CHARACTER LARGE OBJECT"]

def charactersShown : List String :=
  ["VARCHAR", "NVARCHAR", "CHAR", "CHARACTER", "CHAR VARYING", "CHARACTER VARYING"]

def numericShown : List String := Reader.numericTypes.map (·.1)

def timeShown : List String := ["TIMESTAMP", "TIME"]

/-- A number that is read as a length. -/
def isLength (n : Nat) : Bool := n < UInt64.size

def CharacterLength.legible : CharacterLength → Bool
  | .max => true
  | .count n unit => isLength n && unit.all ["CHARACTERS", "OCTETS"].contains

/-- A string that is shown with its quotes doubled. -/
def isShownString (text : String) : Bool := showQuoted '\'' text == Text.quoted '\'' text

def EnumMember.legible (m : EnumMember) : Bool :=
  isShownString m.name &&
    match m.value with
    | none => true
    | some (sign, .number digits long) => sign != some .not && isNumber digits && !long
    | some _ => false

def DataType.isAngle : DataType → Bool
  | .angleArray _ => true
  | _ => false

/-- Two angle brackets that close together are one token, so an array in angle brackets is no
element of another. -/
def DataType.legible : DataType → Bool
  | .plain shown _ => plainShown.contains shown
  | .sized shown _ size => sizedShown.contains shown && size.all isLength
  | .unsigned shown _ size => integerShown.contains shown && size.all isLength
  | .characters shown _ length =>
    charactersShown.contains shown && length.all CharacterLength.legible
  | .exact shown _ places =>
    numericShown.contains shown && places.all fun (precision, scale) =>
      isLength precision && scale.all isLength
  | .time shown _ precision _ => timeShown.contains shown && precision.all isLength
  | .zonedTime precision zone => isLength precision && zone.all fun z => !z.toList.contains '\''
  | .fixedString length => isLength length
  | .custom [] _ => false
  | .custom (i :: is) modifiers =>
    (i :: is).all Ident.legible && i.quote != some '\'' && !i.spells typeWords &&
      modifiers.all fun m => isWord m || isNumber m
  | .array element size => element.legible && size.all isLength
  | .enumeration members bits =>
    !members.isEmpty && members.all EnumMember.legible && [none, some 8, some 16].contains bits
  | .set values => !values.isEmpty && values.all isShownString
  | .angleArray element => element.legible && !element.isAngle

/-- The type that a text is read as. -/
def typeOf? (text : String) : Option DataType := do
  let (type, _) ← (Reader.dataType (← tokenize text.toList)).toOption
  return type

/-- A type that is shown as this text. -/
def isTypeText (text : String) : Bool :=
  (typeOf? text).any fun type => type.legible && type.show == text

def typeTokens (text : String) : List Token := ((typeOf? text).map DataType.tokens).getD []

theorem exists_of_isTypeText {text : String} (h : isTypeText text = true) :
    ∃ type : DataType, type.legible = true ∧ type.show = text ∧ typeTokens text = type.tokens := by
  rw [isTypeText] at h
  rw [typeTokens]
  cases htype : typeOf? text with
  | none =>
    rw [htype] at h
    cases h
  | some type =>
    rw [htype, Option.any_some, Bool.and_eq_true, beq_iff_eq] at h
    exact ⟨type, h.1, h.2, rfl⟩

/-! The text of a type is cut into its tokens. -/

section Cut

variable {shown : String} {size : Option Nat} {cs : List Char} {ks : List Token}

/-- The texts of types in front of their arguments. -/
def shownTexts : List (List String) :=
  [plainShown, sizedShown, integerShown, charactersShown, numericShown, timeShown,
    timeShown.map (· ++ "TZ")]

theorem isWord_of_shown : ∀ texts ∈ shownTexts, ∀ shown ∈ texts,
    (wordsOf shown).all isWord = true := by
  decide +kernel

theorem opensOperand_of_shown : ∀ texts ∈ shownTexts, ∀ shown ∈ texts,
    opensOperand shown.toList = true := by
  decide +kernel

theorem cutsTo_intercalate {part : List Char} {parts : List (List Char)}
    (h : ∀ p ∈ part :: parts, isWord (String.ofList p) = true) :
    CutsTo endsWord ([' '].intercalate (part :: parts))
      ((part :: parts).map fun p => .keyword (String.ofList p)) := by
  induction parts generalizing part with
  | nil => simpa using CutsTo.word (h part List.mem_cons_self)
  | cons next parts ih =>
    rw [List.forall_mem_cons] at h
    have hhead : CutsTo endsPiece part [.keyword (String.ofList part)] := by
      simpa using (CutsTo.word h.1).piece
    simpa using hhead.spaced (ih h.2)

theorem cutsTo_words (h : (wordsOf shown).all isWord = true) :
    CutsTo endsWord shown.toList (wordTokens shown) := by
  have hsplit : [' '].intercalate (shown.toList.splitOn ' ') = shown.toList :=
    List.intercalate_splitOn ' '
  rw [wordsOf, List.all_map, List.all_eq_true] at h
  rw [wordTokens, wordsOf, List.map_map]
  cases hparts : shown.toList.splitOn ' ' with
  | nil => exact absurd hparts (List.splitOn_ne_nil ' ' shown.toList)
  | cons part parts =>
    rw [hparts] at h hsplit
    have hcut := cutsTo_intercalate h
    rwa [hsplit] at hcut

theorem cutsTo_natural (n : Nat) : CutsTo endsPiece (toString n).toList [naturalToken n] :=
  .number (isNumber_toString n)

theorem cutsTo_length (h : CutsTo endsWord cs ks) (size : Option Nat) :
    CutsTo endsWord (cs ++ (showSize size).toList) (ks ++ lengthTokens size) := by
  cases size with
  | none => simpa [showSize, lengthTokens] using h
  | some n => simpa [showSize, lengthTokens] using h.arguments (cutsTo_natural n)

theorem CharacterLength.cutsTo {length : CharacterLength} (h : length.legible = true) :
    CutsTo endsPiece length.show.toList length.tokens := by
  cases length with
  | max => exact (CutsTo.word (by decide)).piece
  | count n unit =>
    cases unit with
    | none => simpa [CharacterLength.show, CharacterLength.tokens] using cutsTo_natural n
    | some unit =>
      rw [CharacterLength.legible, Bool.and_eq_true] at h
      have hunits : ∀ w ∈ ["CHARACTERS", "OCTETS"], isWord w = true := by decide
      have hunit := CutsTo.word (hunits unit (List.contains_iff_mem.1 h.2))
      simpa [CharacterLength.show, CharacterLength.tokens] using
        (cutsTo_natural n).spaced hunit.piece

theorem bracket_not_mem_modifier (m : String) : .symbol "[" ∉ [modifierToken m] := by
  rw [modifierToken]
  split <;> simp

theorem modifier_cutsTo {text : String} (h : (isWord text || isNumber text) = true) :
    CutsTo endsPiece text.toList [modifierToken text] := by
  rw [modifierToken]
  split
  · rename_i hword
    exact (CutsTo.word hword).piece
  · rename_i hword
    rw [Bool.eq_false_iff.2 hword, Bool.false_or] at h
    exact .number h

theorem modifiers_cutsTo {ms : List String} (h : ∀ m ∈ ms, (isWord m || isNumber m) = true) :
    CutsTo endsPiece (commaList ms).toList (commas (ms.map fun m => [modifierToken m])) := by
  have hcut : Cut (commaList ms).toList (commas (ms.map fun m => [modifierToken m])) :=
    .commaList fun m hm => .of_cutsTo (modifier_cutsTo (h m hm)) (bracket_not_mem_modifier m)
  exact hcut.lexes

theorem string_cut {text : String} (h : isShownString text = true) :
    Cut (showQuoted '\'' text).toList [.string text] := by
  rw [beq_iff_eq.1 h]
  exact .of_cutsTo (CutsTo.string text).piece (by simp)

theorem signed_cut {digits : String} (h : isNumber digits = true) {sign : Option UnaryOp}
    (hsign : sign ≠ some .not) :
    Cut ((sign.map (·.sql)).getD "" ++ digits).toList
      ((sign.map fun op => .symbol op.sql).toList ++ [.number digits false]) := by
  have hdigits := CutsTo.number h
  have hsigned : ∀ c ∈ ['-', '+', '<', '>'], CutsTo endsPiece (c :: digits.toList)
      [.symbol (String.singleton c), .number digits false] :=
    fun c hc => hdigits.operator hc (opensOperand_number h)
  match sign with
  | none => simpa using Cut.of_cutsTo hdigits (by simp)
  | some .minus => simpa [UnaryOp.sql] using Cut.of_cutsTo (hsigned '-' (by decide)) (by simp)
  | some .plus => simpa [UnaryOp.sql] using Cut.of_cutsTo (hsigned '+' (by decide)) (by simp)
  | some .not => exact absurd rfl hsign

theorem EnumMember.cut {m : EnumMember} (h : m.legible = true) : Cut m.show.toList m.tokens := by
  rw [EnumMember.legible, Bool.and_eq_true] at h
  have hname := string_cut h.1
  rw [EnumMember.show, EnumMember.tokens]
  cases hvalue : m.value with
  | none => simpa using hname
  | some value =>
    obtain ⟨sign, constant⟩ := value
    rw [hvalue] at h
    cases constant with
    | number digits long =>
      simp only [Bool.and_eq_true, bne_iff_ne, Bool.not_eq_true'] at h
      obtain ⟨_, ⟨hsign, hdigits⟩, rfl⟩ := h
      have hequals := (signed_cut hdigits hsign).sign '=' [] (by decide) fun _ => rfl
      simpa [Constant.show] using hname.spaced hequals
    | _ => cases h.2

theorem Ident.opensOperand_show {i : Ident} (h : i.legible = true) :
    opensOperand i.show.toList = true := by
  obtain ⟨text, quote, extent⟩ := i
  cases quote with
  | none => exact opensOperand_word h
  | some quote =>
    rw [Ident.legible, Bool.and_eq_true, Bool.or_eq_true, beq_iff_eq, beq_iff_eq] at h
    rcases h.1 with rfl | rfl <;> simp [Ident.show, showQuoted, opensOperand, isOperatorChar]

theorem DataType.opensOperand_show {type : DataType} (h : type.legible = true) :
    opensOperand type.show.toList = true := by
  have hshown : ∀ texts ∈ shownTexts, ∀ {shown}, texts.contains shown = true →
      opensOperand shown.toList = true :=
    fun texts htexts _ hshown =>
      opensOperand_of_shown texts htexts _ (List.contains_iff_mem.1 hshown)
  induction type with
  | plain shown label => exact hshown plainShown (by simp [shownTexts]) h
  | sized shown label size =>
    rw [DataType.legible, Bool.and_eq_true] at h
    have hhead := hshown sizedShown (by simp [shownTexts]) h.1
    simp [DataType.show, opensOperand_append hhead]
  | unsigned shown label size =>
    rw [DataType.legible, Bool.and_eq_true] at h
    have hhead := hshown integerShown (by simp [shownTexts]) h.1
    simp [DataType.show, opensOperand_append hhead]
  | characters shown label length =>
    rw [DataType.legible, Bool.and_eq_true] at h
    have hhead := hshown charactersShown (by simp [shownTexts]) h.1
    cases length <;> simp [DataType.show, hhead, opensOperand_append hhead]
  | exact shown label places =>
    rw [DataType.legible, Bool.and_eq_true] at h
    have hhead := hshown numericShown (by simp [shownTexts]) h.1
    rcases places with _ | ⟨precision, _ | scale⟩ <;>
      simp [DataType.show, hhead, opensOperand_append hhead]
  | time shown label precision zone =>
    rw [DataType.legible, Bool.and_eq_true] at h
    have hhead := hshown timeShown (by simp [shownTexts]) h.1
    cases zone <;> simp [DataType.show, opensOperand_append hhead]
  | custom name modifiers =>
    cases name with
    | nil => cases h
    | cons i is =>
      simp only [DataType.legible, Bool.and_eq_true, List.all_cons] at h
      have hhead := Ident.opensOperand_show h.1.1.1.1
      have hname : opensOperand (showName (i :: is)).toList = true := by
        cases is <;> simp [showName, hhead, opensOperand_append hhead]
      cases modifiers <;> simp [DataType.show, hname, opensOperand_append hname]
  | array element size ih =>
    rw [DataType.legible, Bool.and_eq_true] at h
    simp [DataType.show, opensOperand_append (ih h.1)]
  | zonedTime precision zone => cases zone <;> simp [DataType.show, opensOperand, isOperatorChar]
  | fixedString | enumeration | set | angleArray =>
    simp [DataType.show, opensOperand, isOperatorChar]

/-- A type without another one in it. -/
def DataType.isBase : DataType → Bool
  | .array _ _ | .angleArray _ => false
  | _ => true

/-- The characters that may stand behind a type. -/
def DataType.endsAt : DataType → Char → Bool
  | .angleArray _, c => endsWord c && !isOperatorChar c
  | _, c => endsWord c

theorem DataType.endsAt_of_not_isOperatorChar (type : DataType) {c : Char} (h : endsWord c = true)
    (hc : isOperatorChar c = false) : type.endsAt c = true := by
  cases type <;> simp [DataType.endsAt, h, hc]

theorem DataType.endsAt_of_not_isAngle {type : DataType} (htype : type.isAngle = false) {c : Char}
    (h : endsWord c = true) : type.endsAt c = true := by
  cases type with
  | angleArray => cases htype
  | _ => exact h

theorem DataType.cutsTo_base {type : DataType} (hbase : type.isBase = true)
    (h : type.legible = true) : CutsTo endsWord type.show.toList type.tokens := by
  have hshown : ∀ texts ∈ shownTexts, ∀ {shown}, texts.contains shown = true →
      CutsTo endsWord shown.toList (wordTokens shown) := by
    intro texts htexts shown hshown
    exact cutsTo_words (isWord_of_shown texts htexts shown (List.contains_iff_mem.1 hshown))
  cases type with
  | plain shown label => exact hshown plainShown (by simp [shownTexts]) h
  | sized shown label size =>
    rw [DataType.legible, Bool.and_eq_true] at h
    simpa [DataType.show, DataType.tokens] using
      cutsTo_length (hshown sizedShown (by simp [shownTexts]) h.1) size
  | unsigned shown label size =>
    rw [DataType.legible, Bool.and_eq_true] at h
    have hsize := cutsTo_length (hshown integerShown (by simp [shownTexts]) h.1) size
    have hsign : CutsTo endsWord "UNSIGNED".toList [.keyword "UNSIGNED"] := .word (by decide)
    simpa [DataType.show, DataType.tokens] using hsize.piece.spaced hsign
  | characters shown label length =>
    rw [DataType.legible, Bool.and_eq_true] at h
    have hhead := hshown charactersShown (by simp [shownTexts]) h.1
    cases length with
    | none => simpa [DataType.show, DataType.tokens, charactersTokens] using hhead
    | some length =>
      simpa [DataType.show, DataType.tokens, charactersTokens] using
        hhead.arguments (CharacterLength.cutsTo h.2)
  | exact shown label places =>
    rw [DataType.legible, Bool.and_eq_true] at h
    have hhead := hshown numericShown (by simp [shownTexts]) h.1
    cases places with
    | none => simpa [DataType.show, DataType.tokens, placesTokens] using hhead
    | some places =>
      obtain ⟨precision, scale⟩ := places
      cases scale with
      | none =>
        simpa [DataType.show, DataType.tokens, placesTokens] using
          hhead.arguments (cutsTo_natural precision)
      | some scale =>
        have hplaces := (cutsTo_natural precision).comma (cutsTo_natural scale)
        simpa [DataType.show, DataType.tokens, placesTokens] using hhead.arguments hplaces
  | time shown label precision zone =>
    rw [DataType.legible, Bool.and_eq_true] at h
    have hhead := cutsTo_length (hshown timeShown (by simp [shownTexts]) h.1) precision
    have hzone : ∀ text, (wordsOf text).all isWord = true →
        CutsTo endsWord ((shown.toList ++ (showSize precision).toList) ++ ' ' :: text.toList)
          ((wordTokens shown ++ lengthTokens precision) ++ wordTokens text) :=
      fun text htext => hhead.piece.spaced (cutsTo_words htext)
    cases zone with
    | unsaid => simpa [DataType.show, DataType.tokens] using hhead
    | aware =>
      simpa [DataType.show, DataType.tokens] using hzone "WITH TIME ZONE" (by decide +kernel)
    | unaware =>
      simpa [DataType.show, DataType.tokens] using hzone "WITHOUT TIME ZONE" (by decide +kernel)
    | short =>
      have hmem : shown ++ "TZ" ∈ timeShown.map (· ++ "TZ") :=
        List.mem_map_of_mem (List.contains_iff_mem.1 h.1)
      have hshort := hshown (timeShown.map (· ++ "TZ")) (by simp [shownTexts])
        (List.contains_iff_mem.2 hmem)
      simpa [DataType.show, DataType.tokens] using cutsTo_length hshort precision
  | zonedTime precision zone =>
    have hhead : CutsTo endsWord "DateTime64".toList [.keyword "DateTime64"] := .word (by decide)
    cases zone with
    | none =>
      simpa [DataType.show, DataType.tokens] using hhead.arguments (cutsTo_natural precision)
    | some zone =>
      simp only [DataType.legible, Bool.and_eq_true, Option.all_some, Bool.not_eq_true',
        List.contains_eq_mem, decide_eq_false_iff_not] at h
      have hzone := (CutsTo.string zone).piece
      rw [Text.quoted, Text.doubleQuotes_of_not_mem h.2] at hzone
      have hargs := (cutsTo_natural precision).comma hzone.space
      simpa [DataType.show, DataType.tokens] using hhead.arguments hargs
  | fixedString length =>
    have hhead : CutsTo endsWord "FixedString".toList [.keyword "FixedString"] := .word (by decide)
    simpa [DataType.show, DataType.tokens] using hhead.arguments (cutsTo_natural length)
  | custom name modifiers =>
    cases name with
    | nil => cases h
    | cons i is =>
      simp only [DataType.legible, Bool.and_eq_true] at h
      have hname := CutsTo.name (List.all_eq_true.1 h.1.1.1)
      cases modifiers with
      | nil => simpa [DataType.show, DataType.tokens] using hname
      | cons m ms =>
        simpa [DataType.show, DataType.tokens] using
          hname.arguments (modifiers_cutsTo (List.all_eq_true.1 h.2))
  | enumeration members bits =>
    simp only [DataType.legible, Bool.and_eq_true, List.all_eq_true] at h
    have hbits : ∀ bits ∈ [none, some 8, some 16], isWord (enumWord bits) = true := by decide
    have hword := CutsTo.word (hbits bits (List.contains_iff_mem.1 h.2))
    have hmembers := (Cuts.map fun m hm => EnumMember.cut (h.1.2 m hm)).commaList.lexes
    simpa [DataType.show, DataType.tokens, enumWord] using hword.arguments hmembers
  | set values =>
    simp only [DataType.legible, Bool.and_eq_true, List.all_eq_true] at h
    have hword : CutsTo endsWord "SET".toList [.keyword "SET"] := .word (by decide)
    have hvalues := (Cuts.map fun v hv => string_cut (h.2 v hv)).commaList.lexes
    simpa [DataType.show, DataType.tokens] using hword.arguments hvalues
  | array | angleArray => cases hbase

theorem DataType.cutsTo {type : DataType} (h : type.legible = true) :
    CutsTo type.endsAt type.show.toList type.tokens := by
  induction type with
  | array element size ih =>
    rw [DataType.legible, Bool.and_eq_true] at h
    have hsize : CutsTo endsPiece ((size.map toString).getD "").toList
        (size.map naturalToken).toList := by
      cases size with
      | none => exact .nil
      | some n => exact cutsTo_natural n
    have hbrackets : CutsTo (DataType.array element size).endsAt _ _ := hsize.bracketed
    have hends : element.endsAt '[' = true :=
      element.endsAt_of_not_isOperatorChar (by decide) (by decide)
    simpa [DataType.show, DataType.tokens] using (ih h.1).append hbrackets
      (by simpa using hends) nofun
  | angleArray element ih =>
    rw [DataType.legible, Bool.and_eq_true, Bool.not_eq_true'] at h
    have hclose : CutsTo (DataType.angleArray element).endsAt ['>'] [.symbol ">"] := by
      intro rest ts hrest hts
      refine .cons_token (lexToken_operator (fun d hd => ?_) (by decide)) (Nat.le_refl _) hts
      have hd := hrest d hd
      rw [DataType.endsAt, Bool.and_eq_true, Bool.not_eq_true'] at hd
      exact hd.2
    have hends : element.endsAt '>' = true := DataType.endsAt_of_not_isAngle h.2 (by decide)
    have helement := (ih h.1).append hclose (by simpa using hends) nofun
    have hopen := helement.operator (c := '<') (by decide)
      (opensOperand_append (DataType.opensOperand_show h.1) _)
    have hword : CutsTo endsWord "ARRAY".toList [.keyword "ARRAY"] := .word (by decide)
    simpa [DataType.show, DataType.tokens] using hword.append hopen (by simp [endsWord]) nofun
  | _ => exact DataType.cutsTo_base rfl h

/-! Brackets. -/

theorem bracket_not_mem_wordTokens (text : String) : .symbol "[" ∉ wordTokens text := by
  simp [wordTokens]

theorem bracket_not_mem_lengthTokens (size : Option Nat) : .symbol "[" ∉ lengthTokens size := by
  cases size <;> simp [lengthTokens, naturalToken]

theorem bracket_not_mem_commas {parts : List (List Token)}
    (h : ∀ part ∈ parts, .symbol "[" ∉ part) : .symbol "[" ∉ commas parts := by
  induction parts with
  | nil => exact List.not_mem_nil
  | cons part parts ih =>
    rw [List.forall_mem_cons] at h
    cases parts with
    | nil => simpa [commas] using h.1
    | cons next parts =>
      have htail := ih h.2
      rw [commas] at htail ⊢
      rw [List.intercalate_cons_cons]
      simpa [h.1] using htail

theorem EnumMember.bracket_not_mem (m : EnumMember) : .symbol "[" ∉ m.tokens := by
  rw [EnumMember.tokens]
  split
  · rename_i sign digits long _
    rcases sign with _ | ⟨⟨⟩⟩ <;> simp [UnaryOp.sql]
  · simp

theorem CharacterLength.bracket_not_mem (length : CharacterLength) :
    .symbol "[" ∉ length.tokens := by
  cases length with
  | max => simp [CharacterLength.tokens]
  | count n unit => cases unit <;> simp [CharacterLength.tokens, naturalToken]

theorem DataType.bracket_not_mem {type : DataType} (h : type.isBase = true) :
    .symbol "[" ∉ type.tokens := by
  cases type with
  | plain shown => exact bracket_not_mem_wordTokens shown
  | sized shown label size =>
    simp [DataType.tokens, bracket_not_mem_wordTokens, bracket_not_mem_lengthTokens]
  | unsigned shown label size =>
    simp [DataType.tokens, bracket_not_mem_wordTokens, bracket_not_mem_lengthTokens]
  | characters shown label length =>
    cases length <;> simp [DataType.tokens, charactersTokens, bracket_not_mem_wordTokens,
      CharacterLength.bracket_not_mem]
  | exact shown label places =>
    rcases places with _ | ⟨precision, _ | scale⟩ <;>
      simp [DataType.tokens, placesTokens, bracket_not_mem_wordTokens, naturalToken]
  | time shown label precision zone =>
    cases zone <;> simp [DataType.tokens, bracket_not_mem_wordTokens, bracket_not_mem_lengthTokens]
  | zonedTime precision zone => cases zone <;> simp [DataType.tokens, naturalToken]
  | fixedString length => simp [DataType.tokens, naturalToken]
  | custom name modifiers =>
    cases modifiers with
    | nil => exact bracket_not_mem_pointed name
    | cons m ms =>
      have hmodifiers := bracket_not_mem_commas
        (List.forall_mem_map.2 fun x (_ : x ∈ m :: ms) => bracket_not_mem_modifier x)
      simpa [DataType.tokens, bracket_not_mem_pointed] using hmodifiers
  | enumeration members bits =>
    have hmembers := bracket_not_mem_commas
      (List.forall_mem_map.2 fun m (_ : m ∈ members) => m.bracket_not_mem)
    simpa [DataType.tokens] using hmembers
  | set values =>
    have hvalues : .symbol "[" ∉ commas (values.map fun v => [.string v]) :=
      bracket_not_mem_commas (List.forall_mem_map.2 fun v _ => by simp)
    simpa [DataType.tokens] using hvalues
  | array | angleArray => cases h

theorem DataType.brackets (type : DataType) {rest : List Token} (hends : TypeEnds rest)
    (hrest : Bracketed rest) : Bracketed (type.tokens ++ rest) := by
  induction type generalizing rest with
  | array element size ih =>
    have hsize := Bracketed.size (size.map toString) hends hrest
    have harray := ih ⟨"[", by decide, _, rfl⟩ hsize
    cases size <;> simpa [DataType.tokens, naturalToken, sizeTokens] using harray
  | angleArray element ih =>
    have helement := ih ⟨">", by decide, _, rfl⟩ (.cons (by decide) hrest)
    have hopen :=
      (helement.cons (t := .symbol "<") (by decide)).cons (t := .keyword "ARRAY") (by simp)
    simpa [DataType.tokens] using hopen
  | _ => exact brackets_of_not_mem (DataType.bracket_not_mem rfl) hrest

/-- A type with the parenthesis behind it. -/
theorem DataType.cut_closed {type : DataType} (h : type.legible = true) :
    Cut (type.show.toList ++ [')']) (type.tokens ++ [.symbol ")"]) := by
  have hends : ∀ c ∈ [')'].head?, type.endsAt c = true := by
    rintro c ⟨⟩
    exact type.endsAt_of_not_isOperatorChar (by decide) (by decide)
  refine ⟨fun rest hrest => ?_, (DataType.cutsTo h).append Cut.closing.lexes hends nofun⟩
  rw [List.append_assoc]
  exact type.brackets ⟨")", by decide, _, rfl⟩ (.cons (by decide) hrest)

end Cut

end LogicalSql.Surface
