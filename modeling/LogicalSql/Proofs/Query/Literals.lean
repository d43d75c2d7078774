import LogicalSql.Proofs.Lowering.TypeColumn
import LogicalSql.Proofs.Surface.Lexing
import LogicalSql.Query.Print

/-! Literals keep to themselves. Whatever stands in a string or among bytes, their text ends at its
own quote and is read as what was printed. -/
namespace LogicalSql.Literal

open Surface

/-- Bytes are a string with its type behind it. -/
theorem toList_sql_binary (bytes : List UInt8) (rest : List Char) :
    (Literal.binary bytes).sql.toList ++ rest =
      (Text.quoted '\'' ("\\x" ++ Text.hexBytes bytes)).toList ++ ("::bytea".toList ++ rest) := by
  have hquote : '\'' ∉ ("\\x" ++ Text.hexBytes bytes).toList := by
    rw [String.toList_append, List.mem_append]
    rintro (h | h)
    · exact absurd h (by decide)
    · exact absurd ((Text.spells_hexBytes bytes).lower _ h) (by decide)
  rw [Text.toList_quoted, Text.doubleQuotes_of_not_mem hquote]
  simp [Literal.sql]

theorem tokens?_sql_binary (bytes : List UInt8) (rest : List Char) :
    tokens? ((Literal.binary bytes).sql.toList ++ rest) =
      (tokens? ("::bytea".toList ++ rest)).map (.string ("\\x" ++ Text.hexBytes bytes) :: ·) := by
  rw [toList_sql_binary]
  exact tokens?_string _ (by simp)

/-- Behind the string stands its type, which ends where a word ends. -/
theorem tokens?_sql_binary_of_ends (bytes : List UInt8) {rest : List Char}
    (hrest : ∀ c ∈ rest.head?, continuesWord c = false) :
    tokens? ((Literal.binary bytes).sql.toList ++ rest) = (tokens? rest).map
      ([.string ("\\x" ++ Text.hexBytes bytes), .symbol "::", .word "bytea" none] ++ ·) := by
  have hcast : lexToken ':' (":bytea".toList ++ rest) =
      some (.token (.symbol "::"), "bytea".toList ++ rest) := rfl
  have hletters : ∀ c ∈ "ytea".toList, continuesWord c = true := List.all_eq_true.1 rfl
  have hword : lexToken 'b' ("ytea".toList ++ rest) = some (.token (.word "bytea" none), rest) :=
    lexWord_append 'b' hletters hrest
  have hsymbol : tokens? ("::bytea".toList ++ rest) =
      (tokens? ("bytea".toList ++ rest)).map ([.symbol "::"] ++ ·) :=
    tokens?_cons hcast (by simp)
  have htype : tokens? ("bytea".toList ++ rest) = (tokens? rest).map ([.word "bytea" none] ++ ·) :=
    tokens?_cons hword (by simp; omega)
  rw [tokens?_sql_binary, hsymbol, htype, Option.map_map, Option.map_map]
  rfl

theorem binary_sql_injective {bytes bytes' : List UInt8}
    (h : (Literal.binary bytes).sql = (Literal.binary bytes').sql) : bytes = bytes' := by
  have hdigits : (Text.hexBytes bytes).toList = (Text.hexBytes bytes').toList := by
    simpa [Literal.sql] using congrArg String.toList h
  have hread := (Text.spells_hexBytes bytes).read
  rw [hdigits, (Text.spells_hexBytes bytes').read] at hread
  exact (Option.some.inj hread).symm

theorem typeIndex_sql_injective {i j : Int32} (h : (typeIndex i).sql = (typeIndex j).sql) :
    i = j := by
  obtain ⟨bytes, hi, -, hvalue⟩ := typeIndex_bigEndian i
  obtain ⟨bytes', hj, -, hvalue'⟩ := typeIndex_bigEndian j
  rw [hi, hj] at h
  rw [binary_sql_injective h, hvalue'] at hvalue
  exact congrArg Int32.ofUInt32 (UInt32.toNat_inj.1 hvalue.symm)

/-- The text of a string in front of anything but a quote is one token, which holds the string, and
what follows is read as if it stood alone. The text of bytes is one such string, of a mark and two
digits a byte, with its type behind it. Type indexes that differ have different texts, and each is
read as its four bytes. -/
theorem sql_read_back :
    (∀ (s : String) (rest : List Char), rest.head? ≠ some '\'' →
      tokens? ((Literal.string s).sql.toList ++ rest) = (tokens? rest).map (.string s :: ·)) ∧
    (∀ bytes : List UInt8, ∃ digits : String, Text.Spells digits.toList bytes ∧
      (∀ rest, tokens? ((Literal.binary bytes).sql.toList ++ rest) =
        (tokens? ("::bytea".toList ++ rest)).map (.string ("\\x" ++ digits) :: ·)) ∧
      ∀ rest, (∀ c ∈ rest.head?, continuesWord c = false) →
        tokens? ((Literal.binary bytes).sql.toList ++ rest) = (tokens? rest).map
          ([.string ("\\x" ++ digits), .symbol "::", .word "bytea" none] ++ ·)) ∧
    (∀ i j : Int32, i ≠ j → (typeIndex i).sql ≠ (typeIndex j).sql) ∧
    ∀ i : Int32, ∃ (digits : String) (bytes : List UInt8),
      tokens? (typeIndex i).sql.toList =
        some [.string ("\\x" ++ digits), .symbol "::", .word "bytea" none] ∧
      Text.Spells digits.toList bytes ∧ BigEndian i bytes := by
  refine ⟨fun s rest hrest => ?_, fun bytes => ?_, fun i j hne h => ?_, fun i => ?_⟩
  · exact tokens?_string s fun c hc heq => hrest (heq ▸ hc)
  · exact ⟨Text.hexBytes bytes, Text.spells_hexBytes bytes, tokens?_sql_binary bytes,
      fun rest => tokens?_sql_binary_of_ends bytes⟩
  · exact hne (typeIndex_sql_injective h)
  · obtain ⟨bytes, hliteral, hbytes⟩ := typeIndex_bigEndian i
    have hends : ∀ c ∈ ([] : List Char).head?, continuesWord c = false := by simp
    have htokens := tokens?_sql_binary_of_ends bytes hends
    rw [List.append_nil, tokens?_nil] at htokens
    refine ⟨Text.hexBytes bytes, bytes, ?_, Text.spells_hexBytes bytes, hbytes⟩
    rw [hliteral, htokens]
    rfl

/-- Quotes and backslashes at both ends of a string, with another string behind it, and a byte that
is the code of a quote. -/
theorem sql_read_back_hostile :
    let hostile := "'a'' OR 1 = 1 --\\'"
    let rest := ",'b'".toList
    rest.head? ≠ some '\'' ∧ continuesWord ',' = false ∧ (5 : Int32) ≠ -5 ∧
      tokens? ((Literal.string hostile).sql.toList ++ rest) =
        some [.string hostile, .symbol ",", .string "b"] ∧
      (∃ digits : String, Text.Spells digits.toList [39] ∧
        tokens? ((Literal.binary [39]).sql.toList ++ rest) =
          some [.string ("\\x" ++ digits), .symbol "::", .word "bytea" none, .symbol ",",
            .string "b"]) ∧
      (typeIndex 5).sql ≠ (typeIndex (-5)).sql := by
  intro hostile rest
  obtain ⟨hstring, hbinary, hindex, -⟩ := sql_read_back
  have hhead : rest.head? ≠ some '\'' := by decide
  have hends : ∀ c ∈ rest.head?, continuesWord c = false := by
    intro c hc
    cases hc
    decide
  have hb : tokens? "'b'".toList = some [.string "b"] := by
    have hb := hstring "b" [] (by decide)
    rwa [tokens?_nil] at hb
  have hrest : tokens? rest = some [.symbol ",", .string "b"] := by
    have hcomma : lexToken ',' "'b'".toList = some (.token (.symbol ","), "'b'".toList) := rfl
    refine (tokens?_cons hcomma (Nat.le_refl _)).trans ?_
    rw [hb]
    rfl
  obtain ⟨digits, hdigits, -, htokens⟩ := hbinary [39]
  refine ⟨hhead, by decide, by decide, ?_, ⟨digits, hdigits, ?_⟩, hindex 5 (-5) (by decide)⟩
  · rw [hstring hostile rest hhead, hrest]
    rfl
  · rw [htokens rest hends, hrest]
    rfl

end LogicalSql.Literal
