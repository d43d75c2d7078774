import LogicalSql.Surface.Reader.Pivot

/-! Tables that are read out of JSON documents. -/
namespace LogicalSql.Surface.Reader

open Outline

variable (L : Level)

/-- What stands in for a value that is missing or faulty. -/
def jsonFallback? : Reader (Option Shown) := do
  let fallback : Option Shown ← do
    if ← keyword "NULL" then pure (some ⟨"NULL", "Null"⟩)
    else if ← keyword "ERROR" then pure (some ⟨"ERROR", "Error"⟩)
    else if ← keyword "DEFAULT" then
      let value ← constant
      pure (some ⟨"DEFAULT " ++ value.show, tuple "Default" [value.outline]⟩)
    else pure none
  if fallback.isSome then expectKeyword "ON"
  return fallback

/-- The last fallback for a missing value and the last one for a faulty value. -/
def jsonFallbacksLoop : Nat → Option Shown → Option Shown → Reader (Option Shown × Option Shown)
  | 0, onEmpty, onError => return (onEmpty, onError)
  | n + 1, onEmpty, onError => do
    match ← jsonFallback? with
    | none => return (onEmpty, onError)
    | some fallback =>
      match ← expectOneOf ["EMPTY", "ERROR"] with
      | "EMPTY" => jsonFallbacksLoop n (some fallback) onError
      | _ => jsonFallbacksLoop n onEmpty (some fallback)

def jsonValueColumn (name : Ident) : Reader Shown := do
  let type ← dataType
  let tested ← keyword "EXISTS"
  expectKeyword "PATH"
  let path ← constant
  let (onEmpty, onError) ← jsonFallbacksLoop (← get).length none none
  return ⟨name.show ++ " " ++ type.show ++ (if tested then " EXISTS" else "") ++ " PATH " ++
      path.show ++ (onEmpty.map fun f => " " ++ f.text ++ " ON EMPTY").getD "" ++
      (onError.map fun f => " " ++ f.text ++ " ON ERROR").getD "",
    tuple "Named" [record "JsonTableNamedColumn" [("name", name.outline), ("type", type.outline),
      ("path", path.outline), ("exists", bool tested), ("on_empty", outlineShown onEmpty),
      ("on_error", outlineShown onError)]]⟩

/-- A column, or columns of a part of the document. -/
def jsonColumn : Nat → Reader Shown
  | 0 => fail
  | n + 1 => do
    if ← keyword "NESTED" then
      let _ ← keyword "PATH"
      let path ← constant
      expectKeyword "COLUMNS"
      let columns ← parenthesized (commaSeparated (jsonColumn n))
      return ⟨"NESTED PATH " ++ path.show ++ " COLUMNS (" ++ commaList (columns.map (·.text)) ++ ")",
        tuple "Nested" [record "JsonTableNestedColumn" [("path", path.outline),
          ("columns", outlineClauses columns)]]⟩
    else
      let name ← identifier
      if ← keyword "FOR" then
        expectKeyword "ORDINALITY"
        return ⟨name.show ++ " FOR ORDINALITY", tuple "ForOrdinality" [name.outline]⟩
      else jsonValueColumn name

/-- A table of parts of a document, behind the open parenthesis of its arguments. -/
def jsonTable : Reader TableFactor := do
  let document ← L.anyExpr
  expectSymbol ","
  let path ← constant
  expectKeyword "COLUMNS"
  let columns ← parenthesized (commaSeparated (do jsonColumn (← get).length))
  expectSymbol ")"
  let name ← tableAlias?
  return .other ⟨"JSON_TABLE(" ++ document.show ++ ", " ++ path.show ++ " COLUMNS(" ++
      commaList (columns.map (·.text)) ++ "))" ++ showAlias name,
    record "JsonTable" [("json_expr", document.outline), ("json_path", path.outline),
      ("columns", outlineClauses columns), ("alias", outlineAlias name)]⟩

def openJsonColumn : Reader Shown := do
  let name ← identifier
  let type ← dataType
  let path ← match ← get with
    | ⟨.string text, _, _⟩ :: ls => do
      set ls
      pure (some text)
    | _ => pure none
  let asJson ← keyword "AS"
  if asJson then expectKeyword "JSON"
  return ⟨name.show ++ " " ++ type.show ++ (path.map fun p => " " ++ showQuoted '\'' p).getD "" ++
      (if asJson then " AS JSON" else ""),
    record "OpenJsonTableColumn" [("name", name.outline), ("type", type.outline),
      ("path", optional (path.map Text.report)), ("as_json", bool asJson)]⟩

/-- A table of the entries of a document, behind the open parenthesis of its arguments. -/
def openJson : Reader TableFactor := do
  let document ← L.anyExpr
  let path ← option (symbol ",") constant
  expectSymbol ")"
  let columns ← if ← keyword "WITH" then parenthesized (commaSeparated openJsonColumn) else pure []
  let name ← tableAlias?
  return .other ⟨"OPENJSON(" ++ document.show ++ (path.map fun p => ", " ++ p.show).getD "" ++ ")" ++
      (if columns.isEmpty then "" else " WITH (" ++ commaList (columns.map (·.text)) ++ ")") ++
      showAlias name,
    record "OpenJsonTable" [("json_expr", document.outline),
      ("json_path", optional (path.map Constant.outline)), ("columns", outlineClauses columns),
      ("alias", outlineAlias name)]⟩

end LogicalSql.Surface.Reader
