import LogicalSql.Surface.Interpret
import LogicalSql.Surface.Reader.Statement

/-! Queries read from SQL text. -/
namespace LogicalSql

/-- All statements of a text. The whole text is read before any statement is taken as a query. -/
def Query.parseAll (text : String) : Except ParseError (List Query) :=
  match Surface.readStatements? text with
  | none => throw .malformed
  | some statements => statements.mapM (·.interpret)

/-- The only statement of a text. -/
def Query.parse (text : String) : Except ParseError Query := do
  match ← Query.parseAll text with
  | [query] => return query
  | queries => throw (.statementCount queries.length)

end LogicalSql
