import LogicalSql.Surface.Lexer
import LogicalSql.Surface.Reader.Session

/-! Statements and the texts that hold them. -/
namespace LogicalSql.Surface

namespace Reader

variable (L : Level)

/-- The statement that begins with this keyword, behind it. -/
def otherStatement (word : String) : Reader String := do
  match word with
  | "INSERT" => return (← insertion L).text
  | "UPDATE" => return (← update L).text
  | "DELETE" => deletion L
  | "MERGE" => mergeText L
  | "COPY" => copyText L
  | "UNLOAD" => unloadText L
  | "CACHE" => cacheText L
  | "UNCACHE" => uncacheText
  | "MSCK" => repairText
  | "CREATE" => createText L
  | "ALTER" => alterText L
  | "DROP" => dropText L
  | "TRUNCATE" => truncateText L
  | "GRANT" => grantText
  | "REVOKE" => revokeText
  | "BEGIN" => beginText
  | "START" =>
    expectKeyword "TRANSACTION"
    return "START TRANSACTION" ++ (← transactionModes)
  | "COMMIT" | "END" => return "COMMIT" ++ (← chainClause)
  | "ROLLBACK" => rollbackText
  | "SAVEPOINT" => return "SAVEPOINT " ++ (← identifier).show
  | "RELEASE" =>
    let _ ← keyword "SAVEPOINT"
    return "RELEASE SAVEPOINT " ++ (← identifier).show
  | "SET" => setText L
  | "SHOW" => showText L
  | "EXPLAIN" | "DESCRIBE" | "DESC" => explainText L word
  | "ANALYZE" => analyzeText L
  | "CALL" => callText L
  | "USE" => return "USE " ++ showName (← objectName)
  | "KILL" => killText
  | "ASSERT" => assertText L
  | "DEALLOCATE" => deallocateText
  | "PREPARE" => prepareText L
  | "EXECUTE" | "EXEC" => executeText L
  | "DECLARE" => declareText L
  | "FETCH" => fetchText
  | "CLOSE" => closeText
  | "LISTEN" => return "LISTEN " ++ (← identifier).show
  | "UNLISTEN" => unlistenText
  | "NOTIFY" => notifyText
  | "DISCARD" => discardText
  | "COMMENT" => commentText
  | "PRAGMA" => pragmaText
  | "ATTACH" => attachText L
  | "LOAD" => return "LOAD " ++ (← identifier).show
  | _ => fail

def statement : Reader Statement := do
  match ← get with
  | ⟨.symbol "(", _, _⟩ :: _ => return .query (← L.query)
  | l :: ls =>
    match l.token.keyword? with
    | some word =>
      if ["SELECT", "WITH", "VALUES"].contains word then return .query (← L.query)
      else
        set ls
        return .other (← otherStatement L word)
    | none => fail
  | [] => fail

end Reader

/-- The readers that go no level further down, beside those that do. -/
def Level.complete (expr : Nat → Reader Expr) (query : Reader Query) (statement : Reader Statement) :
    Level :=
  let outer : Level := ⟨expr, query, statement, Reader.fail, Reader.fail⟩
  let inner := { outer with primary := Reader.primary outer }
  { inner with tableItem := Reader.tableItem inner }

/-- What may be nested to this depth. -/
def level : Nat → Level
  | 0 => .complete (fun _ => throw .tooDeep) (throw .tooDeep) (throw .tooDeep)
  | n + 1 =>
    let inner := level n
    .complete (Reader.expr inner) (Reader.query inner) (Reader.statement inner)

/-- Statements, queries and expressions together nest at most this deep. -/
def maxNesting : Nat := 50

/-- The statements of a text, if it is well formed. -/
def readStatements? (text : String) : Option (List Statement) := do
  let lexemes ← tokenize text.toList
  match Reader.statements (level maxNesting).statement lexemes with
  | .ok (statements, _) => some statements
  | .error _ => none

end LogicalSql.Surface
