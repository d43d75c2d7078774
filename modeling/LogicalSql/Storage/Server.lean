import LogicalSql.Storage.Backend
import LogicalSql.Storage.Statement

/-! Tables kept by a database server, through the messages that it is sent. -/
namespace LogicalSql

/-- What a server was sent. -/
inductive Message where
  | simple (sql : String)
  | copy (sql : String) (rows : List Row)
  /-- A copy that was begun and given up. -/
  | copyAborted (sql : String)
  | execute (sql : String) (parameters : List Value)
  /-- A copy or an execution that was not begun. -/
  | refused (sql : String)
  deriving DecidableEq, Repr

inductive ServerType where
  | text
  | varchar
  | int4
  | int8
  deriving DecidableEq, Repr

inductive ServerValue where
  | null
  | text (value : String)
  | integer (value : Int)
  deriving DecidableEq, Repr

/-- The rows of an answer. All have the same columns. -/
structure Answer where
  columns : List ServerType := []
  rows : List (List ServerValue) := []
  deriving DecidableEq, Repr

/-- What a server decides, by what it was sent before. -/
structure Script where
  refuses : List Message → String → Bool := fun _ _ => false
  /-- Gives up a copy that it has begun to take, after these rows. -/
  drops : List Message → List Row → Bool := fun _ _ => false
  answers : List Message → String → Answer := fun _ _ => {}

structure Server extends Script where
  /-- Everything it was sent, in order. -/
  log : List Message := []

namespace Server

def send (message : Message) : StorageM Server Unit :=
  modify fun s => { s with log := s.log ++ [message] }

def accepts (sql : String) : StorageM Server Bool := do
  let s ← get
  return !s.refuses s.log sql

/-- Statements without parameters or answer. -/
def simple (sql : String) : StorageM Server Unit := do
  let accepted ← accepts sql
  send (.simple sql)
  if !accepted then throw .server

/-- A value can be written in binary form only if it has the type of its column. -/
def fits (type : ColumnType) (value : Value) : Bool := type.isText == value.text?.isSome

def fitsRow (desc : TableDesc) (row : Row) : Bool :=
  (desc.columns.zip row).all fun (column, value) => fits column.type value

/-- Rows are sent one by one, up to the first that does not fit. The server may give up before each
of them and at the end. -/
def takesRows (s : Server) (desc : TableDesc) (sent : List Row) : List Row → Bool
  | [] => !s.drops s.log sent
  | row :: rest =>
    !s.drops s.log sent && fitsRow desc row && s.takesRows desc (sent ++ [row]) rest

def copy (desc : TableDesc) (rows : List Row) : StorageM Server Unit := do
  if ← accepts desc.copySql then
    if (← get).takesRows desc [] rows then send (.copy desc.copySql rows)
    else
      send (.copyAborted desc.copySql)
      throw .server
  else
    send (.refused desc.copySql)
    throw .server

def execute (sql : String) (parameters : List Value) : StorageM Server Answer := do
  let s ← get
  if ← accepts sql then
    send (.execute sql parameters)
    return s.answers s.log sql
  else
    send (.refused sql)
    throw .server

def rollback : StorageM Server Unit := send (.simple "ROLLBACK")

/-- Everything up to the commit. -/
def replace (desc : TableDesc) (rows : List Row) : StorageM Server Unit := do
  simple "START TRANSACTION"
  simple desc.replaceTableSql
  copy desc rows
  desc.createIndexSqls.forM fun sql => do
    let _ ← execute sql []

/-- A failure before the commit rolls back. A commit that fails is the end. -/
def recreate (desc : TableDesc) (rows : List Row) : StorageM Server Unit := do
  desc.checkRows rows
  tryCatch (replace desc rows) fun e => do
    rollback
    throw e
  simple "COMMIT"

/-- A value is read only from a column of the type that it is read as. -/
def readValue (type : ColumnType) (serverType : Option ServerType) (value : Option ServerValue) :
    Option Value :=
  match type.isText, serverType, value with
  | true, some .text, some (.text s) => some (.text s)
  | true, some .varchar, some (.text s) => some (.text s)
  | false, some .int4, some (.integer n) => some (.integer (Int32.ofInt n))
  | _, _, _ => none

/-- Columns behind the described ones are passed over. -/
def readRow (desc : TableDesc) (types : List ServerType) (row : List ServerValue) :
    Except StorageError Row :=
  (List.range desc.columns.length).zip desc.columns |>.mapM fun (i, column) =>
    match readValue column.type types[i]? row[i]? with
    | some value => .ok value
    | none => .error (.unexpectedValue desc.qualifiedName column.name)

def select (desc : TableDesc) (keys : List Key) : StorageM Server (List Row) := do
  keys.forM fun (column, _) => do
    let _ ← desc.columnIndex column
  let answer ← execute (desc.selectSql keys) (keys.map (·.2))
  answer.rows.mapM fun row => readRow desc answer.columns row

instance : Storage Server := ⟨recreate, select⟩

end Server

end LogicalSql
