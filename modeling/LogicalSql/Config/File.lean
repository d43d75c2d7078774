import LogicalSql.Config.Connection
import LogicalSql.Document.Shape
import LogicalSql.Toml.Reader

/-! Settings in a TOML document. -/
namespace LogicalSql

structure Config where
  database : ConnectionConfig := {}
  deriving DecidableEq, Repr

/-- What became of an attempt to read a file. -/
inductive FileText where
  | absent
  | unreadable
  | text (content : String)

inductive ConfigFault where
  | malformed
  | shape (error : ShapeError)

inductive ConfigError where
  | unreadable (path : String)
  | invalid (path : String) (fault : ConfigFault)

def ConfigError.message : ConfigError → String
  | .unreadable path => "Failed to read config file: " ++ path
  | .invalid path _ => "Failed to parse config file: " ++ path

namespace Config

/-- Numbers in messages are written out. -/
def shapeText (error : ShapeError) : String := error.message Decimal.pointedText

def found : Toml.Value → Found
  | .string s => .string s
  | .integer n => .integer n
  | .float x => .float x
  | .boolean b => .boolean b
  | .array _ | .tables _ => .sequence
  | .table _ _ | .dateTime => .map

def asString : Toml.Value → Except ShapeError String
  | .string s => .ok s
  | value => .error (.wrongType (found value) "a string")

def asBoolean : Toml.Value → Except ShapeError Bool
  | .boolean b => .ok b
  | value => .error (.wrongType (found value) "a boolean")

def asPort : Toml.Value → Except ShapeError UInt16
  | .integer n =>
    if 0 ≤ n ∧ n < 0x10000 then .ok n.toNat.toUInt16 else .error (.outOfRange n "u16")
  | value => .error (.wrongType (found value) "u16")

def sslModeNamed (name : String) : Except ShapeError SslMode :=
  match SslMode.all.find? (·.name == name) with
  | some mode => .ok mode
  | none => .error (.unknownVariant name (SslMode.all.map SslMode.name))

/-- What may stand beside a mode that is a key. -/
def checkEmpty : Toml.Value → Except ShapeError Unit
  | .array items => if items.isEmpty then .ok () else .error (.other "expected empty table")
  | .table _ entries => if entries.isEmpty then .ok () else .error (.other "expected empty table")
  | .tables items => if items.isEmpty then .ok () else .error (.other "expected empty array")
  | .string _ => .error (.other "expected table, found string")
  | .integer _ => .error (.other "expected table, found integer")
  | .float _ => .error (.other "expected table, found float")
  | .boolean _ => .error (.other "expected table, found boolean")
  | .dateTime => .error (.other "expected table, found datetime")

/-- A mode is its name, or the only key of a table. -/
def asSslMode : Toml.Value → Except ShapeError SslMode
  | .string name => sslModeNamed name
  | .table _ [] => .error (.other "wanted exactly 1 element, found 0 elements")
  | .table _ [(name, value)] => do
    let mode ← sslModeNamed name
    checkEmpty value
    return mode
  | .table _ _ => .error (.other "wanted exactly 1 element, more than 1 element")
  | _ => .error (.other "wanted string or table")

/-- The settings of a connection in the order of their declaration. -/
def connectionFields :
    List (String × (ConnectionConfig → Toml.Value → Except ShapeError ConnectionConfig)) :=
  [("host", fun c v => return { c with host := ← asString v }),
    ("port", fun c v => return { c with port := ← asPort v }),
    ("database", fun c v => return { c with database := ← asString v }),
    ("username", fun c v => return { c with username := ← asString v }),
    ("password", fun c v => return { c with password := ← asString v }),
    ("ssl_mode", fun c v => return { c with sslMode := ← asSslMode v }),
    ("accept_invalid_certs", fun c v => return { c with acceptInvalidCerts := ← asBoolean v }),
    ("ca_cert_path", fun c v => return { c with caCertPath := some (← asString v) })]

/-- Unknown settings are ignored. -/
def connectionByName (entries : Toml.Entries) : Except ShapeError ConnectionConfig :=
  entries.foldlM (fun c (name, value) =>
    match connectionFields.lookup name with
    | some set => set c value
    | none => .ok c) {}

def connectionByPosition (values : List Toml.Value) : Except ShapeError ConnectionConfig :=
  (connectionFields.zip values).foldlM (fun c ((_, set), value) => set c value) {}

/-- A connection is a table, or a list of its settings. -/
def asConnection : Toml.Value → Except ShapeError ConnectionConfig
  | .table _ entries => connectionByName entries
  | .array values => connectionByPosition values
  | .tables items => connectionByPosition (items.map (.table .header))
  | .dateTime => .ok {}
  | value => .error (.wrongType (found value) "struct ConnectionConfig")

def ofEntries (entries : Toml.Entries) : Except ShapeError Config :=
  match entries.lookup "database" with
  | some value => return ⟨← asConnection value⟩
  | none => .ok {}

def parse (text : String) : Except ConfigFault Config :=
  match Toml.parse text with
  | some entries => (ofEntries entries).mapError .shape
  | none => .error .malformed

def parseFile (path : String) : FileText → Except ConfigError Config
  | .text content => (parse content).mapError (.invalid path)
  | _ => .error (.unreadable path)

/-- Reads the given file, or else the default one, which may be absent. -/
def load {m : Type → Type} [Monad m] (file : String → m FileText) (defaultPath : String)
    (given : Option String) (password : Option String) : m (Except ConfigError Config) := do
  let config ← match given with
    | some path => pure (parseFile path (← file path))
    | none =>
      match ← file defaultPath with
      | .absent => pure (.ok {})
      | found => pure (parseFile defaultPath found)
  return config.map fun c => ⟨c.database.withPassword password⟩

end Config

end LogicalSql
