import LogicalSql.Command.Help
import LogicalSql.Command.Path
import LogicalSql.Config.File
import LogicalSql.Lowering.Text
import LogicalSql.Mapping.File

/-! Running a command against its surroundings. -/
namespace LogicalSql.Command

/-- What a command needs from outside. -/
structure Host (m : Type → Type) (σ : Type) where
  /-- The content of a file. -/
  file : String → m FileText
  /-- All of the input, if it is text. -/
  readInput : m (Option String)
  defaultConfig : String
  password : Option String
  isCertificate : String → Bool
  connect : ConnectionConfig → m (Option σ)

inductive Failure where
  | queryUnreadable (path : String)
  | inputUnreadable
  | mappingsUnreadable (path : String)
  | mappingsInvalid (path : String) (fault : Json.Fault)
  | config (error : ConfigError)
  | certificateUnreadable (path : String)
  | certificateInvalid (path : String)
  | unreachable (encrypted : Bool)
  | mapping (error : MappingError)
  | lowering (error : LoweringError)
  | unmapped (table : String)

def Failure.message : Failure → String
  | .queryUnreadable path => "Failed to read query file: " ++ path
  | .inputUnreadable => "Failed to read query from stdin"
  | .mappingsUnreadable path => "Failed to read mapping file: " ++ path
  | .mappingsInvalid path _ => "Failed to parse mapping file: " ++ path
  | .config error => error.message
  | .certificateUnreadable path => "Failed to read CA certificate file: " ++ path
  | .certificateInvalid path => "Failed to parse CA certificate: " ++ path
  | .unreachable false => "Failed to connect to PostgreSQL"
  | .unreachable true => "Failed to connect to PostgreSQL over TLS"
  | .mapping error => error.message
  | .lowering error => error.message
  | .unmapped table => "no mapping for table [" ++ table ++ "]"

/-- The exit code, what was printed, and the storage if one was reached. -/
structure Outcome (σ : Type) where
  code : UInt32 := 0
  output : String := ""
  failure : Option Failure := none
  storage : Option σ := none

def Outcome.printed {σ : Type} (output : String) : Outcome σ := { output }

def Outcome.failed {σ : Type} (failure : Failure) : Outcome σ :=
  { code := 1, failure := some failure }

variable {m : Type → Type} [Monad m] {σ : Type}

/-- A hyphen, like no path, stands for the input. -/
def readQuery (host : Host m σ) (path : Option String) : ExceptT Failure m String := do
  match path.filter (fun path => !(Path.ofText path).isInput) with
  | some path =>
    match ← host.file path with
    | .text content => return content
    | _ => throw (.queryUnreadable path)
  | none =>
    match ← host.readInput with
    | some content => return content
    | none => throw .inputUnreadable

def readMappings (host : Host m σ) (path : String) : ExceptT Failure m MappingFile := do
  match ← host.file path with
  | .text content => (MappingFile.parse content).mapError (Failure.mappingsInvalid path)
  | _ => throw (.mappingsUnreadable path)

/-- The mappings of a file as a set without dangling targets. -/
def checkedSet (file : MappingFile) : Except Failure MappingSet := do
  let set ← (MappingSet.ofList file.tables).mapError Failure.mapping
  set.validate.mapError Failure.mapping
  return set

/-- An extra root certificate is read where certificates are checked at all. -/
def checkCertificate (host : Host m σ) (config : ConnectionConfig) : ExceptT Failure m Unit := do
  if config.sslMode = .disable then return
  if config.acceptInvalidCerts && !config.sslMode.isStrict then return
  match config.caCertPath with
  | none => return
  | some path =>
    match ← host.file path with
    | .text content =>
      if host.isCertificate content then return else throw (.certificateInvalid path)
    | _ => throw (.certificateUnreadable path)

def openStorage (host : Host m σ) (config : Option String) : ExceptT Failure m (Catalog σ) := do
  let loaded ← liftM (Config.load host.file host.defaultConfig config host.password)
  let connection := (← loaded.mapError Failure.config).database
  checkCertificate host connection
  match ← host.connect connection with
  | some storage => return { storage }
  | none => throw (.unreachable (connection.sslMode != .disable))

/-- Ends a command that works on the storage. -/
def Outcome.onStorage {ε α : Type} (failure : ε → Failure) (print : α → Except Failure String)
    (step : ExceptT ε (StateM (Catalog σ)) α) (catalog : Catalog σ) : Outcome σ :=
  let (result, catalog) := step.run catalog
  let outcome : Outcome σ := match result with
    | .error e => .failed (failure e)
    | .ok a =>
      match print a with
      | .ok text => .printed text
      | .error e => .failed e
  { outcome with storage := some catalog.storage }

def writeMappings [Storage σ] (file : MappingFile) : CatalogM σ Unit := do
  Catalog.writeTables file.tables
  Catalog.writeEnums file.enums

def shownTable (name : String) : Option TableMapping → Except Failure String
  | some table => .ok (Json.pretty 0 table.json ++ "\n")
  | none => .error (.unmapped name)

def runTask [Storage σ] (host : Host m σ) (config : Option String) :
    Task → ExceptT Failure m (Outcome σ)
  | .lower mappings query => do
    let text ← readQuery host query
    match mappings with
    | some path =>
      let set ← checkedSet (← readMappings host path)
      return .printed ((← (set.lowerText text).mapError Failure.lowering) ++ "\n")
    | none =>
      let catalog ← openStorage host config
      return .onStorage .lowering (fun sql => .ok (sql ++ "\n")) (Catalog.lowerText text) catalog
  | .writeMappings path => do
    let file ← readMappings host path
    let _ ← checkedSet file
    let catalog ← openStorage host config
    return .onStorage .mapping (fun _ => .ok "") (writeMappings file) catalog
  | .show table => do
    let catalog ← openStorage host config
    return .onStorage .mapping (shownTable table) (Catalog.resolveLogical table) catalog

/-- Failures end with 1 and misuse with 2. -/
def run [Storage σ] (host : Host m σ) (args : List String) : m (Outcome σ) := do
  match Request.ofArguments args with
  | .misuse => return { code := 2 }
  | .version => return .printed versionText
  | .help topic => return .printed topic.help
  | .run config task =>
    match ← (runTask host config task).run with
    | .ok outcome => return outcome
    | .error failure => return .failed failure

end LogicalSql.Command
