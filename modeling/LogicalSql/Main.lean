import LogicalSql.Command.Run
import LogicalSql.Storage.Memory

/-! The command line. It has no network, so commands that need the database cannot reach it. -/
namespace LogicalSql.Command

def readTextFile (path : String) : IO FileText := do
  try
    return .text (← IO.FS.readFile path)
  catch error =>
    match error with
    | .noFileOrDirectory .. => return .absent
    | _ => return .unreadable

def readStandardInput : IO (Option String) := do
  try
    return some (← (← IO.getStdin).readToEnd)
  catch _ => return none

/-- In the directory for the user's configuration files. -/
def defaultConfigPath : IO String := do
  let folder ← match ← IO.getEnv "XDG_CONFIG_HOME" with
    | some folder => pure folder
    | none => pure ((← IO.getEnv "HOME").getD "." ++ "/.config")
  return folder ++ "/catalogsql/config.toml"

def systemHost : IO (Host IO MemoryStorage) := do
  let defaultConfig ← defaultConfigPath
  let password ← IO.getEnv "PGPASSWORD"
  return {
    file := readTextFile
    readInput := readStandardInput
    defaultConfig
    password
    isCertificate := fun _ => false
    connect := fun _ => pure none }

def finish (outcome : Outcome MemoryStorage) : IO UInt32 := do
  IO.print outcome.output
  if let some failure := outcome.failure then IO.eprintln ("Error: " ++ failure.message)
  return outcome.code

end LogicalSql.Command

def main (args : List String) : IO UInt32 := do
  LogicalSql.Command.finish (← LogicalSql.Command.run (← LogicalSql.Command.systemHost) args)
