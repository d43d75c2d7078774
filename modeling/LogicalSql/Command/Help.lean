import LogicalSql.Command.Arguments

/-! What the program tells about itself. -/
namespace LogicalSql.Command

def versionText : String := "catalogsql 0.1.0\n"

def programHelp : List String :=
  ["Translates queries over a logical business-data model into PostgreSQL",
    "",
    "Usage: catalogsql [OPTIONS] <COMMAND>",
    "",
    "Commands:",
    "  translate       Translate one query read from a file or stdin",
    "  write-mappings  Replace the stored mappings with the contents of a JSON mapping file",
    "  show            Print the stored mapping of a logical table",
    "  help            Print this message or the help of the given subcommand(s)",
    "",
    "Options:",
    "      --config <CONFIG>  Config file (defaults to the user config directory)",
    "  -v, --verbose...       Increase log verbosity (-v, -vv, -vvv)",
    "  -h, --help             Print help",
    "  -V, --version          Print version"]

def lowerHelp : List String :=
  ["Translate one query read from a file or stdin",
    "",
    "Usage: catalogsql translate [OPTIONS] [QUERY]",
    "",
    "Arguments:",
    "  [QUERY]  Query file; `-` or nothing reads stdin",
    "",
    "Options:",
    "      --mappings <MAPPINGS>  Use a JSON mapping file instead of the database",
    "      --config <CONFIG>      Config file (defaults to the user config directory)",
    "  -v, --verbose...           Increase log verbosity (-v, -vv, -vvv)",
    "  -h, --help                 Print help"]

def commonOptions : List String :=
  ["Options:",
    "      --config <CONFIG>  Config file (defaults to the user config directory)",
    "  -v, --verbose...       Increase log verbosity (-v, -vv, -vvv)",
    "  -h, --help             Print help"]

def writeMappingsHelp : List String :=
  ["Replace the stored mappings with the contents of a JSON mapping file",
    "",
    "Usage: catalogsql write-mappings [OPTIONS] <FILE>",
    "",
    "Arguments:",
    "  <FILE>  ",
    ""] ++ commonOptions

def showHelp : List String :=
  ["Print the stored mapping of a logical table",
    "",
    "Usage: catalogsql show [OPTIONS] <TABLE>",
    "",
    "Arguments:",
    "  <TABLE>  ",
    ""] ++ commonOptions

def Topic.help : Topic → String
  | .program => "\n".intercalate programHelp ++ "\n"
  | .lower => "\n".intercalate lowerHelp ++ "\n"
  | .writeMappings => "\n".intercalate writeMappingsHelp ++ "\n"
  | .show => "\n".intercalate showHelp ++ "\n"

end LogicalSql.Command
