import LogicalSql.Text.Quoted

/-! How the database is reached. -/
namespace LogicalSql

/-- How far a connection has to be encrypted and its server verified. -/
inductive SslMode where
  | disable
  | prefer
  | require
  | verifyCa
  | verifyFull
  deriving DecidableEq, Repr

namespace SslMode

def all : List SslMode := [.disable, .prefer, .require, .verifyCa, .verifyFull]

/-- As in a configuration file. -/
def name : SslMode → String
  | .disable => "Disable"
  | .prefer => "Prefer"
  | .require => "Require"
  | .verifyCa => "VerifyCa"
  | .verifyFull => "VerifyFull"

/-- As in a connection string. -/
def keyword : SslMode → String
  | .disable => "disable"
  | .prefer => "prefer"
  | .require => "require"
  | .verifyCa => "verify-ca"
  | .verifyFull => "verify-full"

/-- A server without encryption is good enough. -/
def acceptsPlain : SslMode → Bool
  | .disable | .prefer => true
  | _ => false

/-- Certificates are always checked. -/
def isStrict : SslMode → Bool
  | .verifyCa | .verifyFull => true
  | _ => false

end SslMode

structure ConnectionConfig where
  host : String := "localhost"
  port : UInt16 := 5432
  database : String := "postgres"
  username : String := "postgres"
  password : String := ""
  sslMode : SslMode := .prefer
  /-- No certificate is checked, except in the strict modes. -/
  acceptInvalidCerts : Bool := false
  /-- A file with another trusted root certificate. -/
  caCertPath : Option String := none
  deriving DecidableEq, Repr

/-- A value between single quotes. Backslashes make quotes and backslashes literal, so those that are
there already are doubled before the quotes get theirs. -/
def quoteSetting (value : String) : String :=
  let doubled := Text.replace '\\' ['\\', '\\'] value.toList
  let escaped := Text.replace '\'' ['\\', '\''] doubled
  String.ofList ('\'' :: escaped ++ ['\''])

namespace ConnectionConfig

/-- Names with their values, separated by blanks. -/
def connectionString (c : ConnectionConfig) : String :=
  " ".intercalate
    ["host=" ++ quoteSetting c.host,
      "port=" ++ toString c.port.toNat,
      "dbname=" ++ quoteSetting c.database,
      "user=" ++ quoteSetting c.username,
      "password=" ++ quoteSetting c.password,
      "sslmode=" ++ c.sslMode.keyword,
      "connect_timeout=10"]

/-- For people, without the password. -/
def display (c : ConnectionConfig) : String :=
  c.username ++ "@" ++ c.host ++ ":" ++ toString c.port.toNat ++ "/" ++ c.database

/-- An empty password is taken from the environment. -/
def withPassword (c : ConnectionConfig) : Option String → ConnectionConfig
  | some password => if c.password.isEmpty then { c with password } else c
  | none => c

end ConnectionConfig

end LogicalSql
