import LogicalSql.Storage.Table
import LogicalSql.Text.Quoted

/-! The SQL statements that keep tables in a database. -/
namespace LogicalSql

def quoteName (name : String) : String := Text.quoted '"' name

namespace TableDesc

def quotedName (desc : TableDesc) : String := quoteName desc.schema ++ "." ++ quoteName desc.name

def columnList (desc : TableDesc) : String :=
  ", ".intercalate (desc.columns.map fun c => quoteName c.name)

def createTableSql (desc : TableDesc) : String :=
  "create table " ++ desc.quotedName ++ " (" ++
    ", ".intercalate (desc.columns.map fun c => quoteName c.name ++ " " ++ c.type.ddl ++ " not null") ++
    ")"

/-- Makes room for the table and creates it. -/
def replaceTableSql (desc : TableDesc) : String :=
  "create schema if not exists " ++ quoteName desc.schema ++ "; drop table if exists " ++
    desc.quotedName ++ "; " ++ desc.createTableSql

def copySql (desc : TableDesc) : String :=
  "copy " ++ desc.quotedName ++ " (" ++ desc.columnList ++ ") from stdin (format binary)"

def createIndexSql (desc : TableDesc) (position : Nat) (key : String) : String :=
  "create index " ++ quoteName (desc.name ++ "_idx" ++ toString position) ++ " on " ++
    desc.quotedName ++ " (" ++ key ++ ")"

def createIndexSqls (desc : TableDesc) : List String :=
  desc.indexes.mapIdx desc.createIndexSql

/-- Texts are compared without case. Parameters count from one. -/
def conditionSql (position : Nat) (key : Key) : String :=
  let parameter := "$" ++ toString (position + 1)
  match key.2 with
  | .text _ => "lower(" ++ quoteName key.1 ++ ") = lower(" ++ parameter ++ ")"
  | .integer _ => quoteName key.1 ++ " = " ++ parameter

def selectSql (desc : TableDesc) (keys : List Key) : String :=
  "select " ++ desc.columnList ++ " from " ++ desc.quotedName ++
    if keys.isEmpty then "" else " where " ++ " and ".intercalate (keys.mapIdx conditionSql)

end TableDesc

end LogicalSql
