import DataSource.Log
import DataSource.Settings.Dictionary
import DataSource.Text.Case
import DataSource.Toml.Document

/-!
# Named connections

The settings of a named connection come from its table in a connections file and from variables of
the environment, which win. A variable belongs to a connection if its name starts with the
connection's own beginning; the rest of the name, in lower case, is the key.
-/

namespace DataSource

abbrev Environment := Table String

/-- A connections file: its name, and its text if there is one. -/
structure ConnectionsFile where
  name : String
  text? : Option String

namespace Connections

/-- The tables of a connections file; a file that does not exist has none. -/
def load (file : ConnectionsFile) : Except Error (Table (List (String × Value))) :=
  match file.text? with
  | none => .ok .empty
  | some text =>
    match Toml.Document.read text.toList with
    | .ok tables => .ok (Table.ofList tables)
    | .error (.duplicateKey key) => .error (.duplicateKey key)
    | .error .redefinedTable => .error .redefinedTable
    | .error _ => .error (.corrupted file.name)

/-- What the names of the variables of a connection start with. -/
def variableStart (name : String) : String :=
  "SNOWFLAKE_CONNECTIONS_" ++ Text.upper name ++ "_"

/-- A text without any occurrence of a part that is not empty, found from the left; `skip`
characters are still left out. -/
def eraseAll (part : List Char) : Nat → List Char → List Char
  | _, [] => []
  | skip + 1, _ :: rest => eraseAll part skip rest
  | 0, c :: rest =>
    if part.isPrefixOf (c :: rest) then eraseAll part (part.length - 1) rest
    else c :: eraseAll part 0 rest

def variableKey (start name : String) : String :=
  Text.lower (String.ofList (eraseAll start.toList 0 name.toList))

/-- The settings that variables give a connection, by key. -/
def fromEnvironment (env : Environment) (name : String) : Table String :=
  let start := variableStart name
  Table.ofList ((env.entries.filter fun (name, _) => start.toList.isPrefixOf name.toList).map
    fun (name, value) => (variableKey start name, value))

/-- The table of a connection with the settings of the environment put to it. -/
def merge (tables : Table (List (String × Value))) (env : Environment) (name : String) :
    Except Error (Table Value) :=
  let overrides := fromEnvironment env name
  match tables.get? name with
  | none =>
    if overrides.isEmpty then .error (.notConfigured name)
    else .ok (overrides.map fun _ value => .text value)
  | some entries =>
    .ok ((Table.ofList entries).insertAll
      (overrides.entries.map fun (key, value) => (key, .text value)))

def lookup (file : ConnectionsFile) (env : Environment) (name : String) :
    Except Error (Table Value) := do
  merge (← load file) env name

def settings (file : ConnectionsFile) (env : Environment) (name : String) :
    Except Error Settings := do
  Settings.ofEntries (← lookup file env name).entries

def source : String := "snowflake.dsn.config"

/-- What reading a connections file reports before it starts. -/
def records (file : ConnectionsFile) : List Record :=
  match file.text? with
  | none => [⟨source, .debug, "Connections file " ++ file.name ++ " does not exist"⟩]
  | some _ => [⟨source, .info, "Reading connections from " ++ file.name⟩]

end Connections

end DataSource
