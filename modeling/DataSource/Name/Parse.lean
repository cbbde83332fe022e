import DataSource.Log
import DataSource.Name.Layout
import DataSource.Name.Query
import DataSource.Name.Target

/-!
# Reading a data source name

`parse` reads the settings that a data source name describes. Credentials and target come first,
then the query, then the path, which wins over the query; an account that is still open is taken
from the host. The settings are then completed. Last of all the names of database, schema, role and
warehouse are unescaped, those from the query a second time.
-/

namespace DataSource.Name

/-! ## The steps -/

/-- The settings that credentials and target give. -/
def readTarget (text : List Char) (layout : Layout) : Except NameError Settings :=
  if layout.hasTarget then
    let (user, password) :=
      match layout.atSign? with
      | some atSign => readCredentials text atSign
      | none => ([], [])
    match Target.read text layout.targetStart layout.targetEnd with
    | .error error => .error error
    | .ok target =>
      .ok
        { user := String.ofList user
          password := String.ofList password
          region := String.ofList target.region
          account := String.ofList target.account
          host := String.ofList target.host
          port := target.port }
  else .ok {}

def queryOf? (text : List Char) (layout : Layout) : Option (List Char) :=
  if layout.queryStart < text.length then
    some (Text.slice text (layout.queryStart + 1) text.length)
  else none

def setPath (s : Settings) (text : List Char) (layout : Layout) : Settings :=
  match layout.slashes? with
  | none => s
  | some (first, last) =>
    if first = last then
      { s with
        database := String.ofList (Text.slice text (last + 1) layout.queryStart)
        schema := defaultSchema }
    else
      { s with
        database := String.ofList (Text.slice text (first + 1) last)
        schema := String.ofList (Text.slice text (last + 1) layout.queryStart) }

/-- Takes an open account from the host: what stands before its first dot, if it is a host of the
domain. -/
def setAccount (s : Settings) : Settings :=
  if s.account = "" ∧ Text.endsWith s.host.toList dottedDomain.toList then
    match Text.find? s.host.toList ['.'] 0 with
    | some dot =>
      if 0 < dot then { s with account := String.ofList (s.host.toList.take dot) } else s
    | none => s
  else s

def unescape (s : String) : Except NameError String :=
  match FormEscape.unescape s.toList with
  | .ok text => .ok (String.ofList text)
  | .error part => .error (.escape (String.ofList part))

/-- Unescapes the names of database, schema, role and warehouse. -/
def unescapeNames (s : Settings) : Except NameError Settings := do
  let database ← unescape s.database
  let schema ← unescape s.schema
  let role ← unescape s.role
  let warehouse ← unescape s.warehouse
  return { s with database, schema, role, warehouse }

/-! ## The whole -/

def parse (name : String) : Except NameError Settings := do
  let text := name.toList
  let layout := Layout.locate text
  let s ← readTarget text layout
  let s ←
    match queryOf? text layout with
    | none => pure s
    | some query => (applyQuery s query).result
  let s ← (setAccount (setPath s text layout)).complete
  unescapeNames s

/-- The part of the library that reads names, as its records name it. -/
def parseSource : String := "snowflake.dsn.parser"

/-- What reading a name reports: its query, as soon as the target is read, and the settings. -/
def parseRecords (name : String) : List Record :=
  let text := name.toList
  let layout := Layout.locate text
  match readTarget text layout with
  | .error _ => []
  | .ok _ =>
    let query :=
      match queryOf? text layout with
      | none => []
      | some query =>
        [⟨parseSource, .debug, "Query string: " ++ String.ofList (maskQuery query)⟩]
    let parsed :=
      match parse name with
      | .error _ => []
      | .ok s => [⟨parseSource, .debug, "Parsed DSN into " ++ s.summary⟩]
    query ++ parsed

end DataSource.Name
