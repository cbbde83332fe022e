import DataSource.Error
import DataSource.Settings.Basic

/-!
# Settings as a dictionary

A flat dictionary of values gives settings, and settings give the dictionary of what they set. Keys
that name no field become parameters. `Settings.ofEntries` reads a dictionary and
`Settings.toTable` writes one, with durations in whole seconds.
-/

namespace DataSource

/-! ## Contents and values -/

namespace Kind

def ofText? : (k : Kind) → String → Option k.Content
  | text, s => some s
  | flag, s => (readFlag s).toOption
  | duration, s => (readInteger s).toOption.bind Duration.ofSeconds?
  | integer, s => (readInteger s).toOption

/-- The content that a value stands for; a duration stands for itself, and every value has a
text. -/
def ofValue? : (k : Kind) → Value → Option k.Content
  | text, v => some v.toText
  | flag, v => v.toFlag.toOption
  | duration, .duration d => some d
  | duration, v => v.toInteger.toOption.bind Duration.ofSeconds?
  | integer, v => v.toInteger.toOption

theorem ofValue?_text (k : Kind) (s : String) : k.ofValue? (.text s) = k.ofText? s := by
  cases k <;> rfl

def toValue : (k : Kind) → k.Content → Value
  | text, s => .text s
  | flag, b => .flag b
  | duration, d => .duration d
  | integer, n => .integer n

end Kind

namespace Field

/-- The name of a field in a message; the port of a proxy is a port like any other. -/
def shortName : Field → String
  | proxyPort => "port"
  | f => f.name

end Field

namespace Settings

/-! ## Reading a dictionary -/

/-- The text of a parameter: truth values are written in lower case. -/
def paramText : Value → String
  | .flag b => if b then "true" else "false"
  | v => v.toText

/-- Takes up one entry of a dictionary. A null is no entry, a dictionary under `params` is a
dictionary of parameters, and so is every key that names no field a parameter. -/
def addEntry (s : Settings) (key : String) (value : Value) : Except Error Settings :=
  match value with
  | .null => .ok s
  | _ =>
    match Field.ofName? key with
    | some f =>
      match f.kind.ofValue? value with
      | some x => .ok (s.put f x)
      | none => .error (.setting f.shortName value)
    | none =>
      match key, value with
      | "params", .mapping entries =>
        .ok { s with params := s.params.insertAll (entries.map fun (k, v) => (k, paramText v)) }
      | _, _ => .ok (s.putParam key (paramText value))

def ofEntries (entries : List (String × Value)) : Except Error Settings :=
  entries.foldlM (fun s (key, value) => s.addEntry key value) {}

/-! ## Writing a dictionary -/

/-- A value as it is kept in a dictionary: a duration is its whole seconds. -/
def keptValue : Value → Value
  | .duration d => .integer d.wholeSeconds
  | v => v

def paramsValue (s : Settings) : Value := .mapping (s.params.entries.map fun (k, v) => (k, .text v))

/-- The fields that are set, and the parameters if there are any. -/
def toTable (s : Settings) : Table Value :=
  let fields := Field.all.filterMap fun f =>
    let value := keptValue (f.kind.toValue (s.get f))
    if value.isPresent then some (f.name, value) else none
  Table.ofList (fields ++ if s.params.isEmpty then [] else [("params", s.paramsValue)])

/-! ## The summary -/

def fieldSummary (s : Settings) (label : String) (f : Field) : String :=
  label ++ "=" ++ (f.kind.toValue (s.get f)).summary

/-- The settings in one line, without secrets. -/
def summary (s : Settings) : String :=
  let own := [Field.account, .user, .region, .protocol, .host, .port, .database, .schema, .warehouse,
    .role, .authenticator, .passcodeInPassword, .loginTimeout, .requestTimeout, .application,
    .insecureMode]
  let proxy := [("host", Field.proxyHost), ("port", .proxyPort), ("user", .proxyUser)]
  let proxyText := ", ".intercalate (proxy.map fun (label, f) => s.fieldSummary label f)
  "Config(" ++ ", ".intercalate (own.map (fun f => s.fieldSummary f.name f)
    ++ ["params=" ++ s.paramsValue.summary, "proxy=ProxySettings(" ++ proxyText ++ ")"]) ++ ")"

end Settings

end DataSource
