import DataSource.Command.Line
import DataSource.Connections
import DataSource.Name.Build
import DataSource.Name.Parse

/-!
# Commands

`run` carries out a command line as a function: what it prints, what it logs and how it ends depend
on the words of the line, the environment and the files there are, and on nothing else.
-/

namespace DataSource.Command

/-! ## How a command ends -/

structure Surroundings where
  environment : Environment
  /-- The connections file that is read if the line names none. -/
  defaultFile : String
  /-- The text of a file, if there is one. -/
  fileText? : String → Option String

/-- How a command ends: well, at an error that the user can mend, at a misused line, or at an error
that nobody expected, which is passed on as it is if the line asks for debugging. -/
inductive Ending where
  | success
  | failure (error : Error)
  | misuse
  | surprise (error : Error)
  | passedOn (error : Error)

structure Outcome where
  ending : Ending
  output : String
  records : List Record

namespace Outcome

def printed (records : List Record) (output : String) : Outcome := ⟨.success, output, records⟩

def stopped (records : List Record) (error : Error) : Outcome :=
  ⟨if error.isExpected then .failure error else .surprise error, "", records⟩

def ofResult (records : List Record) : Except Error String → Outcome
  | .ok output => printed records output
  | .error error => stopped records error

end Outcome

/-! ## The commands -/

def versionText : String := "snow-dsn version: 0.1.0\n"

def helpText : String := "\n".intercalate [
  "Usage: snow-dsn [--verbose | --debug] [--version] COMMAND",
  "",
  "Commands:",
  "  parse DSN [--format TABLE|JSON]",
  "  build --account A --user U --password P [OPTION VALUE]... [--param KEY=VALUE]...",
  "  connection NAME [--connections-file FILE]",
  ""]

def runParse (name : String) (format : Format) : Outcome :=
  let records := Name.parseRecords name
  match Name.parse name with
  | .error error => .stopped records (.name error)
  | .ok s => .ofResult records (Report.print format (Report.maskSecrets s.toTable))

/-- Shows the data source name of settings, after the records of what has led to them. -/
def showName (records : List Record) (s : Settings) : Outcome :=
  .ofResult (records ++ Name.buildRecords s)
    (((Name.build s).map (· ++ "\n")).mapError Error.name)

def readParams (words : List String) : Except Error (Table String) :=
  words.foldlM (fun t word =>
    match Text.cut (· == '=') word.toList with
    | none | some ([], _) => .error (.notKeyValue word)
    | some (key, value) => .ok (t.insert (String.ofList key) (String.ofList value))) .empty

def readSeconds (n : Int) : Except Error Duration :=
  match Duration.ofSeconds? n with
  | some d => .ok d
  | none => .error .durationRange

def BuildInput.read (input : BuildInput) : Except Error Settings := do
  let loginTimeout ← readSeconds input.loginSeconds
  let requestTimeout ← readSeconds input.requestSeconds
  let params ← readParams input.params
  return { input.settings with loginTimeout, requestTimeout, params }

def runBuild (input : BuildInput) : Outcome :=
  match input.read with
  | .error error => .stopped [] error
  | .ok s => showName [] s

def source : String := "snowflake.dsn._app.cli_app"

def runConnection (around : Surroundings) (name : String) (file? : Option String) : Outcome :=
  let path := file?.getD around.defaultFile
  let file : ConnectionsFile := ⟨path, around.fileText? path⟩
  let records := Connections.records file
  match Connections.settings file around.environment name with
  | .error error => .stopped records error
  | .ok s => showName (records ++ [⟨source, .info, "Building DSN for connection " ++ name⟩]) s

def runTask (around : Surroundings) : Task → Outcome
  | .parse name format => runParse name format
  | .build input => runBuild input
  | .connection name file? => runConnection around name file?
  | .help => .printed [] helpText
  | .version => .printed [] versionText

/-! ## The line as a whole -/

/-- The records that a verbosity lets through. -/
def Verbosity.shown (v : Verbosity) (records : List Record) : List Record :=
  match v with
  | quiet => []
  | verbose => records.filter (·.level == .info)
  | debug => records

/-- A record as a line with the time `stamp`; where records come from is shown for debugging. -/
def Verbosity.line (v : Verbosity) (stamp : String) (r : Record) : String :=
  let source := if v = debug then "[" ++ r.source ++ "] " else ""
  stamp ++ " " ++ r.level.name ++ " " ++ source ++ r.message ++ "\n"

/-- What is said before the text of an error that nobody expected. -/
def surpriseNotice : String :=
  "\nAn unexpected exception occurred. Use --debug option to see the traceback. "
    ++ "Exception message:\n\n"

/-- What a line prints: its standard output, and its log with the text of an error. -/
structure Printed where
  ending : Ending
  output : String
  log : String

/-- Carries out a line; `stamp` is the time in its log. -/
def run (around : Surroundings) (stamp : String) (words : List String) : Printed :=
  match Request.read? (fun path => (around.fileText? path).isSome) words with
  | none => ⟨.misuse, "", ""⟩
  | some request =>
    let outcome := runTask around request.task
    let shown := request.verbosity.shown outcome.records
    let log := String.join (shown.map (request.verbosity.line stamp))
    match outcome.ending with
    | .failure error => ⟨.failure error, outcome.output, log ++ "Error: " ++ error.report ++ "\n"⟩
    | .surprise error =>
      if words.contains "--debug" then ⟨.passedOn error, outcome.output, log⟩
      else ⟨.surprise error, outcome.output, log ++ surpriseNotice⟩
    | ending => ⟨ending, outcome.output, log⟩

/-- The number that a program ends with. -/
def Ending.code : Ending → Nat
  | success => 0
  | misuse => 2
  | failure _ | surprise _ | passedOn _ => 1

end DataSource.Command
