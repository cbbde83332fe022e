import DataSource.Number.Integer
import DataSource.Report.Print
import DataSource.Settings.Basic
import DataSource.Text.Search
import DataSource.Text.Case

/-!
# The command line

A command line is read in two steps. `scan` sorts words into options and arguments, by the rules
that most programs keep: an option takes the word after it or what follows an equals sign in its own
word, words of one dash are bundles of one-letter switches, and two dashes end the options.
`Request.read?` makes a request of options and arguments; it makes none of a line that is misused.
-/

namespace DataSource.Command

/-! ## Words -/

/-- An option: its names, of which the first is the one it is known by, and whether it takes a
value. -/
structure OptionSpec where
  names : List String
  hasValue : Bool

/-- A command: its options, and whether options may stand after arguments. -/
structure Spec where
  options : List OptionSpec
  mixed : Bool

namespace Spec

def find? (spec : Spec) (name : String) : Option OptionSpec :=
  spec.options.find? fun option => option.names.contains name

def hasSwitch (spec : Spec) (letter : Char) : Bool :=
  match spec.find? (String.ofList ['-', letter]) with
  | some option => !option.hasValue
  | none => false

/-- The name that an option is known by. -/
def known (spec : Spec) (name : String) : String :=
  match spec.find? name with
  | some option => option.names.headD name
  | none => name

end Spec

/-- The options of a line in order, each with its value, and the arguments. A switch has no value. -/
structure Scanned where
  options : List (String × Option String) := []
  arguments : List String := []

namespace Scanned

def withOption (s : Scanned) (name : String) (value : Option String) : Scanned :=
  { s with options := (name, value) :: s.options }

def hasSwitch (s : Scanned) (name : String) : Bool := s.options.any (·.1 == name)

def valuesOf (s : Scanned) (name : String) : List String :=
  s.options.filterMap fun (n, value) => if n = name then value else none

/-- The value of an option; the last one counts. -/
def valueOf? (s : Scanned) (name : String) : Option String := (s.valuesOf name).getLast?

end Scanned

inductive Word where
  | endOfOptions
  | argument
  | switch (names : List String)
  | option (name : String) (value? : Option String)
  | unknown

def Spec.classify (spec : Spec) (word : String) : Word :=
  match word.toList with
  | ['-', '-'] => .endOfOptions
  | '-' :: second :: rest =>
    let (name, value?) :=
      match Text.cut (· == '=') word.toList with
      | some (name, value) => (String.ofList name, some (String.ofList value))
      | none => (word, none)
    match spec.find? name with
    | some option =>
      if second = '-' then
        if option.hasValue then .option (spec.known name) value?
        else if value?.isSome then .unknown
        else .switch [spec.known name]
      else if value?.isSome then .unknown
      else .switch [spec.known name]
    | none =>
      if second ≠ '-' ∧ (second :: rest).all spec.hasSwitch then
        .switch ((second :: rest).map fun letter => spec.known (String.ofList ['-', letter]))
      else .unknown
  | _ => .argument

/-- Sorts the words of a line; nothing if an option is unknown, or has a value too many or too
few. -/
def scan (spec : Spec) : List String → Option Scanned
  | [] => some {}
  | word :: rest =>
    match spec.classify word with
    | .endOfOptions => some { arguments := rest }
    | .unknown => none
    | .switch names =>
      (scan spec rest).map fun s => names.foldr (fun name s => s.withOption name none) s
    | .option name (some value) => (scan spec rest).map (·.withOption name (some value))
    | .option name none =>
      match rest with
      | [] => none
      | value :: rest => (scan spec rest).map (·.withOption name (some value))
    | .argument =>
      if spec.mixed then
        (scan spec rest).map fun s => { s with arguments := word :: s.arguments }
      else some { arguments := word :: rest }

/-! ## The commands and their options -/

def valued (names : List String) : OptionSpec := ⟨names, true⟩

def helpSwitch : OptionSpec := ⟨["--help", "-h"], false⟩

def globalSpec : Spec where
  options := [⟨["--verbose", "-v"], false⟩, ⟨["--debug"], false⟩, ⟨["--version"], false⟩, helpSwitch]
  mixed := false

def parseSpec : Spec := ⟨[valued ["--format"], helpSwitch], true⟩

def buildSpec : Spec where
  options := [
    valued ["--account"], valued ["--user"], valued ["--password"], valued ["--host"],
    valued ["--port"], valued ["--region"], valued ["--protocol"],
    valued ["--database", "--dbname"], valued ["--schema", "--schemaname"], valued ["--warehouse"],
    valued ["--role", "--rolename"], valued ["--authenticator"], valued ["--application"],
    valued ["--login-timeout"], valued ["--request-timeout"], valued ["--param"], helpSwitch]
  mixed := true

def connectionSpec : Spec := ⟨[valued ["--connections-file"], helpSwitch], true⟩

/-! ## Requests -/

/-- What the command `build` is given; seconds and parameters are still as written. -/
structure BuildInput where
  settings : Settings
  loginSeconds : Int
  requestSeconds : Int
  params : List String

inductive Task where
  | parse (name : String) (format : Format)
  | build (input : BuildInput)
  | connection (name : String) (file? : Option String)
  | help
  | version

inductive Verbosity where
  | quiet
  | verbose
  | debug
  deriving DecidableEq, Repr

structure Request where
  verbosity : Verbosity
  task : Task

/-- The output format of a word, in letters of either case. -/
def format? (word : String) : Option Format :=
  let upper := Text.upper word
  if upper = "TABLE" then some .table else if upper = "JSON" then some .json else none

/-- The integer of an option, or zero without the option. -/
def integerOf? (s : Scanned) (name : String) : Option Int :=
  match s.valueOf? name with
  | none => some 0
  | some value => Integer.readLoose? value.toList

/-- The text of an option, or the empty text without the option. -/
def textOf (s : Scanned) (name : String) : String := (s.valueOf? name).getD ""

def readParse? (words : List String) : Option Task := do
  let s ← scan parseSpec words
  if s.hasSwitch "--help" then return .help
  let format ← format? ((s.valueOf? "--format").getD "TABLE")
  match s.arguments with
  | [name] => return .parse name format
  | _ => none

def readBuild? (words : List String) : Option Task := do
  let s ← scan buildSpec words
  if s.hasSwitch "--help" then return .help
  let account ← s.valueOf? "--account"
  let user ← s.valueOf? "--user"
  let password ← s.valueOf? "--password"
  let port ← integerOf? s "--port"
  let loginSeconds ← integerOf? s "--login-timeout"
  let requestSeconds ← integerOf? s "--request-timeout"
  let settings : Settings :=
    { account, user, password, port
      host := textOf s "--host"
      region := textOf s "--region"
      protocol := textOf s "--protocol"
      database := textOf s "--database"
      schema := textOf s "--schema"
      warehouse := textOf s "--warehouse"
      role := textOf s "--role"
      authenticator := textOf s "--authenticator"
      application := textOf s "--application" }
  if s.arguments.isEmpty then
    return .build ⟨settings, loginSeconds, requestSeconds, s.valuesOf "--param"⟩
  else none

/-- The task of the words after `connection`; `isFile` tells which files there are. -/
def readConnection? (isFile : String → Bool) (words : List String) : Option Task := do
  let s ← scan connectionSpec words
  if s.hasSwitch "--help" then return .help
  let file? := s.valueOf? "--connections-file"
  match s.arguments with
  | [name] => if (file?.map isFile).getD true then return .connection name file? else none
  | _ => none

/-- The task of a switch that ends a line at once, whatever else it asks for; of several, the first
one counts. -/
def immediate? (s : Scanned) : Option Task :=
  s.options.findSome? fun (name, _) =>
    if name = "--help" then some .help else if name = "--version" then some .version else none

/-- How much a line logs; it may not ask for more than one measure. -/
def verbosity? (s : Scanned) : Option Verbosity :=
  match s.hasSwitch "--verbose", s.hasSwitch "--debug" with
  | true, true => none
  | true, false => some .verbose
  | false, true => some .debug
  | false, false => some .quiet

/-- The request of a line. Where a command is missed, the switches that end a line at once are
looked for once more, so that they also work after two dashes. -/
def Request.read? (isFile : String → Bool) (words : List String) : Option Request := do
  let s ← scan globalSpec words
  match immediate? s, s.arguments with
  | some task, _ => return ⟨.quiet, task⟩
  | none, "parse" :: rest => return ⟨← verbosity? s, ← readParse? rest⟩
  | none, "build" :: rest => return ⟨← verbosity? s, ← readBuild? rest⟩
  | none, "connection" :: rest => return ⟨← verbosity? s, ← readConnection? isFile rest⟩
  | none, words => return ⟨.quiet, ← immediate? (← scan globalSpec words)⟩

end DataSource.Command
