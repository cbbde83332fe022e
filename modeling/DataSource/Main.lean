import DataSource.Command.Run
import Std.Time.Format

/-!
# The program

Gathers what the command line needs from the system, carries the line out, and prints the result.

Texts that belong to others are left out: those of a misused line, the help of a single command, and where
a connections file is corrupted; the texts of numbers that are too large are placeholders. A boxed table
takes a character for one column and breaks no line. Of the set-up of the log there is what comes of it,
which records are shown and how.
-/

namespace DataSource.Command

/-- The variables of a block in which each ends with a zero byte. -/
def variablesOf (block : String) : Environment :=
  Table.ofList <| (block.splitOn "\x00").filterMap fun entry =>
    (Text.cut (· == '=') entry.toList).map fun (name, value) =>
      (String.ofList name, String.ofList value)

def getEnvironment : IO Environment := do
  try
    let bytes ← IO.FS.readBinFile "/proc/self/environ"
    return variablesOf ((String.fromUTF8? bytes).getD "")
  catch _ => return .empty

def getText? (path : String) : IO (Option String) := do
  try return some (← IO.FS.readFile path)
  catch _ => return none

def getDefaultFile : IO String := do
  return ((← IO.getEnv "HOME").getD "") ++ "/.snowflake/connections.toml"

def getStamp : IO String := do
  try return (← Std.Time.PlainDateTime.now).format "uuuu-MM-dd HH:mm:ss"
  catch _ => return "-"

/-- The connections file that a line names. -/
def namedFile? (words : List String) : Option String :=
  match Request.read? (fun _ => true) words with
  | some ⟨_, .connection _ file?⟩ => file?
  | _ => none

def getSurroundings (words : List String) : IO Surroundings := do
  let defaultFile ← getDefaultFile
  let path := (namedFile? words).getD defaultFile
  let text? ← getText? path
  return {
    environment := ← getEnvironment
    defaultFile
    fileText? := fun p => if p = path then text? else none }

end DataSource.Command

open DataSource.Command in
def main (words : List String) : IO UInt32 := do
  let printed := run (← getSurroundings words) (← getStamp) words
  (← IO.getStdout).putStr printed.output
  let tail := match printed.ending with
    | .misuse => helpText
    | .surprise error | .passedOn error => error.message ++ "\n"
    | .success | .failure _ => ""
  (← IO.getStderr).putStr (printed.log ++ tail)
  return UInt32.ofNat printed.ending.code
