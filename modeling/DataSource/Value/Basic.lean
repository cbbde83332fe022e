import DataSource.Moment
import DataSource.Number.Real
import DataSource.Text.Quoted

/-!
# Dynamic values

The values that a configuration file or a dictionary of settings may hold. `Value.text` is a value
for reading, where a text is itself; `Value.summary` is a value as it stands inside another one or
in a message, where a text is quoted.
-/

namespace DataSource

/-- A value of a kind known only when it is read. -/
inductive Value where
  | null
  | flag (b : Bool)
  | integer (n : Int)
  | real (x : Binary64)
  | text (s : String)
  | list (items : List Value)
  | mapping (entries : List (String × Value))
  | duration (d : Duration)
  | moment (m : Moment)

namespace Value

instance : Inhabited Value := ⟨null⟩

def flagName (b : Bool) : String := if b then "True" else "False"

mutual

def summary : Value → String
  | null => "None"
  | flag b => flagName b
  | integer n => toString n
  | real x => x.text
  | text s => Text.quoted s
  | list items => "[" ++ ", ".intercalate (summaries items) ++ "]"
  | mapping entries => "\x7b" ++ ", ".intercalate (entrySummaries entries) ++ "\x7d"
  | duration d => d.summary
  | moment m => m.summary Text.quoted

def summaries : List Value → List String
  | [] => []
  | v :: rest => v.summary :: summaries rest

def entrySummaries : List (String × Value) → List String
  | [] => []
  | (key, v) :: rest => (Text.quoted key ++ ": " ++ v.summary) :: entrySummaries rest

end

def toText : Value → String
  | text s => s
  | duration d => d.text
  | moment m => m.text
  | v => v.summary

/-- Whether a value counts as present: not null, not false, not zero and not empty. -/
def isPresent : Value → Bool
  | null => false
  | flag b => b
  | integer n => n != 0
  | real x => !x.isZero
  | text s => !s.isEmpty
  | list items => !items.isEmpty
  | mapping entries => !entries.isEmpty
  | duration d => !d.isZero
  | moment _ => true

end Value

end DataSource
