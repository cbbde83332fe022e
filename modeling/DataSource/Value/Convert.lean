import DataSource.Value.Basic
import DataSource.Number.Integer

/-!
# Reading values strictly

A truth value is one of twelve spellings and an integer is one of 64 bits; anything else is refused,
and a refusal says why.
-/

namespace DataSource

/-- Why a value is not what it was read as. -/
inductive ConvertError where
  | notFlag (text : String)
  | notInteger (text : String)
  | tooManyDigits
  | outOfRange (n : Int)
  deriving DecidableEq, Repr

namespace ConvertError

def ofFault (text : String) : Integer.Fault → ConvertError
  | .notInteger => notInteger text
  | .tooManyDigits => tooManyDigits
  | .outOfRange n => outOfRange n

def message : ConvertError → String
  | notFlag text => "Could not cast " ++ text ++ " to bool value"
  | notInteger text => "Could not cast " ++ text ++ " to int value"
  | tooManyDigits => "<too many digits>"
  | outOfRange n => "Value " ++ toString n ++ " is out of range"

end ConvertError

def flagSpellings : List (String × Bool) := [
  ("1", true), ("t", true), ("T", true), ("true", true), ("True", true), ("TRUE", true),
  ("0", false), ("f", false), ("F", false), ("false", false), ("False", false), ("FALSE", false)]

def readFlag (text : String) : Except ConvertError Bool :=
  match flagSpellings.lookup text with
  | some b => .ok b
  | none => .error (.notFlag text)

def readInteger (text : String) : Except ConvertError Int :=
  (Integer.read text.toList).mapError (ConvertError.ofFault text)

namespace Value

/-- A value as a truth value; one that is not a truth value is read by its text. -/
def toFlag : Value → Except ConvertError Bool
  | flag b => .ok b
  | v => readFlag v.toText

def toInteger : Value → Except ConvertError Int
  | integer n => (Integer.fit n).mapError (ConvertError.ofFault (toString n))
  | text s => readInteger s
  | v => .error (.notInteger v.toText)

end Value

end DataSource
