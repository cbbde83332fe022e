import DataSource.Settings.Dictionary
import DataSource.Text.FormEscape
import DataSource.Text.Search

/-!
# Queries

A query is pieces `key=value` with ampersands between them. Each piece sets a field or a parameter,
from left to right, so that the last piece of a key counts. A piece without an equals sign is no
setting. The first piece that fails ends the query, and what the pieces before it have set remains.
-/

namespace DataSource.Name

def queryPieces (query : List Char) : List (List Char) := query.splitOn '&'

/-- The key and the value of a piece, if it has an equals sign. -/
def splitPiece (piece : List Char) : Option (List Char × List Char) := Text.cut (· == '=') piece

/-- Sets the field or the parameter of a key to a value. -/
def setByKey (s : Settings) (key value : String) : Except NameError Settings :=
  match Field.ofQueryKey? key with
  | none => .ok (s.putParam key value)
  | some f =>
    match f.kind.ofText? value with
    | some x => .ok (s.put f x)
    | none => .error (.parameter key value)

def applyPiece (s : Settings) (piece : List Char) : Except NameError Settings :=
  match splitPiece piece with
  | none => .ok s
  | some (key, raw) =>
    match FormEscape.unescape raw with
    | .error part => .error (.escape (String.ofList part))
    | .ok value => setByKey s (String.ofList key) (String.ofList value)

/-- How far a query was applied: the settings it has led to, and the error that has ended it. -/
structure Applied where
  settings : Settings
  error? : Option NameError

/-- Applies pieces in order, up to the first that fails. -/
def applyPieces (s : Settings) : List (List Char) → Applied
  | [] => ⟨s, none⟩
  | piece :: rest =>
    match applyPiece s piece with
    | .ok s' => applyPieces s' rest
    | .error error => ⟨s, some error⟩

theorem applyPieces_append (s : Settings) (first second : List (List Char)) :
    applyPieces s (first ++ second) =
      match (applyPieces s first).error? with
      | none => applyPieces (applyPieces s first).settings second
      | some _ => applyPieces s first := by
  induction first generalizing s with
  | nil => rfl
  | cons piece rest ih =>
    cases h : applyPiece s piece with
    | ok s' => simp [applyPieces, h, ih]
    | error error => simp [applyPieces, h]

def applyQuery (s : Settings) (query : List Char) : Applied := applyPieces s (queryPieces query)

def Applied.result (a : Applied) : Except NameError Settings :=
  match a.error? with
  | none => .ok a.settings
  | some error => .error error

def secretKeys : List (List Char) := ["passcode".toList, "proxyPassword".toList]

/-- A piece with its value masked if it is a secret. -/
def maskPiece (piece : List Char) : List Char :=
  match splitPiece piece with
  | some (key, _) => if key ∈ secretKeys then key ++ "=****".toList else piece
  | none => piece

def maskQuery (query : List Char) : List Char :=
  ['&'].intercalate ((queryPieces query).map maskPiece)

end DataSource.Name
