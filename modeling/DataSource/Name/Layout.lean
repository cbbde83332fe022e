import DataSource.Text.Search

/-!
# The layout of a data source name

A data source name has one of the forms

* `user:password@account/database/schema?query`
* `user:password@account/database?query`
* `user:password@host:port?query`

and in every form the password, the credentials and the query may be left out. `Layout.locate` finds
where the parts of a name lie. It searches from the end of the name, so that credentials may contain
the characters that separate parts further right.
-/

namespace DataSource.Name

structure Layout where
  /-- The at sign that ends the credentials. -/
  atSign? : Option Nat
  /-- The end of the account, or of host and port. -/
  targetEnd : Nat
  /-- The slash in front of the database and the last slash; they are one if there is no schema. -/
  slashes? : Option (Nat × Nat)
  /-- The question mark in front of the query, or the end of the name. -/
  queryStart : Nat
  /-- Whether there is a target; a name whose only slash comes first has none. -/
  hasTarget : Bool
  deriving DecidableEq, Repr

namespace Layout

def hasPath (l : Layout) : Bool := l.slashes?.isSome

def hasSchema (l : Layout) : Bool :=
  match l.slashes? with
  | some (first, last) => first != last
  | none => false

def targetStart (l : Layout) : Nat := (l.atSign?.map (· + 1)).getD 0

/-- The first question mark from `start` on, or the end of the text. -/
def queryFrom (text : List Char) (start : Nat) : Nat :=
  (Text.find? text ['?'] start).getD text.length

def locateWithoutPath (text : List Char) : Layout :=
  let atSign? := Text.findLast? text ['@']
  let query := queryFrom text ((atSign?.map (· + 1)).getD 0)
  { atSign?, targetEnd := query, slashes? := none, queryStart := query, hasTarget := true }

/-- The layout of a name whose last slash is at `last`. The leftmost slash after the credentials
separates the target from the database. -/
def locateWithPath (text : List Char) (last : Nat) : Layout :=
  let query := queryFrom text (last + 1)
  if last = 0 then
    { atSign? := none, targetEnd := 0, slashes? := some (0, 0), queryStart := query, hasTarget := false }
  else
    let atSign? := Text.findLast? text ['@'] (some last)
    let first := (Text.find? text ['/'] ((atSign?.map (· + 1)).getD 0 : Nat) (some last)).getD last
    { atSign?, targetEnd := first, slashes? := some (first, last), queryStart := query,
      hasTarget := true }

def locate (text : List Char) : Layout :=
  match Text.findLast? text ['/'] with
  | none => locateWithoutPath text
  | some last => locateWithPath text last

end Layout

end DataSource.Name
