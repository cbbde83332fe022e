import DataSource.Report.Box
import DataSource.Report.Json
import DataSource.Table

/-!
# Printing settings

A dictionary of settings is printed as a boxed table or as JSON; secrets are masked first.
-/

namespace DataSource

inductive Format where
  | table
  | json
  deriving DecidableEq, Repr

namespace Report

def mask : Value := .text "****"

def secretKeys : List String := ["password", "passcode", "proxy_password"]

/-- The entries with the secrets masked that are present. -/
def maskSecrets (t : Table Value) : Table Value :=
  t.map fun key v => if key ∈ secretKeys ∧ v.isPresent then mask else v

def print (format : Format) (t : Table Value) : Except Error String :=
  match format with
  | .table => .ok (Box.render t.entries)
  | .json => (Json.render 0 (.mapping t.entries)).map (· ++ "\n")

end Report

end DataSource
