import DataSource.Error
import DataSource.Settings.Complete
import DataSource.Text.Search

/-!
# Credentials and target

What stands before and after the at sign of a data source name: the user with an optional password,
and either a host with a port or an account, which may carry its region after a dot.
-/

namespace DataSource.Name

/-- The user and the password in front of the position `stop`; the first colon separates them. -/
def readCredentials (text : List Char) (stop : Int) : List Char × List Char :=
  match Text.find? text [':'] 0 (some stop) with
  | none => (Text.slice text 0 stop, [])
  | some colon => (Text.slice text 0 colon, Text.slice text (colon + 1) stop)

/-- The region and the account of an account name, which may be an account and a region with a dot
between them; without one, the region is `region`. -/
def splitRegion (account region : List Char) : List Char × List Char :=
  match Text.find? account ['.'] 0 with
  | none => (region, account)
  | some dot => if dot = 0 then (region, account) else (account.drop (dot + 1), account.take dot)

structure Target where
  region : List Char
  account : List Char
  host : List Char
  port : Int
  deriving DecidableEq, Repr

namespace Target

/-- The target that a host text and a port make: without a port, a text outside the domain is the
name of an account. -/
def ofHost (host : List Char) (port : Int) : Target :=
  if port = 0 ∧ !Text.endsWith host domain.toList then
    let (region, account) := splitRegion host []
    { region, account, host := host ++ dottedDomain.toList, port := defaultPort }
  else
    { region := [], account := [], host, port }

/-- The target between two positions; the text after its first colon is the port. -/
def read (text : List Char) (start stop : Int) : Except NameError Target :=
  match Text.find? text [':'] start (some stop) with
  | none => .ok (ofHost (Text.slice text start stop) 0)
  | some colon =>
    let portText := Text.slice text (colon + 1) stop
    match Integer.read portText with
    | .ok port => .ok (ofHost (Text.slice text start colon) port)
    | .error _ => .error (.port (String.ofList portText))

end Target

end DataSource.Name
