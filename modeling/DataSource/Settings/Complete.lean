import DataSource.Error
import DataSource.Settings.Basic
import DataSource.Text.Search

/-!
# Completing settings

Settings that name an account, a user and a password are completed with the defaults of everything
they leave open, and their host is made to carry their region.
-/

namespace DataSource

/-- What every host of the service ends with. -/
def domain : String := "snowflakecomputing.com"

def dottedDomain : String := ".snowflakecomputing.com"

def defaultProtocol : String := "https"

def defaultPort : Int := 443

/-- The schema of a name with a database and no schema. -/
def defaultSchema : String := "public"

def defaultLoginTimeout : Duration := .minute

/-- The time that a request may take; none is no limit. -/
def defaultRequestTimeout : Duration := .zero

def defaultAuthenticator : String := "snowflake"

def defaultApplication : String := "PythonDSN"

/-- Puts a region in front of the domain of a host, unless it is already there. A host outside the
domain, or with nothing before it, stays as it is. -/
def hostWithRegion (host region : String) : String :=
  match Text.find? host.toList dottedDomain.toList 0 with
  | none => host
  | some i =>
    let head := host.toList.take i
    if i < 1 ∨ Text.endsWith head region.toList then host
    else String.ofList head ++ "." ++ region ++ dottedDomain

namespace Settings

/-- What is missing from settings before anything else is looked at. -/
def missing? (s : Settings) : Option NameError :=
  if s.account = "" then some .emptyAccount
  else if s.user = "" then some .emptyUser
  else if s.password = "" then some .emptyPassword
  else none

def fill (s : Settings) : Settings :=
  { s with
    protocol := if s.protocol = "" then defaultProtocol else s.protocol
    port := if s.port = 0 then defaultPort else s.port
    host := if s.region = "" then s.host else hostWithRegion s.host s.region
    loginTimeout := if s.loginTimeout = .zero then defaultLoginTimeout else s.loginTimeout
    requestTimeout := if s.requestTimeout = .zero then defaultRequestTimeout else s.requestTimeout
    application := if s.application = "" then defaultApplication else s.application
    authenticator := if s.authenticator = "" then defaultAuthenticator else s.authenticator }

/-- The settings with everything open filled in, if nothing is missing. -/
def complete (s : Settings) : Except NameError Settings :=
  match s.missing? with
  | some error => .error error
  | none => .ok s.fill

theorem missing?_eq_none_iff {s : Settings} :
    s.missing? = none ↔ s.account ≠ "" ∧ s.user ≠ "" ∧ s.password ≠ "" := by
  unfold missing?
  by_cases ha : s.account = "" <;> by_cases hu : s.user = "" <;> by_cases hp : s.password = "" <;>
    simp [ha, hu, hp]

theorem complete_eq_ok_iff {s t : Settings} :
    s.complete = .ok t ↔ s.missing? = none ∧ t = s.fill := by
  unfold complete
  cases h : s.missing? with
  | none => simp [eq_comm]
  | some error => simp

end Settings

end DataSource
