import DataSource.Log
import DataSource.Name.Target
import DataSource.Settings.Basic
import DataSource.Text.FormEscape

/-!
# Writing a data source name

`build` writes the settings of a connection as a data source name: user, password, host and port, and
a query with everything that differs from its default, sorted by key. The proxy is left out.
-/

namespace DataSource.Name

/-! ## What is written -/

def derivedHost (s : Settings) : String :=
  if s.region = "" then s.account ++ dottedDomain else s.account ++ "." ++ s.region ++ dottedDomain

/-- The settings as they are written: with a host, the account without its region, and completed. -/
def normalize (s : Settings) : Except NameError Settings :=
  let (region, account) := splitRegion s.account.toList s.region.toList
  Settings.complete
    { s with
      host := if s.host = "" then derivedHost s else s.host
      region := String.ofList region
      account := String.ofList account }

/-- Whether the host tells the account: it is a host of the domain whose part before the first dot
is the account. -/
def accountInHost (s : Settings) : Bool :=
  Text.endsWith s.host.toList dottedDomain.toList
    && s.host.toList.takeWhile (· != '.') == s.account.toList

def secondsText (d : Duration) : String := toString d.wholeSeconds

/-- A pair of a query, if it is needed. -/
def pairIf (needed : Bool) (key value : String) : List (String × String) :=
  if needed then [(key, value)] else []

/-- The parameters under keys that no field has. -/
def ownParams (s : Settings) : List (String × String) :=
  s.params.entries.filter fun (key, _) => (Field.ofQueryKey? key).isNone

def queryPairs (s : Settings) : List (String × String) :=
  pairIf (!accountInHost s) "account" s.account
    ++ pairIf (s.database != "") "database" s.database
    ++ pairIf (s.schema != "") "schema" s.schema
    ++ pairIf (s.warehouse != "") "warehouse" s.warehouse
    ++ pairIf (s.role != "") "role" s.role
    ++ pairIf (s.region != "") "region" s.region
    ++ pairIf (s.protocol != defaultProtocol) "protocol" s.protocol
    ++ pairIf (s.authenticator != defaultAuthenticator) "authenticator" s.authenticator
    ++ pairIf (s.passcode != "") "passcode" s.passcode
    ++ pairIf s.passcodeInPassword "passcodeInPassword" "true"
    ++ pairIf (s.loginTimeout != defaultLoginTimeout) "loginTimeout" (secondsText s.loginTimeout)
    ++ pairIf (s.requestTimeout != defaultRequestTimeout) "requestTimeout"
        (secondsText s.requestTimeout)
    ++ pairIf (s.application != defaultApplication) "application" s.application
    ++ pairIf s.insecureMode "insecureMode" "true"
    ++ ownParams s

/-! ## The query -/

/-- Inserts a pair into pairs sorted by key, in front of the pairs of its own key. -/
def insertPair (pair : String × String) : List (String × String) → List (String × String)
  | [] => [pair]
  | next :: rest => if pair.1 ≤ next.1 then pair :: next :: rest else next :: insertPair pair rest

/-- Pairs sorted by key; pairs of one key keep their order. -/
def sortPairs (pairs : List (String × String)) : List (String × String) :=
  pairs.foldr insertPair []

theorem insertPair_perm (pair : String × String) (pairs : List (String × String)) :
    (insertPair pair pairs).Perm (pair :: pairs) := by
  induction pairs with
  | nil => exact List.Perm.refl _
  | cons next rest ih =>
    unfold insertPair
    split
    · exact List.Perm.refl _
    · exact (ih.cons next).trans (List.Perm.swap pair next rest)

theorem sortPairs_perm (pairs : List (String × String)) : (sortPairs pairs).Perm pairs := by
  induction pairs with
  | nil => exact List.Perm.refl _
  | cons pair rest ih => exact (insertPair_perm pair _).trans (ih.cons pair)

def pieceOf (pair : String × String) : List Char :=
  FormEscape.escape pair.1.toList ++ '=' :: FormEscape.escape pair.2.toList

def queryText (pairs : List (String × String)) : List Char :=
  ['&'].intercalate ((sortPairs pairs).map pieceOf)

/-! ## The name -/

/-- The name of settings that are complete. -/
def write (s : Settings) : String :=
  let query := queryText (queryPairs s)
  s.user ++ ":" ++ s.password ++ "@" ++ s.host ++ ":" ++ toString s.port
    ++ (if query.isEmpty then "" else "?" ++ String.ofList query)

def build (s : Settings) : Except NameError String := (normalize s).map write

/-- The part of the library that writes names, as its records name it. -/
def buildSource : String := "snowflake.dsn.serializer"

/-- What writing a name reports. -/
def buildRecords (s : Settings) : List Record :=
  match normalize s with
  | .error _ => []
  | .ok s =>
    [⟨buildSource, .debug, "Built DSN for " ++ s.user ++ "@" ++ s.host ++ ":" ++ toString s.port⟩]

end DataSource.Name
