import DataSource.Duration
import DataSource.Table

/-!
# Connection settings

Everything that a connection is described by, and the fields that it is made of. Every field has a
kind and a name, and some fields have a key under which a query may set them. `Settings.get` and
`Settings.put` read and write one field; main statements: `get_put`, `get_put_of_ne`.
-/

namespace DataSource

/-- The way out to the network that a connection takes. -/
structure Proxy where
  host : String := ""
  port : Int := 0
  user : String := ""
  password : String := ""
  deriving DecidableEq

def Proxy.isSet (p : Proxy) : Bool := p.host != ""

/-- The settings of a connection; an empty text, zero or `false` stands for what is not set.
`params` has the parameters that are not fields. -/
structure Settings where
  account : String := ""
  user : String := ""
  password : String := ""
  region : String := ""
  protocol : String := ""
  host : String := ""
  port : Int := 0
  database : String := ""
  schema : String := ""
  warehouse : String := ""
  role : String := ""
  authenticator : String := ""
  passcode : String := ""
  passcodeInPassword : Bool := false
  loginTimeout : Duration := .zero
  requestTimeout : Duration := .zero
  application : String := ""
  insecureMode : Bool := false
  params : Table String := .empty
  proxy : Proxy := {}
  deriving DecidableEq

/-! ## Fields -/

inductive Field where
  | account | user | password | region | protocol | host | port | database | schema | warehouse
  | role | authenticator | passcode | passcodeInPassword | loginTimeout | requestTimeout
  | application | insecureMode | proxyHost | proxyPort | proxyUser | proxyPassword
  deriving DecidableEq, Repr

inductive Kind where
  | text | flag | duration | integer
  deriving DecidableEq, Repr

/-- The type of what a field of a kind holds. -/
@[reducible]
def Kind.Content : Kind → Type
  | text => String
  | flag => Bool
  | duration => Duration
  | integer => Int

namespace Field

def all : List Field := [
  account, user, password, region, protocol, host, port, database, schema, warehouse, role,
  authenticator, passcode, passcodeInPassword, loginTimeout, requestTimeout, application,
  insecureMode, proxyHost, proxyPort, proxyUser, proxyPassword]

theorem mem_all (f : Field) : f ∈ all := by cases f <;> decide

@[reducible]
def kind : Field → Kind
  | passcodeInPassword | insecureMode => .flag
  | loginTimeout | requestTimeout => .duration
  | port | proxyPort => .integer
  | _ => .text

def name : Field → String
  | account => "account"
  | user => "user"
  | password => "password"
  | region => "region"
  | protocol => "protocol"
  | host => "host"
  | port => "port"
  | database => "database"
  | schema => "schema"
  | warehouse => "warehouse"
  | role => "role"
  | authenticator => "authenticator"
  | passcode => "passcode"
  | passcodeInPassword => "passcode_in_password"
  | loginTimeout => "login_timeout"
  | requestTimeout => "request_timeout"
  | application => "application"
  | insecureMode => "insecure_mode"
  | proxyHost => "proxy_host"
  | proxyPort => "proxy_port"
  | proxyUser => "proxy_user"
  | proxyPassword => "proxy_password"

/-- The key of a field in a query; user, password, host and port have their place elsewhere. -/
def queryKey? : Field → Option String
  | account => some "account"
  | region => some "region"
  | protocol => some "protocol"
  | database => some "database"
  | schema => some "schema"
  | warehouse => some "warehouse"
  | role => some "role"
  | authenticator => some "authenticator"
  | passcode => some "passcode"
  | passcodeInPassword => some "passcodeInPassword"
  | loginTimeout => some "loginTimeout"
  | requestTimeout => some "requestTimeout"
  | application => some "application"
  | insecureMode => some "insecureMode"
  | proxyHost => some "proxyHost"
  | proxyPort => some "proxyPort"
  | proxyUser => some "proxyUser"
  | proxyPassword => some "proxyPassword"
  | user | password | host | port => none

def ofName? (name : String) : Option Field := all.find? fun f => f.name == name

def ofQueryKey? (key : String) : Option Field := all.find? fun f => f.queryKey? == some key

theorem ofName?_name (f : Field) : ofName? f.name = some f := by cases f <;> decide

theorem name_of_ofName? {f : Field} {name : String} (h : ofName? name = some f) : f.name = name := by
  have := List.find?_some h
  simpa using this

theorem ofQueryKey?_of_queryKey? {f : Field} {key : String} (h : f.queryKey? = some key) :
    ofQueryKey? key = some f := by
  cases f <;> cases h <;> decide

theorem queryKey?_of_ofQueryKey? {f : Field} {key : String} (h : ofQueryKey? key = some f) :
    f.queryKey? = some key := by
  have := List.find?_some h
  simpa using this

def isSecret : Field → Bool
  | password | passcode | proxyPassword => true
  | _ => false

end Field

/-! ## Reading and writing a field -/

namespace Settings

def get (s : Settings) : (f : Field) → f.kind.Content
  | .account => s.account
  | .user => s.user
  | .password => s.password
  | .region => s.region
  | .protocol => s.protocol
  | .host => s.host
  | .port => s.port
  | .database => s.database
  | .schema => s.schema
  | .warehouse => s.warehouse
  | .role => s.role
  | .authenticator => s.authenticator
  | .passcode => s.passcode
  | .passcodeInPassword => s.passcodeInPassword
  | .loginTimeout => s.loginTimeout
  | .requestTimeout => s.requestTimeout
  | .application => s.application
  | .insecureMode => s.insecureMode
  | .proxyHost => s.proxy.host
  | .proxyPort => s.proxy.port
  | .proxyUser => s.proxy.user
  | .proxyPassword => s.proxy.password

def put (s : Settings) : (f : Field) → f.kind.Content → Settings
  | .account, x => { s with account := x }
  | .user, x => { s with user := x }
  | .password, x => { s with password := x }
  | .region, x => { s with region := x }
  | .protocol, x => { s with protocol := x }
  | .host, x => { s with host := x }
  | .port, x => { s with port := x }
  | .database, x => { s with database := x }
  | .schema, x => { s with schema := x }
  | .warehouse, x => { s with warehouse := x }
  | .role, x => { s with role := x }
  | .authenticator, x => { s with authenticator := x }
  | .passcode, x => { s with passcode := x }
  | .passcodeInPassword, x => { s with passcodeInPassword := x }
  | .loginTimeout, x => { s with loginTimeout := x }
  | .requestTimeout, x => { s with requestTimeout := x }
  | .application, x => { s with application := x }
  | .insecureMode, x => { s with insecureMode := x }
  | .proxyHost, x => { s with proxy := { s.proxy with host := x } }
  | .proxyPort, x => { s with proxy := { s.proxy with port := x } }
  | .proxyUser, x => { s with proxy := { s.proxy with user := x } }
  | .proxyPassword, x => { s with proxy := { s.proxy with password := x } }

def putParam (s : Settings) (key value : String) : Settings :=
  { s with params := s.params.insert key value }

theorem get_put (s : Settings) (f : Field) (x : f.kind.Content) : (s.put f x).get f = x := by
  cases f <;> rfl

theorem get_put_of_ne (s : Settings) {f g : Field} (x : f.kind.Content) (h : g ≠ f) :
    (s.put f x).get g = s.get g := by
  cases f <;> cases g <;> first | rfl | exact absurd rfl h

@[simp]
theorem params_put (s : Settings) (f : Field) (x : f.kind.Content) :
    (s.put f x).params = s.params := by
  cases f <;> rfl

@[simp]
theorem get_putParam (s : Settings) (key value : String) (f : Field) :
    (s.putParam key value).get f = s.get f := by
  cases f <;> rfl

/-- Whether two settings are equal, whatever the order of their parameters. -/
def same (a b : Settings) : Bool :=
  decide ({ a with params := .empty } = { b with params := .empty }) && a.params.sameMap b.params

end Settings

end DataSource
