import DataSource.Value.Convert

/-!
# Errors

Everything that can go wrong, as causes. `NameError` has what is wrong with a data source name or
with the settings that should make one, `Error` has all the rest too. `message` is the text of an
error and `report` the text that a user is shown.
-/

namespace DataSource

/-- What is wrong with a data source name: a part of it, or that something is missing. -/
inductive NameError where
  | port (text : String)
  | escape (text : String)
  | parameter (key value : String)
  | emptyAccount
  | emptyUser
  | emptyPassword
  deriving DecidableEq, Repr

namespace NameError

def message : NameError → String
  | port text => "failed to parse a port number. port: " ++ text
  | escape text => "invalid URL escape in " ++ Text.quoted text
  | parameter key value => "invalid value " ++ Text.quoted value ++ " for parameter " ++ key
  | emptyAccount => "account is empty"
  | emptyUser => "user is empty"
  | emptyPassword => "password is empty"

def code : NameError → Nat
  | emptyAccount => 260000
  | emptyUser => 260001
  | emptyPassword => 260002
  | port _ => 260004
  | escape _ => 260005
  | parameter .. => 260006

/-- Whether a name could not be taken apart, rather than that a part is missing. -/
def isStructural : NameError → Bool
  | port _ | escape _ | parameter .. => true
  | emptyAccount | emptyUser | emptyPassword => false

end NameError

/-- Anything that can go wrong. -/
inductive Error where
  /-- A data source name is wrong. -/
  | name (error : NameError)
  /-- A value of a dictionary does not fit the setting of its key. -/
  | setting (key : String) (value : Value)
  /-- A connections file cannot be read. -/
  | corrupted (file : String)
  /-- A connections file gives a key twice. -/
  | duplicateKey (key : String)
  /-- A connections file defines a table again that dotted keys have made. -/
  | redefinedTable
  /-- No connection has this name. -/
  | notConfigured (connection : String)
  /-- A parameter on the command line has no key or no equals sign. -/
  | notKeyValue (text : String)
  /-- A value is not what it was read as. -/
  | convert (error : ConvertError)
  /-- A duration is too long. -/
  | durationRange
  /-- A value has no form in JSON. -/
  | notJson (type : String)

namespace Error

def message : Error → String
  | name error => error.message
  | setting key value => "Value of " ++ key ++ " is not valid: " ++ value.summary
  | corrupted file => "Connections file " ++ file ++ " seems to be corrupted."
  | duplicateKey key => "Key \"" ++ key ++ "\" already exists."
  | redefinedTable => "Redefinition of an existing table"
  | notConfigured connection => "Connection " ++ connection ++ " is not configured"
  | notKeyValue text => "Expected key=value, got " ++ Text.quoted text
  | convert error => error.message
  | durationRange => "<overflow>"
  | notJson type => "Object of type " ++ type ++ " is not JSON serializable"

def report : Error → String
  | setting key value => "Invalid connection configuration. " ++ message (setting key value)
  | corrupted file => "Invalid connection configuration. " ++ message (corrupted file)
  | error => error.message

/-- Whether an error is one that a user can mend, rather than an unexpected one. -/
def isExpected : Error → Bool
  | name _ | setting .. | corrupted _ | notConfigured _ | notKeyValue _ => true
  | duplicateKey _ | redefinedTable | convert _ | durationRange | notJson _ => false

end Error

end DataSource
