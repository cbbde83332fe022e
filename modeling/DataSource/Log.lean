/-!
# Log records

What the library reports on its way: from which part of it, how important, and what.
-/

namespace DataSource

/-- How important a record is. -/
inductive Level where
  | debug
  | info
  deriving DecidableEq, Repr

def Level.name : Level → String
  | debug => "DEBUG"
  | info => "INFO"

/-- A record with the name of the part that it comes from. -/
structure Record where
  source : String
  level : Level
  message : String
  deriving DecidableEq, Repr

end DataSource
