/-!
# Faults of a TOML text

What stops the reading of a TOML text, and the characters that its grammar speaks of. A text is read
from its front; what is read is answered together with the rest of the text.
-/

namespace DataSource.Toml

inductive Fault where
  | malformed
  /-- The text has another character than the grammar asks for, at the front of `rest`. -/
  | unexpected (rest : List Char)
  | duplicateKey (key : String)
  /-- A header defines a table that dotted keys have made. -/
  | redefinedTable

/-- What is read from the front of a text, and the rest of it. -/
abbrev Reader (α : Type) := List Char → Except Fault (α × List Char)

/-- The greatest depth of arrays and inline tables in each other, and the greatest number of names in
a dotted key. -/
def maxDepth : Nat := 100

def isSpace (c : Char) : Bool := c == ' ' || c == '\t'

def isSpaceOrNewline (c : Char) : Bool := isSpace c || c == '\n' || c == '\r'

/-- Whether a character may not stand in a line of text as it is. -/
def isControl (c : Char) : Bool := c == '\x7f' || (c.toNat < 0x20 && c != '\t')

def endsValue (c : Char) : Bool := isSpaceOrNewline c || c == '#' || c == ',' || c == ']' || c == '}'

/-- The text after a comment, which ends before the end of its line. -/
def skipComment (text : List Char) : Except Fault (List Char) :=
  if (text.takeWhile (· != '\n')).any isControl then .error .malformed
  else .ok (text.dropWhile (· != '\n'))

/-- The text after spaces, newlines and comments, looking at no more than `fuel` comments. -/
def skipBlank (fuel : Nat) (text : List Char) : Except Fault (List Char) :=
  match fuel, text.dropWhile isSpaceOrNewline with
  | 0, _ => .error .malformed
  | fuel + 1, '#' :: rest => do skipBlank fuel (← skipComment rest)
  | _, rest => .ok rest

/-- The text after what may follow a value or a header in its line: spaces, a comment and the end of
the line. -/
def skipLine (text : List Char) : Except Fault (List Char) :=
  match text.dropWhile isSpace with
  | [] => .ok []
  | '\n' :: rest => .ok rest
  | '#' :: rest => (skipComment rest).map (·.drop 1)
  | rest => .error (.unexpected rest)

/-- A text in which every line ends with a newline alone. -/
def unifyNewlines : List Char → List Char
  | '\r' :: '\n' :: rest => '\n' :: unifyNewlines rest
  | '\r' :: rest => '\n' :: unifyNewlines rest
  | c :: rest => c :: unifyNewlines rest
  | [] => []

end DataSource.Toml
