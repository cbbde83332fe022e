import DataSource.Toml.Value

/-!
# Statements of TOML

A TOML text is a sequence of statements, a line each but for the values that span lines: pairs of a
key and a value, headers of tables, and headers of elements of arrays. `statements` reads them up to
the end of the text or the first one that is at fault.
-/

namespace DataSource.Toml

inductive Statement where
  | pair (path : List String) (v : Value)
  | header (isArray : Bool) (path : List String)

/-- How the statements of a text end: with the text, at a fault, or in a header whose path can be
read but not its end. -/
inductive Ending where
  | complete
  | fault (fault : Fault)
  | brokenHeader (isArray : Bool) (path : List String)

/-- The text after the brackets that end a header. -/
def skipBrackets (isArray : Bool) (text : List Char) : Except Fault (List Char) :=
  match isArray, text with
  | false, ']' :: rest => skipLine rest
  | true, ']' :: ']' :: rest => skipLine rest
  | _, rest => .error (.unexpected rest)

def pair (fuel : Nat) : Reader Statement := fun text => do
  let (path, rest) ← key fuel text
  let (v, rest) ← value fuel maxDepth (← skipEquals rest)
  let rest ← skipLine rest
  return (.pair path v, rest)

def statements (fuel : Nat) (text : List Char) : List Statement × Ending :=
  match fuel with
  | 0 => ([], .fault .malformed)
  | fuel + 1 =>
    let further (statement : Statement) (rest : List Char) : List Statement × Ending :=
      let (more, ending) := statements fuel rest
      (statement :: more, ending)
    match text.dropWhile isSpaceOrNewline with
    | [] => ([], .complete)
    | '#' :: rest =>
      match skipComment rest with
      | .ok rest => statements fuel rest
      | .error fault => ([], .fault fault)
    | '[' :: rest =>
      let isArray := rest.head? == some '['
      match key (fuel + 1) (if isArray then rest.drop 1 else rest) with
      | .error fault => ([], .fault fault)
      | .ok (path, rest) =>
        match skipBrackets isArray rest with
        | .ok rest => further (.header isArray path) rest
        | .error _ => ([], .brokenHeader isArray path)
    | text =>
      match pair (fuel + 1) text with
      | .ok (statement, rest) => further statement rest
      | .error fault => ([], .fault fault)

end DataSource.Toml
