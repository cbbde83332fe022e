import DataSource.Toml.Statement

/-!
# TOML documents

The statements of a text make one table. A header opens a table; the headers after it that extend
its path open tables inside it, until one does not, and then it is closed and added to what contains
it. `Document.read` answers the tables at the root that are given in one place.
-/

namespace DataSource.Toml

/-- A table, or an array of tables, that is still open. `names` is its path from the table around
it. -/
structure Frame where
  path : List String
  names : List String
  isArray : Bool
  elements : List Body
  body : Body

namespace Frame

def node (frame : Frame) : Node :=
  let inner : Node :=
    if frame.isArray then .tables (frame.elements ++ [frame.body]) else .table .header frame.body
  (frame.names.drop 1).foldr (fun name node => .table .implied [(name, node)]) inner

def key (frame : Frame) : String := frame.names.headD ""

/-- Whether a header continues an array of tables that stands directly in the table around it. -/
def continues (frame : Frame) (isArray : Bool) (path : List String) : Bool :=
  isArray && frame.isArray && frame.path == path && frame.names.length == 1

def contains (frame : Frame) (path : List String) : Bool :=
  frame.path.isPrefixOf path && frame.path != path

end Frame

/-- A document that is being read: what is at its root, what is known of the parts there, and the
open tables, the innermost first. -/
structure Document where
  root : Body
  fitted : List (String × Fitted)
  frames : List Frame

namespace Document

def empty : Document := ⟨[], [], []⟩

/-- Adds an entry at the root, where any fault is one of the whole text. A new part of a table is
checked against the parts before it as they were when they were new. -/
def addRoot (d : Document) (fuel : Nat) (key : String) (node : Node) : Except Fault Document :=
  let added : Except Fault Document := do
    let root ← d.root.add fuel false key node
    let parts := root.parts key
    if parts.length ≤ 1 then return { d with root }
    let fitted ← Body.fit fuel ((d.fitted.lookup key).getD {}) parts
    return { d with root, fitted := (key, fitted) :: d.fitted }
  added.mapError fun _ => .malformed

/-- Closes an open table, and then those around it, up to one that `done` holds of. -/
def closeFrom (d : Document) (fuel : Nat) (done : Frame → Bool) (frame : Frame) :
    List Frame → Except Fault Document
  | [] =>
    if done frame then .ok { d with frames := [frame] }
    else do
      frame.body.check fuel
      { d with frames := [] }.addRoot fuel frame.key frame.node
  | outer :: rest =>
    if done frame then .ok { d with frames := frame :: outer :: rest }
    else do
      frame.body.check fuel
      let body ← outer.body.put fuel false frame.key frame.node
      closeFrom d fuel done { outer with body } rest

def close (d : Document) (fuel : Nat) (done : Frame → Bool) : Except Fault Document :=
  match d.frames with
  | [] => .ok d
  | frame :: rest => d.closeFrom fuel done frame rest

/-- Closes the tables that a header ends, with the element of the array that it continues. -/
def settle (fuel : Nat) (d : Document) (isArray : Bool) (path : List String) :
    Except Fault Document := do
  let d ← d.close fuel fun frame => frame.continues isArray path || frame.contains path
  match d.frames with
  | frame :: _ => if frame.continues isArray path then frame.body.check fuel
  | [] => pure ()
  return d

def openTable (d : Document) (isArray : Bool) (path : List String) : Document :=
  match d.frames with
  | [] => { d with frames := [⟨path, path, isArray, [], []⟩] }
  | frame :: rest =>
    if frame.continues isArray path then
      let next := { frame with elements := frame.elements ++ [frame.body], body := [] }
      { d with frames := next :: rest }
    else
      let inner : Frame := ⟨path, path.drop frame.path.length, isArray, [], []⟩
      { d with frames := inner :: d.frames }

def step (fuel : Nat) (d : Document) : Statement → Except Fault Document
  | .header isArray path => do
    let d ← d.settle fuel isArray path
    return d.openTable isArray path
  | .pair path v =>
    match d.frames, path with
    | [], key :: rest => d.addRoot fuel key (Node.dotted v rest)
    | [], [] => .error .malformed
    | frame :: rest, path => do
      let body ← frame.body.putPair fuel path v
      return { d with frames := { frame with body } :: rest }

def ofStatements (fuel : Nat) (lines : List Statement) (ending : Ending) : Except Fault Body := do
  let d ← lines.foldlM (step fuel) empty
  match ending with
  | .fault fault => throw fault
  | .brokenHeader isArray path =>
    let _ ← d.settle fuel isArray path
    throw .malformed
  | .complete =>
    let d ← d.close fuel fun _ => false
    return d.root

/-- The tables at a root that are given in one place, as dictionaries. The parts of the others have
to make one table as well. -/
def tables (fuel : Nat) (root : Body) : Except Fault (List (String × List (String × Value))) :=
  root.keys.filterMapM fun key =>
    match root.under key with
    | [.table _ body] => (Body.dictionary fuel body).map fun entries => some (key, entries)
    | [_] => .ok none
    | _ => (root.checkWhole fuel key).map fun _ => none

def read (text : List Char) : Except Fault (List (String × List (String × Value))) := do
  let text := unifyNewlines text
  let fuel := 2 * text.length + 8
  let (lines, ending) := statements fuel text
  tables fuel (← ofStatements fuel lines ending)

end Document

end DataSource.Toml
