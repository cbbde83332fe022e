import DataSource.Toml.Basic
import DataSource.Value.Basic

/-!
# Tables of TOML

A table is a list of keys with what stands under them, in the order of the text. A key may have
several parts: a table that is given in different places of a text. `Body.add` adds to a table what
TOML allows to be added, `Body.checkParts` finds out whether the parts of a key fit together, and
`Body.dictionary` puts them together.
-/

namespace DataSource.Toml

/-- How a table comes to be: by a header, as a table that the header of another table implies, or by
dotted keys. -/
inductive Origin where
  | header
  | implied
  | dotted
  deriving DecidableEq, Repr

/-- What stands under a key: a value, a table, or an array of tables. -/
inductive Node where
  | value (v : Value)
  | table (origin : Origin) (body : List (String × Node))
  | tables (elements : List (List (String × Node)))

/-- The keys of a table with what stands under them. -/
abbrev Body := List (String × Node)

/-- What stands under a dotted path, from its second key on. -/
def Node.dotted (v : Value) : List String → Node
  | [] => .value v
  | key :: rest => .table .dotted [(key, Node.dotted v rest)]

/-- What is known of a table with several parts: how many of them fit together, what they make, and
what is known of the tables with several parts in it. -/
structure Fitted where
  count : Nat := 0
  whole : List (String × Node) := []
  inner : List (String × Fitted) := []

namespace Body

/-! ## Looking into a table -/

def keys (body : Body) : List String := (body.map Prod.fst).eraseDups

def under (body : Body) (key : String) : List Node := (body.filter (·.1 == key)).map Prod.snd

def last? (body : Body) (key : String) : Option Node := (body.under key).getLast?

def replaceLast (body : Body) (key : String) (node : Node) : Body :=
  let after := (body.reverse.takeWhile (·.1 != key)).reverse
  body.take (body.length - after.length - 1) ++ (key, node) :: after

def isTable : String × Node → Bool
  | (_, .table ..) => true
  | _ => false

def lastTable? (body : Body) : Option String := ((body.filter isTable).getLast?).map Prod.fst

def repeated (body : Body) : List String :=
  body.keys.filter fun key => 1 < (body.under key).length

def parts (body : Body) (key : String) : List Body :=
  (body.under key).filterMap fun node =>
    match node with
    | .table _ inner => some inner
    | _ => none

/-- The elements of the arrays of tables under a key, if nothing else stands under it. -/
def elements? (body : Body) (key : String) : Option (List Body) :=
  ((body.under key).mapM fun node =>
    match node with
    | Node.tables elements => some elements
    | _ => none).map List.flatten

/-- Adds an entry as a further part: under a new key, where a table stands, or an array of tables to
another one. -/
def attach (body : Body) (entry : String × Node) : Except Fault Body :=
  match body.last? entry.1, entry.2 with
  | none, _ | some (.table ..), _ | some (.tables _), .tables _ => .ok (body ++ [entry])
  | some _, _ => .error (.duplicateKey entry.1)

def whole (body : Body) (key : String) : Except Fault Body :=
  (body.parts key).flatten.foldlM attach []

/-! ## Comparing the parts of a table -/

mutual

/-- Checks that further entries of a table agree with those of its older part `old`, where a header
gives one of the two. Both parts may have arrays of tables under one key, and tables that agree in
turn; a key that has several parts in `old` may not come again. -/
def agree (old : List (String × Node)) : List (String × Node) → Except Fault Unit
  | [] => .ok ()
  | (key, node) :: rest => do
    agreeAt key (Body.under old key) node
    agree old rest

/-- Checks that an entry agrees with what stands under its key. -/
def agreeAt (key : String) (old : List Node) : Node → Except Fault Unit
  | .value _ => if old.isEmpty then .ok () else .error (.duplicateKey key)
  | .tables _ =>
    match old with
    | [] | [.tables _] => .ok ()
    | _ => .error (.duplicateKey key)
  | .table origin inner =>
    match old, origin with
    | [], _ | [.tables _], .implied => .ok ()
    | [.table .header _], .header => .error (.duplicateKey key)
    | [.table .header _], .dotted | [.table .dotted _], .header => .error .redefinedTable
    | [.table _ outer], _ => agree outer inner
    | _, _ => .error (.duplicateKey key)

end

/-! ## Adding to a table -/

mutual

/-- Adds an entry.

* A value stands under a new key, and so does an array of tables unless it continues one.
* One header may give a table, and none a table that dotted keys make; headers of tables inside it
  may stand before it and after it, and what they give has to agree with what it gives.
* A table inside an array of tables goes to its last element.

Tables under one key are parts of one table; two that stand side by side are one part if both are
implied. A new part is checked at once if `strict` is set. `fuel` bounds the depth of the tables. -/
def add (fuel : Nat) (strict : Bool) (body : Body) (key : String) (node : Node) :
    Except Fault Body :=
  match fuel with
  | 0 => .error .malformed
  | fuel + 1 => do
    let apart : Except Fault Body := do
      let body := body ++ [(key, node)]
      if strict then checkParts fuel body key
      return body
    match body.last? key, node with
    | none, _ => return body ++ [(key, node)]
    | some (.tables old), .tables new => return body.replaceLast key (.tables (old ++ new))
    | some (.table .header _), .table .header _ => throw (.duplicateKey key)
    | some (.table .dotted _), .table .header _ => throw .redefinedTable
    | some (.table .header old), .table _ new | some (.table .implied old), .table .header new =>
      agree old new
      apart
    | some (.table .implied old), .table .implied new =>
      if body.lastTable? = some key then
        return body.replaceLast key (.table .implied (← addAll fuel true old new))
      else apart
    | some (.table ..), .table .. => apart
    | some (.tables _), .table .header _ => throw (.duplicateKey key)
    | some (.tables old), .table _ new =>
      let element ← addAll fuel false (old.getLast?.getD []) new
      return body.replaceLast key (.tables (old.dropLast ++ [element]))
    | some _, _ => throw (.duplicateKey key)

def addAll (fuel : Nat) (readable : Bool) (body : Body) (entries : Body) : Except Fault Body :=
  match fuel with
  | 0 => .error .malformed
  | fuel + 1 =>
    entries.foldlM (fun body (key, node) => do
      let body ← add fuel true body key node
      if readable then checkWhole fuel body key
      return body) body

/-- Checks that parts of a table fit together: that the entries of one may be added to those of the
ones before it. The parts that are known to fit are not looked at again. -/
def fit (fuel : Nat) (known : Fitted) (parts : List Body) : Except Fault Fitted :=
  match fuel with
  | 0 => .error .malformed
  | fuel + 1 => do
    let whole ← (parts.drop known.count).flatten.foldlM
      (fun body (key, node) => add fuel false body key node) known.whole
    let inner ← (repeated whole).mapM fun key =>
      (fit fuel ((known.inner.lookup key).getD {}) (Body.parts whole key)).map (key, ·)
    return ⟨parts.length, whole, inner⟩

def checkParts (fuel : Nat) (body : Body) (key : String) : Except Fault Unit :=
  match fuel with
  | 0 => .error .malformed
  | fuel + 1 => (fit fuel {} (body.parts key)).map fun _ => ()

/-- Checks that what stands under a key can be read as one. -/
def checkWhole (fuel : Nat) (body : Body) (key : String) : Except Fault Unit :=
  match fuel with
  | 0 => .error .malformed
  | fuel + 1 => do
    if 1 < (body.under key).length then
      let whole ← body.whole key
      whole.repeated.forM fun key => checkParts fuel whole key

end

def put (fuel : Nat) (strict : Bool) (body : Body) (key : String) (node : Node) :
    Except Fault Body := do
  let body ← body.add fuel strict key node
  body.checkWhole fuel key
  return body

def putPair (fuel : Nat) (body : Body) (path : List String) (v : Value) : Except Fault Body :=
  match path with
  | [] => .error .malformed
  | key :: rest => body.put fuel true key (Node.dotted v rest)

def check (fuel : Nat) (body : Body) : Except Fault Unit :=
  body.repeated.forM fun key => checkParts fuel body key

/-! ## Reading a table -/

mutual

def dictionary (fuel : Nat) (body : Body) : Except Fault (List (String × Value)) :=
  match fuel with
  | 0 => .error .malformed
  | fuel + 1 => body.keys.mapM fun key => (read fuel body key).map (key, ·)

def read (fuel : Nat) (body : Body) (key : String) : Except Fault Value :=
  match fuel with
  | 0 => .error .malformed
  | fuel + 1 =>
    match body.under key, body.elements? key with
    | [.value v], _ => .ok v
    | _, some elements =>
      (elements.mapM fun element => (dictionary fuel element).map Value.mapping).map Value.list
    | _, none => do
      checkWhole fuel body key
      return .mapping (← dictionary fuel (← body.whole key))

end

end Body

end DataSource.Toml
