import DataSource.Toml.Node
import DataSource.Toml.Quoted
import DataSource.Toml.Scalar

/-!
# Keys and values of TOML

Readers of keys, which may be dotted, and of values: strings, truth values, numbers, dates, times,
arrays and inline tables. All of them take a bound on the characters that they look at.
-/

namespace DataSource.Toml

/-! ## Keys -/

def isKeyChar (c : Char) : Bool := c.isAlphanum || c == '-' || c == '_'

def trimSpaces (text : List Char) : List Char :=
  ((text.dropWhile isSpace).reverse.dropWhile isSpace).reverse

def names : Nat → Reader (List String)
  | 0, _ => .error .malformed
  | fuel + 1, text => do
    let text := text.dropWhile isSpace
    let (name, rest) ←
      match text with
      | [] => .error .malformed
      | c :: inner =>
        if c = '"' ∨ c = '\'' then do
          let ((name, isMultiline), rest) ← quotedText c inner
          if isMultiline then .error .malformed else .ok (name, rest.dropWhile isSpace)
        else
          let isPart (c : Char) := isKeyChar c || isSpace c
          let name := trimSpaces (text.takeWhile isPart)
          if name.isEmpty ∨ name.any isSpace then .error .malformed
          else .ok (String.ofList name, text.dropWhile isPart)
    match rest with
    | '.' :: rest => do
      let (more, rest) ← names fuel rest
      return (name :: more, rest)
    | _ => return ([name], rest)

def key (fuel : Nat) : Reader (List String) := fun text => do
  let (path, rest) ← names fuel text
  if maxDepth < path.length then throw .malformed
  return (path, rest)

def skipEquals (text : List Char) : Except Fault (List Char) :=
  match text.dropWhile isSpace with
  | '=' :: rest =>
    match rest.dropWhile isSpace with
    | '=' :: rest => .error (.unexpected ('=' :: rest))
    | rest => .ok rest
  | rest => .error (.unexpected rest)

/-! ## Values -/

def expectWord (word : String) (text : List Char) : Except Fault (List Char) :=
  if word.toList.isPrefixOf text then .ok (text.drop word.length) else .error (.unexpected text)

def isNumberName (word : List Char) : Bool :=
  let front := word.take 4
  front == "inf".toList || front == "nan".toList

/-- A value that is one word: a number, a date or a time. A time may follow a date after a space. -/
def word (text : List Char) : Except Fault (Value × List Char) :=
  let front := text.takeWhile (!endsValue ·)
  let rest := text.drop front.length
  match moment? front with
  | some (.date d) =>
    let more := rest.takeWhile fun c => c == ' ' || !endsValue c
    let time := Text.trimEnd Text.isSeparator more
    if time.isEmpty then .ok (.moment (.date d), rest.drop more.length)
    else
      match moment? (front ++ time) with
      | some (.dateTime d t o) => .ok (.moment (.dateTime d t o), rest.drop more.length)
      | _ => .error .malformed
  | some m => .ok (.moment m, rest)
  | none =>
    match number? front with
    | some v => .ok (v, rest)
    | none => .error .malformed

mutual

/-- A value; `room` is the depth that is left for arrays and inline tables. -/
def value : Nat → Nat → Reader Value
  | 0, _, _ => .error .malformed
  | fuel + 1, room, text =>
    match text, room with
    | [], _ => .error (.unexpected [])
    | '[' :: _, 0 | '{' :: _, 0 => .error .malformed
    | '[' :: rest, room + 1 =>
      (items fuel room false rest).map fun (vs, rest) => (.list vs, rest)
    | '{' :: rest, room + 1 => do
      let (body, rest) ← inlineTable fuel room [] none rest
      return (.mapping (← body.dictionary fuel), rest)
    | c :: rest, _ =>
      if c = '"' ∨ c = '\'' then
        (quotedText c rest).map fun ((s, _), rest) => (.text s, rest)
      else if c = 't' then (expectWord "true" text).map fun rest => (.flag true, rest)
      else if c = 'f' then (expectWord "false" text).map fun rest => (.flag false, rest)
      else if c = '+' ∨ c = '-' ∨ c.isDigit ∨ isNumberName (text.takeWhile (!endsValue ·)) then
        word text
      else .error (.unexpected text)

/-- The rest of an array; `afterItem` tells that an item was the last thing in it. An item that
breaks off where the array may end is left out. -/
def items : Nat → Nat → Bool → Reader (List Value)
  | 0, _, _, _ => .error .malformed
  | fuel + 1, room, afterItem, text => do
    let text ← skipBlank fuel text
    let close (rest : List Char) : Except Fault (List Value × List Char) :=
      match rest with
      | ']' :: rest => .ok ([], rest)
      | rest => .error (.unexpected rest)
    if afterItem then
      match text with
      | [','] => .error .malformed
      | ',' :: rest => items fuel room false rest
      | text => close text
    else
      match value fuel room text with
      | .ok (v, rest) => (items fuel room true rest).map fun (vs, rest) => (v :: vs, rest)
      | .error (.unexpected rest) => close rest
      | .error fault => .error fault

/-- The rest of an inline table with the entries before it; `comma?` tells whether a comma follows
the last of them. -/
def inlineTable : Nat → Nat → Body → Option Bool → Reader Body
  | 0, _, _, _, _ => .error .malformed
  | fuel + 1, room, body, comma?, text => do
    match ← skipBlank fuel text, comma? with
    | '}' :: rest, _ => .ok (body, rest)
    | text, some false => .error (.unexpected text)
    | ',' :: rest, _ => .error (.unexpected (',' :: rest))
    | text, _ => do
      let (path, rest) ← key fuel text
      let (v, rest) ← value fuel room (← skipEquals rest)
      let body ← body.putPair fuel path v
      match ← skipBlank fuel rest with
      | [','] => .error .malformed
      | ',' :: rest => inlineTable fuel room body (some true) rest
      | rest => inlineTable fuel room body (some false) rest

end

end DataSource.Toml
