import DataSource.Error

/-!
# JSON output

The JSON text of values, in ASCII: items on lines of their own, indented by four spaces a level, and
every other character as an escape. A duration or a moment has no JSON text.
-/

namespace DataSource.Json

def unitEscape (unit : Nat) : List Char := '\\' :: 'u' :: Text.digits 16 4 unit

def escapeChar (c : Char) : List Char :=
  if c = '"' then ['\\', '"']
  else if c = '\\' then ['\\', '\\']
  else if c = '\n' then ['\\', 'n']
  else if c = '\r' then ['\\', 'r']
  else if c = '\t' then ['\\', 't']
  else if c = '\x08' then ['\\', 'b']
  else if c = '\x0c' then ['\\', 'f']
  else if 0x20 ≤ c.toNat ∧ c.toNat < 0x7f then [c]
  else if c.toNat < 0x10000 then unitEscape c.toNat
  else
    let offset := c.toNat - 0x10000
    unitEscape (0xd800 + offset / 0x400) ++ unitEscape (0xdc00 + offset % 0x400)

def string (s : String) : String := "\"" ++ String.ofList (s.toList.flatMap escapeChar) ++ "\""

def number : Binary64 → String
  | .nan => "NaN"
  | .infinite negative => if negative then "-Infinity" else "Infinity"
  | x => x.text

def newline (level : Nat) : String := "\n" ++ String.ofList (List.replicate (4 * level) ' ')

/-- Items between brackets, each on its own line a level deeper. -/
def block (opening closing : String) (level : Nat) (items : List String) : String :=
  if items.isEmpty then opening ++ closing
  else
    opening ++ newline (level + 1) ++ ("," ++ newline (level + 1)).intercalate items
      ++ newline level ++ closing

mutual

/-- The JSON text of a value at a level. -/
def render (level : Nat) : Value → Except Error String
  | .null => .ok "null"
  | .flag b => .ok (if b then "true" else "false")
  | .integer n => .ok (toString n)
  | .real x => .ok (number x)
  | .text s => .ok (string s)
  | .list items => (renderItems (level + 1) items).map (block "[" "]" level)
  | .mapping entries => (renderEntries (level + 1) entries).map (block "\x7b" "\x7d" level)
  | .duration _ => .error (.notJson "timedelta")
  | .moment m =>
    .error (.notJson (match m with
      | .date _ => "date"
      | .time _ => "time"
      | .dateTime .. => "datetime"))

def renderItems (level : Nat) : List Value → Except Error (List String)
  | [] => .ok []
  | v :: rest => do
    let text ← render level v
    let texts ← renderItems level rest
    return text :: texts

def renderEntries (level : Nat) : List (String × Value) → Except Error (List String)
  | [] => .ok []
  | (key, v) :: rest => do
    let text ← render level v
    let texts ← renderEntries level rest
    return (string key ++ ": " ++ text) :: texts

end

end DataSource.Json
