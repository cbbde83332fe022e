import DataSource.Text.Digits
import DataSource.Toml.Basic

/-!
# Strings of TOML

Basic strings stand between double quotes and have escapes, literal strings stand between
apostrophes and have none. Three quotes in a row open a string of several lines.
-/

namespace DataSource.Toml

def hexNumber? (digits : List Char) : Option Nat :=
  digits.foldlM (fun n c => (Text.hexValue? c).map (16 * n + ·)) 0

/-- The character of a code point that is not a surrogate. -/
def charOf? (n : Nat) : Option Char := if n.isValidChar then some (Char.ofNat n) else none

def codePoint (count : Nat) (text : List Char) : Option (Char × List Char) :=
  if text.length < count then none
  else do
    let n ← hexNumber? (text.take count)
    let c ← charOf? n
    return (c, text.drop count)

def escaped? : List Char → Option (Char × List Char)
  | 'b' :: rest => some ('\x08', rest)
  | 't' :: rest => some ('\t', rest)
  | 'n' :: rest => some ('\n', rest)
  | 'f' :: rest => some ('\x0c', rest)
  | 'r' :: rest => some ('\r', rest)
  | '"' :: rest => some ('"', rest)
  | '\\' :: rest => some ('\\', rest)
  | 'e' :: rest => some ('\x1b', rest)
  | 'x' :: rest => codePoint 2 rest
  | 'u' :: rest => codePoint 4 rest
  | 'U' :: rest => codePoint 8 rest
  | _ => none

/-- Whether a character may stand in a string of several lines as it is. -/
def isMultilineControl (c : Char) : Bool := isControl c && c != '\n' && c != '\r'

/-- The quotes that belong to a string of several lines, and the text after its end, where `text`
has a quote in front; nothing if the string does not end here. Up to two quotes may stand before
the three that end a string. -/
def closing (quote : Char) (text : List Char) : Except Fault (Option (List Char × List Char)) :=
  let run := text.takeWhile (· == quote)
  if run.length < 3 then .ok none
  else if run.length < 6 then .ok (some (run.drop 3, text.drop run.length))
  else .error .malformed

def addChar (c : Char) (read : List Char × List Char) : List Char × List Char :=
  (c :: read.1, read.2)

def literal : Reader (List Char)
  | [] => .error .malformed
  | '\'' :: rest => .ok ([], rest)
  | c :: rest => if isControl c then .error .malformed else (literal rest).map (addChar c)

def multilineLiteral : Reader (List Char)
  | [] => .error .malformed
  | c :: rest =>
    if c = '\'' then
      match closing '\'' (c :: rest) with
      | .error fault => .error fault
      | .ok (some ended) => .ok ended
      | .ok none => (multilineLiteral rest).map (addChar c)
    else if isMultilineControl c then .error .malformed
    else (multilineLiteral rest).map (addChar c)

def basic : Nat → Reader (List Char)
  | 0, _ => .error .malformed
  | fuel + 1, text =>
    match text with
    | [] => .error .malformed
    | '"' :: rest => .ok ([], rest)
    | '\\' :: rest =>
      match escaped? rest with
      | some (c, after) => (basic fuel after).map (addChar c)
      | none => .error .malformed
    | c :: rest => if isControl c then .error .malformed else (basic fuel rest).map (addChar c)

/-- The text after the white space that a backslash at the end of a line takes away. -/
def skipGap (text : List Char) : Except Fault (List Char) :=
  let after := text.dropWhile isSpaceOrNewline
  if (text.takeWhile isSpaceOrNewline).contains '\n' && !after.isEmpty then .ok after
  else .error .malformed

/-- The rest of a basic string of several lines, looking at no more than `fuel` characters. -/
def multilineBasic : Nat → Reader (List Char)
  | 0, _ => .error .malformed
  | fuel + 1, text =>
    match text with
    | [] => .error .malformed
    | '\\' :: rest =>
      if (rest.take 1).any isSpaceOrNewline then
        match skipGap rest with
        | .ok after => multilineBasic fuel after
        | .error fault => .error fault
      else
        match escaped? rest with
        | some (c, after) => (multilineBasic fuel after).map (addChar c)
        | none => .error .malformed
    | c :: rest =>
      if c = '"' then
        match closing '"' (c :: rest) with
        | .error fault => .error fault
        | .ok (some ended) => .ok ended
        | .ok none => (multilineBasic fuel rest).map (addChar c)
      else if isMultilineControl c then .error .malformed
      else (multilineBasic fuel rest).map (addChar c)

def dropNewline : List Char → List Char
  | '\n' :: rest => rest
  | rest => rest

def singleLine (quote : Char) (text : List Char) : Except Fault (List Char × List Char) :=
  if quote = '"' then basic (text.length + 1) text else literal text

def multiline (quote : Char) (text : List Char) : Except Fault (List Char × List Char) :=
  if quote = '"' then multilineBasic (text.length + 1) text else multilineLiteral text

/-- A string after the quote that opens it, and whether it may have several lines. -/
def quotedText (quote : Char) (text : List Char) : Except Fault ((String × Bool) × List Char) :=
  match text with
  | [] => .error .malformed
  | c :: rest =>
    if c = quote then
      match rest with
      | d :: inner =>
        if d = quote then
          (multiline quote (dropNewline inner)).map fun (s, after) =>
            ((String.ofList s, true), after)
        else .ok (("", false), rest)
      | [] => .ok (("", false), [])
    else (singleLine quote text).map fun (s, after) => ((String.ofList s, false), after)

end DataSource.Toml
