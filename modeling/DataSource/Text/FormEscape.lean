import DataSource.Text.Digits
import DataSource.Text.Utf8

/-!
# Form escaping

The spelling of a value inside a query: letters, digits and `_ . - ~` stand for themselves, a space
is a plus sign, and every other character is the escapes `%XX` of its UTF-8 bytes. `escape` writes
that spelling. `unescape` reads it, and more: any character may stand for itself, and a digit may be
of either case. It refuses a percent sign without two hexadecimal digits after it and escapes whose
bytes are not UTF-8, and it answers a refusal with the part of the text that is at fault.
-/

namespace DataSource.FormEscape

/-! ## Writing -/

def isPlain (c : Char) : Bool := c.isAlphanum || c == '_' || c == '.' || c == '-' || c == '~'

def hexDigit (n : Nat) : Char := Char.ofNat (if n < 10 then n + 48 else n + 55)

theorem hexValue?_hexDigit : ∀ n < 16, Text.hexValue? (hexDigit n) = some n := by decide

def escapeByte (b : UInt8) : List Char := ['%', hexDigit (b.toNat / 16), hexDigit (b.toNat % 16)]

def escapeChar (c : Char) : List Char :=
  if isPlain c then [c] else if c = ' ' then ['+'] else (Text.utf8 [c]).flatMap escapeByte

def escape (text : List Char) : List Char := text.flatMap escapeChar

/-! ## Reading -/

def byteOf? (high low : Char) : Option UInt8 := do
  let h ← Text.hexValue? high
  let l ← Text.hexValue? low
  return UInt8.ofNat (16 * h + l)

theorem byteOf?_hexDigit (b : UInt8) :
    byteOf? (hexDigit (b.toNat / 16)) (hexDigit (b.toNat % 16)) = some b := by
  have hb : b.toNat < 256 := b.toNat_lt
  simp only [byteOf?, hexValue?_hexDigit _ (show b.toNat / 16 < 16 by omega),
    hexValue?_hexDigit _ (show b.toNat % 16 < 16 by omega)]
  show some (UInt8.ofNat (16 * (b.toNat / 16) + b.toNat % 16)) = some b
  rw [show 16 * (b.toNat / 16) + b.toNat % 16 = b.toNat by omega, UInt8.ofNat_toNat]

/-- A part of a spelling: an escape with its two digits and its byte, or a character that is not
part of one. -/
inductive Piece where
  | escape (high low : Char) (byte : UInt8)
  | literal (c : Char)

namespace Piece

def text : Piece → List Char
  | escape high low _ => ['%', high, low]
  | literal c => [c]

/-- The bytes that a piece stands for; a plus sign is a space. -/
def bytes : Piece → List UInt8
  | escape _ _ byte => [byte]
  | literal c => Text.utf8 [if c = '+' then ' ' else c]

def isEscape : Piece → Bool
  | escape .. => true
  | literal _ => false

def isAscii : Piece → Bool
  | escape .. => true
  | literal c => c.toNat < 128

end Piece

/-- The pieces of a spelling, or the first percent sign that two hexadecimal digits do not follow
together with the next two characters. -/
def pieces : List Char → Except (List Char) (List Piece)
  | [] => .ok []
  | '%' :: rest =>
    match rest with
    | high :: low :: after =>
      match byteOf? high low with
      | some byte => (pieces after).map (.escape high low byte :: ·)
      | none => .error ['%', high, low]
    | _ => .error ('%' :: rest)
  | c :: rest => (pieces rest).map (.literal c :: ·)

/-- The text of a run of pieces, if their bytes are UTF-8. -/
def decode? (run : List Piece) : Option (List Char) := Text.ofUtf8? (run.flatMap Piece.bytes)

/-- Decodes every maximal run of ASCII pieces, and every maximal run of other characters, on its
own. -/
def decodeRuns? (ps : List Piece) : Option (List Char) :=
  ((ps.splitBy fun a b => a.isAscii == b.isAscii).mapM decode?).map List.flatten

/-- The first maximal run of escapes whose bytes are not UTF-8. -/
def undecodable? (ps : List Piece) : Option (List Piece) :=
  (ps.splitBy fun a b => a.isEscape == b.isEscape).find? fun run =>
    run.all Piece.isEscape && (decode? run).isNone

/-- The text that a spelling stands for, or the part of the spelling that is at fault. -/
def unescape (text : List Char) : Except (List Char) (List Char) := do
  let ps ← pieces text
  match decodeRuns? ps with
  | some decoded => .ok decoded
  | none => .error (((undecodable? ps).map (·.flatMap Piece.text)).getD text)

end DataSource.FormEscape
