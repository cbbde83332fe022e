import DataSource.Toml.Basic
import DataSource.Value.Basic

/-!
# Numbers, dates and times of TOML

The values that are written as one word. `number?` reads integers of four bases and numbers with a
point or an exponent, `moment?` dates, times and both together.
-/

namespace DataSource.Toml

/-! ## Numbers -/

def digitOf? (base : Nat) (c : Char) : Option Nat :=
  ((Text.digitValue? c).or (Text.hexValue? c)).filter (· < base)

/-- Whether an underscore may stand beside a character: whether it is an ASCII digit of the base. -/
def isDigitOf (base : Nat) (c : Char) : Bool :=
  ((Text.hexValue? c).filter (· < base)).isSome

/-- A word without the underscores between digits, where `before` is the character before it. -/
def dropUnderscores (base : Nat) (before : Option Char) : List Char → List Char
  | [] => []
  | c :: rest =>
    let between := (before.map (isDigitOf base)).getD false
      && (rest.head?.map (isDigitOf base)).getD false
    if c = '_' ∧ between then dropUnderscores base (some c) rest
    else c :: dropUnderscores base (some c) rest

def baseOf : List Char → Nat
  | '0' :: 'b' :: _ => 2
  | '0' :: 'o' :: _ => 8
  | '0' :: 'x' :: _ => 16
  | _ => 10

/-- Whether a word may follow a sign, or its absence: zeros do not stand in front of digits, a point
does not stand first, and only decimal numbers have a sign. -/
def isWellStarted (hasSign : Bool) (word : List Char) : Bool :=
  match word with
  | '0' :: c :: _ =>
    if c = 'o' ∨ c = 'x' ∨ c = 'b' then !hasSign else c == '.' || c == 'e' || c == 'E'
  | '.' :: _ :: _ => !hasSign
  | _ => true

/-- Whether a decimal word has a point that no digit follows. -/
def hasOpenPoint (word : List Char) : Bool :=
  word.getLast? == some '.' ||
    (baseOf word != 16 && (word.takeWhile (· != 'e')).getLast? == some '.')

/-- Whether a word starts like a number in digits, or is the name of a value that is not finite, which
has small letters only. -/
def isNumeric (word : List Char) : Bool :=
  (word.head?.bind Text.digitValue?).isSome || word == "inf".toList || word == "nan".toList

/-- The integer of a word in a base other than ten, after its two first characters. -/
def basedInteger? (base : Nat) (word : List Char) : Option Int := do
  let digits ← (Text.trimEnd Text.isBlank word).mapM (digitOf? base)
  if digits.isEmpty then none else return (digits.foldl (fun n d => base * n + d) 0 : Nat)

def number? (word : List Char) : Option Value :=
  let (negative, unsigned) := Integer.splitSign word
  let hasSign := unsigned.length < word.length
  let base := baseOf unsigned
  let clean := (dropUnderscores base none unsigned).map Char.toLower
  if !isWellStarted hasSign unsigned || !isNumeric unsigned || clean.contains '_'
      || hasOpenPoint clean then none
  else
    let word := (if negative then ['-'] else if hasSign then ['+'] else []) ++ clean
    let whole := if base = 10 then Integer.readLoose? word else basedInteger? base (clean.drop 2)
    match whole with
    | some n => some (.integer n)
    | none => (Binary64.read? word).map .real

/-! ## Dates and times -/

/-- The year that four digits in front are, in any script, and the rest. -/
def year? (text : List Char) : Option (Nat × List Char) := do
  let digits ← (text.take 4).mapM Text.digitValue?
  if digits.length = 4 then return (Integer.ofDigits digits, text.drop 4) else none

def digits? (count : Nat) (text : List Char) : Option (Nat × List Char) :=
  let front := text.take count
  if front.length = count ∧ front.all Char.isDigit then
    some (Integer.ofDigits (front.map fun c => c.toNat - 48), text.drop count)
  else none

def after? (c : Char) (text : List Char) : Option (List Char) :=
  match text with
  | d :: rest => if d = c then some rest else none
  | [] => none

def date? (text : List Char) : Option (Date × List Char) := do
  let (year, rest) ← year? text
  let (month, rest) ← digits? 2 (← after? '-' rest)
  let (day, rest) ← digits? 2 (← after? '-' rest)
  let date : Date := { year, month, day }
  if date.isValid then return (date, rest) else none

/-- The microseconds that the digits after the point of a second stand for; those after the sixth
are dropped. -/
def microsOf (digits : List Char) : Nat :=
  let six := (digits ++ List.replicate 6 '0').take 6
  Integer.ofDigits (six.map fun c => c.toNat - 48)

/-- The second that a colon opens, with its microseconds; a time of day may do without. -/
def second? (text : List Char) : Option ((Nat × Nat) × List Char) :=
  match text with
  | ':' :: rest => do
    let (second, rest) ← digits? 2 rest
    match rest with
    | '.' :: fraction =>
      let digits := fraction.takeWhile Char.isDigit
      if digits.isEmpty then none
      else return ((second, microsOf digits), fraction.drop digits.length)
    | _ => return ((second, 0), rest)
  | _ => some ((0, 0), text)

def clockTime? (text : List Char) : Option (ClockTime × List Char) := do
  let (hour, rest) ← digits? 2 text
  let (minute, rest) ← digits? 2 (← after? ':' rest)
  let ((second, micros), rest) ← second? rest
  let time : ClockTime := { hour, minute, second, micros }
  if time.isValid then return (time, rest) else none

def offset? (text : List Char) : Option Offset :=
  match text with
  | ['Z'] | ['z'] => some ⟨0, "UTC"⟩
  | sign :: rest =>
    if sign = '+' ∨ sign = '-' then do
      let (hours, rest) ← digits? 2 rest
      let (minutes, rest) ← digits? 2 (← after? ':' rest)
      if rest.isEmpty ∧ hours < 24 ∧ minutes < 60 then
        return ⟨Integer.signed (sign == '-') (60 * hours + minutes), String.ofList text⟩
      else none
    else none
  | [] => none

def moment? (text : List Char) : Option Moment :=
  match clockTime? text with
  | some (time, []) => some (.time time)
  | _ =>
    match date? text with
    | none => none
    | some (date, []) => some (.date date)
    | some (date, sep :: rest) =>
      if sep = 'T' ∨ sep = 't' ∨ sep = ' ' then
        match clockTime? rest with
        | none => none
        | some (time, []) => some (.dateTime date time none)
        | some (time, zone) => (offset? zone).map fun o => .dateTime date time (some o)
      else none

end DataSource.Toml
