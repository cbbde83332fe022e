import DataSource.Text.CaseTable
import DataSource.Text.Printable

/-!
# Letter case

`upper` and `lower` change the case of a whole text. A character may become several (`ß` is `SS` in
upper case), and a capital sigma becomes the final small sigma at the end of a word.
-/

namespace DataSource.Text

/-- The other form of a character according to a table of runs and a table of expansions. -/
def changeCase (runs : List CaseRun) (expansions : List (Nat × List Nat)) (c : Char) : List Char :=
  match runs.find? (·.has c.toNat) with
  | some run => [Char.ofNat (c.toNat + run.shift).toNat]
  | none =>
    match expansions.lookup c.toNat with
    | some points => points.map Char.ofNat
    | none => [c]

def upperChar (c : Char) : List Char := changeCase upperRuns upperExpansions c

/-- The lower-case form of a character, wherever it stands. -/
def lowerChar (c : Char) : List Char := changeCase lowerRuns lowerExpansions c

/-- Whether the first character that is not ignorable has case. -/
def casedNext : List Char → Bool
  | [] => false
  | c :: rest =>
    if inRanges c.toNat caseIgnorableRanges then casedNext rest else inRanges c.toNat casedRanges

/-- The lower-case form of the rest of a text, after the characters `before` in reverse. -/
def lowerAfter (before : List Char) : List Char → List Char
  | [] => []
  | c :: rest =>
    (if c = 'Σ' then (if casedNext before && !casedNext rest then ['ς'] else ['σ'])
      else lowerChar c) ++ lowerAfter (c :: before) rest

def upper (text : String) : String := String.ofList (text.toList.flatMap upperChar)

def lower (text : String) : String := String.ofList (lowerAfter [] text.toList)

end DataSource.Text
