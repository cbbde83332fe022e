import DataSource.Value.Basic

/-!
# Boxed tables

A table of two columns, drawn in ASCII. A column is as wide as its widest cell, its head included.
-/

namespace DataSource.Box

def head : String × String := ("key", "value")

/-- A value in a cell: a dictionary is its entries with equals signs. -/
def cell : Value → String
  | .mapping entries => ", ".intercalate (entries.map fun (key, v) => key ++ "=" ++ v.toText)
  | v => v.toText

def width (cells : List String) : Nat := (cells.map String.length).foldl max 0

def dashes (n : Nat) : String := String.ofList (List.replicate n '-')

def fit (n : Nat) (s : String) : String :=
  s ++ String.ofList (List.replicate (n - s.length) ' ')

def lines (rows : List (String × String)) : List String :=
  let all := head :: rows
  let left := width (all.map Prod.fst)
  let right := width (all.map Prod.snd)
  let row (r : String × String) := "| " ++ fit left r.1 ++ " | " ++ fit right r.2 ++ " |"
  let edge := "+" ++ dashes (left + right + 5) ++ "+"
  [edge, row head, "|" ++ dashes (left + 2) ++ "+" ++ dashes (right + 2) ++ "|"]
    ++ rows.map row ++ [edge]

def render (entries : List (String × Value)) : String :=
  String.join ((lines (entries.map fun (key, v) => (key, cell v))).map (· ++ "\n"))

end DataSource.Box
