import EventLedger.Text.Width

namespace EventLedger

structure Table where
  headings : List String
  rows : List (List String)
deriving DecidableEq, Repr

namespace Table

def cellWidth (cell : String) : Nat := ((cell.splitOn "\n").map Text.width).foldl max 0

def maxima : List Nat → List Nat → List Nat
  | a :: as, b :: bs => max a b :: maxima as bs
  | as, [] => as
  | [], bs => bs

def widths (t : Table) : List Nat :=
  (t.headings :: t.rows).foldl (fun ws row => maxima ws (row.map cellWidth)) []

def rule (left stroke right : String) (ws : List Nat) : String :=
  left ++ stroke.intercalate (ws.map fun w => "".pushn '─' (w + 2)) ++ right

def fill (w : Nat) (line : String) : String := line.pushn ' ' (w - Text.width line)

def rowLines (ws : List Nat) (row : List String) : List String :=
  let cells := row.map (·.splitOn "\n")
  let height := (cells.map List.length).foldl max 0
  (List.range height).map fun i =>
    "│ " ++ " │ ".intercalate ((ws.zip cells).map fun c => fill c.1 ((c.2[i]?).getD "")) ++ " │"

def lines (t : Table) : List String :=
  let ws := t.widths
  rule "╭" "┬" "╮" ws :: rowLines ws t.headings ++ rule "├" "┼" "┤" ws ::
    t.rows.flatMap (rowLines ws) ++ [rule "╰" "┴" "╯" ws]

def text (t : Table) : String :=
  if t.rows.isEmpty then "No results found.\n" else "\n".intercalate t.lines ++ "\n"

end Table
end EventLedger
