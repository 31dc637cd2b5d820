import Tale.Text.Columns

/-! Tables drawn with characters. A column is as wide as its widest cell, measured in the columns
that characters take when they are shown. -/

set_option autoImplicit false

namespace Tale.Loom.Table

abbrev Cell := List String

def cell (text : String) : Cell := text.splitOn "\n"

def cellWidth (cell : Cell) : Nat := ((cell.map Text.columns).max?).getD 0

def widths (rows : List (List Cell)) : List Nat :=
  let count := ((rows.map List.length).max?).getD 0
  (List.range count).map fun column =>
    ((rows.map fun row => (row[column]?).elim 0 cellWidth).max?).getD 0

def padTo (width : Nat) (text : String) : String :=
  text ++ String.ofList (List.replicate (width - Text.columns text) ' ')

def rule (side crossing : String) (line : Char) (widths : List Nat) : String :=
  side ++ crossing.intercalate
    (widths.map fun width => String.ofList (List.replicate (width + 2) line)) ++ side

def rowLines (widths : List Nat) (row : List Cell) : List String :=
  let height := ((row.map List.length).max?).getD 0
  (List.range height).map fun line =>
    "|" ++ "|".intercalate ((widths.zip row).map fun (width, cell) =>
      " " ++ padTo width (cell[line]?.getD "") ++ " ") ++ "|"

def draw (heading : List String) (rows : List (List String)) : String :=
  let heading := heading.map cell
  let rows := rows.map fun row => row.map cell
  let widths := widths (heading :: rows)
  let body := [rule "|" "+" '-' widths].intercalate (rows.map (rowLines widths))
  let lines := [rule "+" "+" '-' widths] ++ rowLines widths heading ++
    [rule "+" "=" '=' widths] ++ body ++ [rule "+" "+" '-' widths]
  "\n".intercalate lines

end Tale.Loom.Table
