import ModelCatalog.Text.Width

namespace ModelCatalog.Terminal

structure Table where
  header : List String
  rows : List (List String)

namespace Table

def cellLines (cell : String) : List String := cell.splitOn "\n"
def cellWidth (cell : String) : Nat := ((cellLines cell).map Text.width).foldl max 0

def widths (t : Table) : List Nat :=
  t.rows.foldl (fun widths row => List.zipWith max widths (row.map cellWidth))
    (t.header.map cellWidth)

def repeated (text : String) (n : Nat) : String := String.join (List.replicate n text)

def padTo (width : Nat) (text : String) : String := text ++ repeated " " (width - Text.width text)

def rule (widths : List Nat) (left line joint right : String) : String :=
  left ++ joint.intercalate (widths.map fun w => repeated line (w + 2)) ++ right

def rowLines (widths : List Nat) (row : List String) : List String :=
  let cells := row.map cellLines
  let height := (cells.map List.length).foldl max 0
  (List.range height).map fun k =>
    "│ " ++ " ┆ ".intercalate (List.zipWith (fun w lines => padTo w (lines.getD k "")) widths cells)
      ++ " │"

def lines (t : Table) : List String :=
  let widths := t.widths
  [rule widths "┌" "─" "┬" "┐"] ++ rowLines widths t.header ++ [rule widths "╞" "═" "╪" "╡"]
    ++ t.rows.flatMap (rowLines widths) ++ [rule widths "└" "─" "┴" "┘"]

def text (t : Table) : String := "\n".intercalate t.lines

end Table

def shorten (limit : Nat) (text : String) : String :=
  if limit < text.length then String.ofList (text.toList.take (limit - 3)) ++ "..." else text

end ModelCatalog.Terminal
