import SchemaMill.Text.Wrap

/-!
# Tables in boxes

A table of two columns under a title. Its columns are as wide as their widest cell with a space at
either side. Where that is too wide for the terminal, the first column gives way and its cells are
broken into lines.
-/

namespace SchemaMill.Cli

/-- A table of two columns. -/
structure Table where
  /-- What stands above the table. -/
  title : Text
  /-- What stands above the columns. -/
  heading : Text × Text
  /-- The cells of each row. -/
  rows : List (Text × Text)

namespace Table

/-- The columns of the terminal. -/
def terminalWidth : Nat := 80

/-- Control characters that a terminal acts on; they are not printed. -/
def isSignal (c : Char) : Bool :=
  c.toNat == 7 || c.toNat == 8 || c.toNat == 11 || c.toNat == 12 || c.toNat == 13

/-- What is printed of a text. -/
def printed (t : Text) : Text := t.filter (!isSignal ·)

/-- The width of the widest line of a cell. -/
def cellWidth (t : Text) : Nat := ((lines (printed t)).map textWidth).foldl max 0

/-- The width of the widest cell of a column. -/
def columnWidth (cells : List Text) : Nat := (cells.map cellWidth).foldl max 0

/-- The widths of the two columns. The three borders and the spaces beside the cells leave so much
of the terminal to the cells. -/
def widths (t : Table) : Nat × Nat :=
  let first := columnWidth (t.heading.1 :: t.rows.map Prod.fst)
  let second := columnWidth (t.heading.2 :: t.rows.map Prod.snd)
  (min first (terminalWidth - 3 - 4 - second), second)

/-- The lines of a text that is broken where the text says so and at a width. -/
def brokenAt (width : Nat) (long : LongWords) (t : Text) : List Text :=
  (splitWhere (· == '\n') (printed t)).flatMap fun line =>
    wrap width long (expandTabs line)

/-- The lines of a cell. -/
def cellLines (width : Nat) (t : Text) : List Text :=
  (brokenAt width .kept t).map (fitTo width)

/-- A line across a table, with the characters that stand at its ends, between the columns and along
it. -/
def rule (widths : Nat × Nat) (left between right along : Char) : Text :=
  left :: List.replicate (widths.1 + 2) along ++ between :: List.replicate (widths.2 + 2) along ++
    [right]

/-- The lines of a row between bars. -/
def rowLines (widths : Nat × Nat) (bar : Char) (row : Text × Text) : List Text :=
  let first := cellLines widths.1 row.1
  let second := cellLines widths.2 row.2
  let line (width : Nat) (cell : List Text) (i : Nat) : Text :=
    bar :: ' ' :: padTo width (cell[i]?.getD []) ++ [' ']
  (List.range (max first.length second.length)).map fun i =>
    line widths.1 first i ++ line widths.2 second i ++ [bar]

/-- A line in the middle of a width. -/
def centred (width : Nat) (t : Text) : Text :=
  let t := trimRight t
  let t := if textWidth t ≤ width then t else cropTo width t
  let left := (width - textWidth t) / 2
  padTo width (List.replicate left ' ' ++ t)

/-- The lines of a title above a table. -/
def titleLines (width : Nat) (t : Text) : List Text := (brokenAt width .cut t).map (centred width)

/-- The text of a table. -/
def text (t : Table) : Text :=
  let w := t.widths
  let lines := titleLines (w.1 + w.2 + 7) t.title ++
    [rule w '┏' '┳' '┓' '━'] ++ rowLines w '┃' t.heading ++ [rule w '┡' '╇' '┩' '━'] ++
    t.rows.flatMap (rowLines w '│') ++ [rule w '└' '┴' '┘' '─']
  lines.flatMap (· ++ ['\n'])

end Table

end SchemaMill.Cli
