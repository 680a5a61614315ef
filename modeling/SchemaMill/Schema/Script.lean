import SchemaMill.Text.Blank

/-!
# Scripts

A script is cut into statements by its lines. Blank lines and lines that begin with a comment mark
are passed over; of the others, each one that ends in a semicolon ends a statement.

`flatten_blocks` says that the blocks and what is left open after them are all lines in their order.
-/

namespace SchemaMill.Schema

/-- Whether a text begins with a mark that makes its line a comment. -/
def beginsComment (t : Text) : Bool :=
  (dropPrefix? "--" t).isSome || (dropPrefix? "#" t).isSome

/-- Whether a line belongs to a statement. -/
def isContent (line : Text) : Bool := !(trim line).isEmpty && !beginsComment (trim line)

/-- Whether a line ends a statement. -/
def endsStatement (line : Text) : Bool := (trim line).getLast? == some ';'

/-- The lines of a script that belong to statements. -/
def contentLines (t : Text) : List Text := (lines t).filter isContent

/-- The blocks of lines that each end with a line that ends a statement, and the lines after
them. -/
def blocks : List Text → List (List Text) × List Text
  | [] => ([], [])
  | line :: more =>
    if endsStatement line then ([line] :: (blocks more).1, (blocks more).2)
    else match blocks more with
      | ([], rest) => ([], line :: rest)
      | (block :: others, rest) => ((line :: block) :: others, rest)

theorem flatten_blocks (ls : List Text) : (blocks ls).1.flatten ++ (blocks ls).2 = ls := by
  induction ls with
  | nil => rfl
  | cons line more ih =>
    rw [blocks]
    split
    · simp [ih]
    · split <;> simp_all

/-- The text of the lines of a statement. -/
def statementText (block : List Text) : Text := trim (joinLines block)

/-- The statements of a script. -/
structure Script where
  /-- The statements that are terminated, each with its semicolon. -/
  statements : List Text
  /-- The statement at the end that is not terminated, if there is one. -/
  remainder : Option Text
  deriving DecidableEq, Repr

/-- The script that a text holds. -/
def Script.ofText (t : Text) : Script :=
  match blocks (contentLines t) with
  | (bs, []) => ⟨bs.map statementText, none⟩
  | (bs, rest) => ⟨bs.map statementText, some (statementText rest)⟩

end SchemaMill.Schema
