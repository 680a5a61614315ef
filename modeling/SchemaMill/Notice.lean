import SchemaMill.Sql.Reader
import SchemaMill.Text.Blank
import SchemaMill.Text.Numeral

/-!
# Notices

What is worth telling about an output that is made all the same. A notice shows a statement as an
excerpt, on one line of limited length.
-/

namespace SchemaMill

/-- The most characters of an excerpt. -/
def excerptLength : Nat := 80

/-- The words of a text on one line; a line that is too long ends in three points. -/
def excerpt (t : Text) : Text :=
  let line := collapseBlanks t
  if line.length ≤ excerptLength then line
  else line.take (excerptLength - 3) ++ "...".toList

theorem length_excerpt_le (t : Text) : (excerpt t).length ≤ excerptLength := by
  unfold excerpt
  simp only []
  split
  · assumption
  · rw [List.length_append, List.length_take]
    exact Nat.le_trans (Nat.add_le_add_right (Nat.min_le_left _ _) _) (by decide)

/-- A notice about an output. -/
inductive Notice where
  /-- A statement at the end of a script is not terminated, and is left out. -/
  | unterminated (statement : Text)
  /-- A table definition cannot be read, and is kept as it is. -/
  | unread (reason : Sql.ReadError) (statement : Text)
  | redefined (table : Text)
  /-- A table comes before one that it references, since they reference each other. -/
  | cycle (table dependency : Text)
  /-- A table references one that is not defined. -/
  | undefined (table dependency : Text)
  /-- Characters have no place in an encoding; the first of them stands at an offset. -/
  | replaced (encoding : Text) (offset : Nat)
  deriving DecidableEq, Repr

/-- A notice in words. -/
def Notice.message : Notice → Text
  | unterminated statement =>
    "Dropping unterminated trailing statement: ".toList ++ excerpt statement
  | unread reason statement =>
    "Keeping original statement (".toList ++ reason.reason ++ "): ".toList ++ excerpt statement
  | redefined table =>
    "Table ".toList ++ table ++ " is defined more than once, keeping the last".toList
  | cycle table dependency =>
    "Cycle: ".toList ++ table ++ " -> ".toList ++ dependency ++ " cannot be ordered".toList
  | undefined table dependency =>
    "Table ".toList ++ table ++ " references undefined table ".toList ++ dependency
  | replaced encoding offset =>
    "Characters not representable in ".toList ++ encoding ++
      " were replaced (first at offset ".toList ++ decimal offset ++ [')']

end SchemaMill
