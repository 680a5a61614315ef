import SchemaMill.Text.Blank
import SchemaMill.Text.Numeral
import SchemaMill.Text.Word

/-!
# Tidy statements

A generated statement is laid out like the others: no blanks at its ends or at the ends of its
lines, two spaces for a tabulator, and the two numbers of a type without a space between them.
-/

namespace SchemaMill.Sql

/-- Two spaces for each tabulator. -/
def expandTabs (line : Text) : Text := line.flatMap fun c => if c == '\t' then [' ', ' '] else [c]

/-- One or more digits at the start of a text, and what follows. -/
def takeNumber? (t : Text) : Option (Text × Text) :=
  let digits := t.takeWhile isDecimalDigit
  if digits.isEmpty then none else some (digits, t.dropWhile isDecimalDigit)

/-- A type name in capitals with two numbers at the start of a text: the same without the space
between the numbers, and what follows. -/
def typeArguments? (t : Text) : Option (Text × Text) := do
  let name := t.takeWhile Char.isUpper
  if name.isEmpty then none
  let afterParen ← dropPrefix? "(" (t.dropWhile Char.isUpper)
  let (precision, rest) ← takeNumber? afterParen
  let afterComma ← dropPrefix? ", " rest
  let (scale, rest) ← takeNumber? afterComma
  let rest ← dropPrefix? ")" rest
  some (name ++ ['('] ++ precision ++ [','] ++ scale ++ [')'], rest)

theorem length_typeArguments?_lt {t shown rest : Text} (h : typeArguments? t = some (shown, rest)) :
    rest.length < t.length := by
  simp only [typeArguments?, takeNumber?, bind] at h
  split at h
  · cases h
  · simp only [Option.bind_eq_some_iff] at h
    obtain ⟨a, ha, ⟨p, r⟩, hp, b, hb, ⟨s, r'⟩, hs, c, hc, h⟩ := h
    have ha := congrArg List.length (dropPrefix?_eq_some_iff.mp ha)
    have hb := congrArg List.length (dropPrefix?_eq_some_iff.mp hb)
    have hc := congrArg List.length (dropPrefix?_eq_some_iff.mp hc)
    have hd (f : Char → Bool) (u : Text) : (u.dropWhile f).length ≤ u.length :=
      (List.dropWhile_sublist f).length_le
    split at hp
    · cases hp
    · split at hs
      · cases hs
      · cases h
        cases hp
        cases hs
        have h1 := hd Char.isUpper t
        have h2 := hd isDecimalDigit a
        have h3 := hd isDecimalDigit b
        simp only [List.length_append] at ha hb hc
        have : ("(".toList).length = 1 := rfl
        have : (")".toList).length = 1 := rfl
        omega

/-- A line that follows the character `before`, with the numbers of each type closed up. A type name
begins at the start of a word. -/
def closeArguments (before : Option Char) (line : Text) : Text :=
  match line with
  | [] => []
  | c :: rest =>
    match _h : (if before.any isWordChar then none else typeArguments? (c :: rest)) with
    | some (shown, after) => shown ++ closeArguments (some ')') after
    | none => c :: closeArguments (some c) rest
termination_by line.length
decreasing_by
  · split at _h
    · cases _h
    · exact length_typeArguments?_lt _h
  · simp

/-- One line of a tidy statement. -/
def tidyLine (line : Text) : Text := closeArguments none (trimRight (expandTabs line))

/-- A statement in tidy form. -/
def tidy (t : Text) : Text := joinLines ((lines (trim t)).map tidyLine)

end SchemaMill.Sql
