import SchemaMill.Text.Basic

/-!
# Paths

A path is a list of names below the current folder or below the root. Empty names and single points
are left out when a path is read; two points stay.
-/

namespace SchemaMill

/-- Where a path starts. -/
inductive PathStart where
  | here
  | root
  /-- At the root, written with two slashes. -/
  | doubleRoot
  deriving DecidableEq, Repr

/-- A path. -/
structure Path where
  start : PathStart := .here
  /-- The names on the way, outermost first. -/
  names : List Text := []
  deriving DecidableEq, Repr

namespace Path

/-- The start that the slashes before the first name stand for. -/
def startOf : Text → PathStart
  | '/' :: '/' :: '/' :: _ => .root
  | '/' :: '/' :: _ => .doubleRoot
  | '/' :: _ => .root
  | _ => .here

/-- The path that a text spells. -/
def ofText (t : Text) : Path :=
  ⟨startOf t, (splitWhere (· == '/') t).filter fun n => !n.isEmpty && n != ['.']⟩

/-- The slashes that a path starts with. -/
def startText : PathStart → Text
  | .here => ""
  | .root => "/"
  | .doubleRoot => "//"

/-- The text of a path; the current folder is a point. -/
def text (p : Path) : Text :=
  if p.start = .here ∧ p.names = [] then ['.']
  else startText p.start ++ joinWith ['/'] p.names

/-- The last name of a path. -/
def name (p : Path) : Text := p.names.getLast?.getD []

/-- The path of a name in a folder. -/
def child (p : Path) (name : Text) : Path := { p with names := p.names ++ [name] }

/-- A name before its last point, and from that point on. A point at either end of the name does not
count. -/
def splitName (name : Text) : Text × Text :=
  let after := (name.reverse.takeWhile (· != '.')).reverse
  let before := name.take (name.length - after.length - 1)
  if before.isEmpty || after.isEmpty then (name, []) else (before, '.' :: after)

/-- The last name of a path without its ending. -/
def stem (p : Path) : Text := (splitName p.name).1

/-- The ending of the last name of a path, with its point. -/
def extension (p : Path) : Text := (splitName p.name).2

theorem splitName_append (name : Text) : (splitName name).1 ++ (splitName name).2 = name := by
  unfold splitName
  simp only []
  split
  · simp
  · next h =>
    simp only [Bool.or_eq_true, List.isEmpty_iff, not_or] at h
    generalize hr : name.reverse = r at *
    obtain rfl : name = r.reverse := by rw [← hr, List.reverse_reverse]
    have key : r = r.takeWhile (· != '.') ++ r.dropWhile (· != '.') :=
      List.takeWhile_append_dropWhile.symm
    cases hd : r.dropWhile (· != '.') with
    | nil =>
      rw [hd, List.append_nil] at key
      rw [← key] at h
      simp at h
    | cons c rest =>
      have hc : c = '.' := by
        have := List.head?_dropWhile_not (· != '.') r
        rw [hd] at this
        simpa using this
      subst hc
      rw [hd] at key
      have hlen : r.length = (r.takeWhile (· != '.')).length + (rest.length + 1) := by
        conv => lhs; rw [key]
        simp
      have hrev : r.reverse = rest.reverse ++ '.' :: (r.takeWhile (· != '.')).reverse := by
        conv => lhs; rw [key]
        simp
      have hn : r.reverse.length - (r.takeWhile (· != '.')).reverse.length - 1
          = rest.reverse.length := by simp; omega
      rw [hn]
      conv => lhs; arg 1; rw [hrev]
      rw [List.take_left', hrev]
      rfl

end Path

end SchemaMill
