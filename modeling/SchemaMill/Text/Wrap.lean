import SchemaMill.Text.Blank
import SchemaMill.Text.Width

/-!
# Lines of a given width

A text is broken into lines before each word that would go beyond the width. A word keeps the blanks
after it, and the first word the blanks before it, so the lines of a text make up the whole text. A
word that is wider than a line is cut into pieces or stands on a line of its own.
-/

namespace SchemaMill

/-- The words of a text, each with the blanks after it and the first with those before it. A text of
blanks has no words. -/
def spacedWords (t : Text) : List Text :=
  match _h : t.dropWhile isBlank with
  | [] => []
  | c :: rest =>
    let after := rest.dropWhile (!isBlank ·)
    (t.takeWhile isBlank ++ c :: rest.takeWhile (!isBlank ·) ++ after.takeWhile isBlank) ::
      spacedWords (after.dropWhile isBlank)
termination_by t.length
decreasing_by
  have h₁ := (List.dropWhile_sublist isBlank (l := t)).length_le
  have h₂ := (List.dropWhile_sublist (!isBlank ·) (l := rest)).length_le
  have h₃ := (List.dropWhile_sublist isBlank (l := rest.dropWhile (!isBlank ·))).length_le
  rw [_h, List.length_cons] at h₁
  omega

theorem spacedWords_of_dropWhile_eq_nil {t : Text} (h : t.dropWhile isBlank = []) :
    spacedWords t = [] := by
  rw [spacedWords]
  split
  · rfl
  · next he => rw [h] at he; contradiction

theorem flatten_spacedWords {t : Text} (h : t.dropWhile isBlank ≠ []) :
    (spacedWords t).flatten = t := by
  fun_induction spacedWords t with
  | case1 => contradiction
  | case2 t c rest hd after ih =>
    have ht : t.takeWhile isBlank ++ c :: rest = t := by
      rw [← hd, List.takeWhile_append_dropWhile]
    have hr : rest.takeWhile (!isBlank ·) ++ after = rest := List.takeWhile_append_dropWhile
    have ha : after.takeWhile isBlank ++ after.dropWhile isBlank = after :=
      List.takeWhile_append_dropWhile
    have hw : (spacedWords (after.dropWhile isBlank)).flatten = after.dropWhile isBlank := by
      by_cases hn : (after.dropWhile isBlank).dropWhile isBlank = []
      · rw [spacedWords_of_dropWhile_eq_nil hn]
        cases hl : after.dropWhile isBlank with
        | nil => rfl
        | cons d ds =>
          have hb := List.head?_dropWhile_not isBlank after
          rw [hl] at hb hn
          simp_all
      · exact ih hn
    rw [List.flatten_cons, hw, List.append_assoc, ha, List.append_assoc, List.cons_append, hr, ht]

/-- What happens to words that are wider than a line. -/
inductive LongWords where
  /-- They are cut into pieces. -/
  | cut
  /-- They stand on lines of their own, whole. -/
  | kept
  deriving DecidableEq, Repr

/-- Clusters in pieces of a width that follow the piece `piece` and the `used` columns of it. -/
def cutAfter (width : Nat) (piece : Text) (used : Nat) : List Cluster → List Text
  | [] => [piece]
  | k :: rest =>
    if used + k.width ≤ width then cutAfter width (piece ++ k.text) (used + k.width) rest
    else piece :: cutAfter width k.text k.width rest

theorem flatten_cutAfter (width : Nat) (piece : Text) (used : Nat) (ks : List Cluster) :
    (cutAfter width piece used ks).flatten = piece ++ ks.flatMap Cluster.text := by
  induction ks generalizing piece used with
  | nil => simp [cutAfter]
  | cons k rest ih => rw [cutAfter]; split <;> simp [ih]

theorem cutAfter_ne_nil (width : Nat) (piece : Text) (used : Nat) (ks : List Cluster) :
    cutAfter width piece used ks ≠ [] := by
  induction ks generalizing piece used with
  | nil => simp [cutAfter]
  | cons k rest ih =>
    rw [cutAfter]
    split
    · exact ih _ _
    · simp

/-- A text in pieces of a width. -/
def cut (width : Nat) (t : Text) : List Text := cutAfter width [] 0 (clusters t)

theorem flatten_cut (width : Nat) (t : Text) : (cut width t).flatten = t := by
  simp [cut, flatten_cutAfter, flatMap_clusters]

theorem cut_ne_nil (width : Nat) (t : Text) : cut width t ≠ [] := cutAfter_ne_nil _ _ _ _

/-- A line, unless nothing stands on it. -/
def lineIfAny (line : Text) : List Text := if line = [] then [] else [line]

theorem flatten_lineIfAny (line : Text) : (lineIfAny line).flatten = line := by
  unfold lineIfAny
  split <;> simp_all

/-- The lines of words that follow the words on a line, which take `used` columns of it. -/
def fillAfter (width : Nat) (long : LongWords) (line : Text) (used : Nat) :
    List Text → List Text
  | [] => [line]
  | w :: rest =>
    if used + textWidth (trimRight w) ≤ width then
      fillAfter width long (line ++ w) (used + textWidth w) rest
    else if textWidth (trimRight w) ≤ width ∨ long = .kept then
      lineIfAny line ++ fillAfter width long w (textWidth w) rest
    else
      let pieces := cut width w
      let last := pieces.getLast?.getD []
      lineIfAny line ++ pieces.dropLast ++ fillAfter width long last (textWidth last) rest

theorem flatten_fillAfter (width : Nat) (long : LongWords) (line : Text) (used : Nat)
    (ws : List Text) : (fillAfter width long line used ws).flatten = line ++ ws.flatten := by
  induction ws generalizing line used with
  | nil => simp [fillAfter]
  | cons w rest ih =>
    rw [fillAfter]
    split
    · simp [ih]
    · split
      · simp [ih, flatten_lineIfAny]
      · have hw := flatten_cut width w
        rw [← List.dropLast_concat_getLast (cut_ne_nil width w)] at hw
        conv => rhs; rw [List.flatten_cons, ← hw]
        simp [ih, flatten_lineIfAny, List.getLast?_eq_some_getLast (cut_ne_nil width w)]

/-- A text without those blanks at its end that go beyond a width. -/
def trimBeyond (width : Nat) (t : Text) : Text :=
  t.take (t.length - min (t.length - width) (t.length - (trimRight t).length))

/-- The lines of a text. -/
def wrap (width : Nat) (long : LongWords) (t : Text) : List Text :=
  match spacedWords t with
  | [] => [trimBeyond width t]
  | ws => (fillAfter width long [] 0 ws).map (trimBeyond width)

/-- The columns from one tab stop to the next. -/
def tabStop : Nat := 8

/-- A text that ends where a tab stood, with spaces up to the next tab stop. -/
def padToStop (t : Text) : Text :=
  let t := t ++ [' ']
  t ++ List.replicate ((tabStop - textWidth t % tabStop) % tabStop) ' '

/-- A text with spaces up to the next tab stop in place of each tab. -/
def expandTabs (t : Text) : Text :=
  let parts := splitWhere (· == '\t') t
  parts.dropLast.flatMap padToStop ++ parts.getLast?.getD []

/-- The first clusters, as many as fit into a width. -/
def fitting (width : Nat) : List Cluster → List Cluster
  | [] => []
  | k :: rest => if k.width ≤ width then k :: fitting (width - k.width) rest else []

/-- The number of columns of clusters. -/
def clustersWidth : List Cluster → Nat
  | [] => 0
  | k :: rest => k.width + clustersWidth rest

theorem clustersWidth_fitting (width : Nat) (ks : List Cluster) :
    clustersWidth (fitting width ks) ≤ width := by
  induction ks generalizing width with
  | nil => simp [fitting, clustersWidth]
  | cons k rest ih =>
    rw [fitting]
    split
    · have := ih (width - k.width)
      simp only [clustersWidth]
      omega
    · simp [clustersWidth]

/-- A text with spaces after it up to a width. -/
def padTo (width : Nat) (t : Text) : Text := t ++ List.replicate (width - textWidth t) ' '

/-- The start of a text that is wider than a width. Where a cluster of two columns stands across the
end, a space takes the place of its first half. -/
def cropTo (width : Nat) (t : Text) : Text :=
  let kept := fitting width (clusters t)
  kept.flatMap Cluster.text ++ List.replicate (width - clustersWidth kept) ' '

/-- A text of just a width, with an ellipsis at its end if some of it is left out. -/
def fitTo (width : Nat) (t : Text) : Text :=
  if textWidth t ≤ width then padTo width t else cropTo (width - 1) t ++ ['…']

end SchemaMill
