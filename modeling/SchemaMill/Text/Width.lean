import SchemaMill.Text.Basic
import SchemaMill.Text.WidthRanges

/-!
# Widths of texts

How many columns of a terminal a text takes. A joiner makes one picture of the characters at its two
sides, so the one after it takes no column. A selector makes a picture of the character before it,
which may then take one column more.

A text is never cut inside a cluster, which is a character with all that belongs to it.
-/

namespace SchemaMill

/-- The number of columns of a character that stands alone. -/
def charWidth (c : Char) : Nat :=
  let n := c.toNat
  if n < 32 || (127 ≤ n && n < 160) then 0
  else if n < 160 then 1
  else if zeroWidthRanges.covers c then 0
  else if wideRanges.covers c then 2
  else 1

/-- The character that joins pictures. -/
def joiner : Char := '\u200D'

/-- The character that selects a picture. -/
def selector : Char := '\uFE0F'

/-- What a selector adds to the width of the character before it. -/
def widening (last : Option Char) : Nat := if last.any selectableRanges.covers then 1 else 0

/-- The number of columns of what follows the character `last`. -/
def widthAfter (last : Option Char) : Text → Nat
  | [] => 0
  | c :: rest =>
    if c = joiner then
      match rest with
      | [] => 0
      | _ :: rest => widthAfter last rest
    else if c = selector then widening last + widthAfter none rest
    else charWidth c + widthAfter (if charWidth c = 0 then last else some c) rest

/-- The number of columns of a text. -/
def textWidth (t : Text) : Nat := widthAfter none t

/-! ### Clusters -/

/-- A character with all that belongs to it. -/
structure Cluster where
  text : Text
  /-- The number of columns. -/
  width : Nat
  deriving DecidableEq, Repr

/-- A cluster with more text. -/
def Cluster.extend (k : Cluster) (t : Text) : Cluster := { k with text := k.text ++ t }

/-- The clusters from one on that is not finished yet and whose character is `last`. -/
def clustersFrom (k : Cluster) (last : Option Char) : Text → List Cluster
  | [] => [k]
  | c :: rest =>
    if c = joiner then
      match rest with
      | [] => [k.extend [c]]
      | d :: rest => clustersFrom (k.extend [c, d]) last rest
    else if c = selector then
      clustersFrom ⟨k.text ++ [c], k.width + widening last⟩ none rest
    else if charWidth c = 0 then clustersFrom (k.extend [c]) last rest
    else k :: clustersFrom ⟨[c], charWidth c⟩ (some c) rest

/-- The clusters of a text. -/
def clusters : Text → List Cluster
  | [] => []
  | c :: rest => clustersFrom ⟨[c], charWidth c⟩ (if charWidth c = 0 then none else some c) rest

theorem flatMap_clustersFrom (k : Cluster) (last : Option Char) (t : Text) :
    (clustersFrom k last t).flatMap Cluster.text = k.text ++ t := by
  fun_induction clustersFrom k last t <;> simp_all [Cluster.extend]

/-- The clusters of a text make up the whole text. -/
theorem flatMap_clusters (t : Text) : (clusters t).flatMap Cluster.text = t := by
  cases t with
  | nil => rfl
  | cons c rest => simp [clusters, flatMap_clustersFrom]

end SchemaMill
