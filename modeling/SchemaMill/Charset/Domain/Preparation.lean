import SchemaMill.Charset.Domain.Directions
import SchemaMill.Charset.Domain.FoldedRows
import SchemaMill.Charset.Domain.Marks

/-!
# Prepared labels

Labels that look alike are made one: letters become small, forms of one character become that
character, and marks join the letters that they follow wherever there is one character for both. A
label with characters that are not seen, or with letters of both directions, is refused.
-/

namespace SchemaMill.Charset.Domain

/-! ### Folding -/

/-- What a character becomes in a row of characters of which each is followed by the `width`
characters that it becomes. -/
def foldedAmong? (c : Char) (width : Nat) : Text → Option Text
  | [] => none
  | d :: rest => if d = c then some (rest.take width) else foldedAmong? c width (rest.drop width)
termination_by row => row.length
decreasing_by rw [List.length_drop, List.length_cons]; omega

/-- The first consonant of Korean syllables. -/
def koreanLeads : Nat := 0x1100

/-- The first vowel of Korean syllables. -/
def koreanVowels : Nat := 0x1161

/-- The code point before the first consonant at the end of Korean syllables. -/
def koreanTails : Nat := 0x11A7

/-- The first Korean syllable. -/
def koreanSyllables : Nat := 0xAC00

/-- The letters of a Korean syllable. -/
def koreanLetters? (c : Char) : Option Text :=
  if koreanSyllables ≤ c.toNat && c.toNat < koreanSyllables + 11172 then
    let n := c.toNat - koreanSyllables
    let letters := [koreanLeads + n / 588, koreanVowels + n / 28 % 21]
    some ((if n % 28 = 0 then letters else letters ++ [koreanTails + n % 28]).map Char.ofNat)
  else none

/-- What a character above ASCII becomes, with its marks apart. -/
def foldedAbove (c : Char) : Text :=
  match koreanLetters? c with
  | some t => t
  | none =>
    match CaseRun.lookup foldedRuns c.toNat with
    | some n => [Char.ofNat n]
    | none =>
      let found := foldedRows.findSome? fun (width, rows) =>
        rows.findSome? fun row => foldedAmong? c width row.toList
      found.getD (lowerChar [] c [])

/-- What a character becomes, with its marks apart. -/
def folded (c : Char) : Text := if c.toNat < 128 then [c.toLower] else foldedAbove c

/-! ### Marks -/

/-- The class of a mark, or 0 for what is no mark. -/
def markClass (c : Char) : Nat :=
  match markClasses.find? fun (first, last, _) => first ≤ c.toNat && c.toNat ≤ last with
  | some (_, _, n) => n
  | none => 0

/-- A text after the marks `marks`, with each run of marks in the order of their classes. -/
def orderedAfter (marks : Text) : Text → Text
  | [] => marks.mergeSort fun a b => markClass a ≤ markClass b
  | c :: rest =>
    if markClass c = 0 then
      (marks.mergeSort fun a b => markClass a ≤ markClass b) ++ c :: orderedAfter [] rest
    else orderedAfter (marks ++ [c]) rest

/-- The syllable that Korean letters, or a syllable and a letter, make. -/
def koreanSyllable? (a b : Char) : Option Char :=
  let isVowel := koreanVowels ≤ b.toNat && b.toNat < koreanVowels + 21
  let isTail := koreanTails < b.toNat && b.toNat < koreanTails + 28
  if koreanLeads ≤ a.toNat && a.toNat < koreanLeads + 19 && isVowel then
    let lead := a.toNat - koreanLeads
    some (Char.ofNat (koreanSyllables + (lead * 21 + (b.toNat - koreanVowels)) * 28))
  else if koreanSyllables ≤ a.toNat && a.toNat < koreanSyllables + 11172 &&
      (a.toNat - koreanSyllables) % 28 = 0 && isTail then
    some (Char.ofNat (a.toNat + (b.toNat - koreanTails)))
  else none

/-- The character that two characters make in a row of such characters, each after its two. -/
def composedAmong? (a b : Char) : Text → Option Char
  | x :: y :: z :: rest => if x = a && y = b then some z else composedAmong? a b rest
  | _ => none

/-- The character that two characters make. -/
def composed? (a b : Char) : Option Char :=
  (koreanSyllable? a b).or (compositionRows.findSome? fun row => composedAmong? a b row.toList)

/-- A character, the marks `kept` after it, which it does not join, and a text, in which it joins
what it can. A mark is joined unless one of its class or a higher one is kept before it. -/
def composeAfter (c : Char) (kept : Text) : Text → Text
  | [] => c :: kept
  | d :: rest =>
    let highest := (kept.getLast?.map markClass).getD 0
    let n := markClass d
    if kept ≠ [] && n == 0 then c :: kept ++ composeAfter d [] rest
    else if kept ≠ [] && n ≤ highest then composeAfter c (kept ++ [d]) rest
    else
      match composed? c d with
      | some e => composeAfter e kept rest
      | none =>
        if n = 0 then c :: kept ++ composeAfter d [] rest else composeAfter c (kept ++ [d]) rest

/-- A text with every mark joined that can be. -/
def composed : Text → Text
  | [] => []
  | c :: rest => composeAfter c [] rest

/-! ### Labels -/

/-- Whether the letters of a label can be written in one direction. Letters from right to left
stand at both ends if there are any. -/
def isDirected (t : Text) : Bool :=
  if t.any rightToLeftRanges.covers then
    !t.any leftToRightRanges.covers && t.head?.any rightToLeftRanges.covers &&
      t.getLast?.any rightToLeftRanges.covers
  else true

/-- A label in the form that is compared. -/
def prepared? (label : Text) : Option Text :=
  let t := composed (orderedAfter [] (label.flatMap folded))
  if t.any refusedRanges.covers || !isDirected t then none else some t

end SchemaMill.Charset.Domain
