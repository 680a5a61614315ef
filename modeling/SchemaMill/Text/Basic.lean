/-!
# Text

Text is a list of code points. Lengths and offsets count code points, and every operation is a
recursion on the list, so that a law about text is an induction over its characters. A property of
characters is written as the ascending list of the inclusive ranges of code points that have it.
-/

namespace SchemaMill

/-- Text as the list of its code points. -/
abbrev Text := List Char

instance : Coe String Text := ⟨String.toList⟩

instance instLawfulBEqText : LawfulBEq Text := inferInstance

/-- What is said of every character of a text is decided along the text, and not by going through
all characters that there are. -/
instance (priority := high) decidableForallMem {p : Char → Prop} [DecidablePred p] (t : Text) :
    Decidable (∀ c ∈ t, p c) :=
  List.decidableBAll p t

instance (priority := high) decidableForallMem? {p : Char → Prop} [DecidablePred p]
    (c? : Option Char) :
    Decidable (∀ c ∈ c?, p c) :=
  Option.decidableForallMem c?

/-- The parts of a text between the characters that satisfy `p`; one more than there are of them. -/
def splitWhere (p : Char → Bool) : Text → List Text
  | [] => [[]]
  | c :: rest =>
    if p c then [] :: splitWhere p rest
    else match splitWhere p rest with
      | [] => [[c]]
      | part :: parts => (c :: part) :: parts

theorem splitWhere_ne_nil (p : Char → Bool) (t : Text) : splitWhere p t ≠ [] := by
  cases t with
  | nil => simp [splitWhere]
  | cons c rest => rw [splitWhere]; split <;> (try split) <;> simp

/-- Texts joined with a separator between each two of them. -/
def joinWith (sep : Text) : List Text → Text
  | [] => []
  | [t] => t
  | t :: rest => t ++ sep ++ joinWith sep rest

/-- Whether a text comes before another or is equal to it, where characters count by their code
points and a text comes before its continuations. -/
def isOrdered : Text → Text → Bool
  | [], _ => true
  | _ :: _, [] => false
  | a :: as, b :: bs => if a = b then isOrdered as bs else a.toNat < b.toNat

/-- What follows `lead` in a text that starts with it. -/
def dropPrefix? : (lead : Text) → Text → Option Text
  | [], t => some t
  | _ :: _, [] => none
  | p :: ps, c :: cs => if p = c then dropPrefix? ps cs else none

theorem dropPrefix?_eq_some_iff {lead t rest : Text} :
    dropPrefix? lead t = some rest ↔ t = lead ++ rest := by
  induction lead generalizing t with
  | nil => simp [dropPrefix?, eq_comm]
  | cons p ps ih =>
    cases t with
    | nil => simp [dropPrefix?]
    | cons c cs => by_cases h : p = c <;> simp [dropPrefix?, h, ih, eq_comm]

/-- Ascending inclusive ranges of code points. -/
abbrev CharRanges := List (Nat × Nat)

/-- Whether a character lies in one of the ranges; the search ends at the first range above it. -/
def CharRanges.covers : CharRanges → Char → Bool
  | [], _ => false
  | (lo, hi) :: rest, c =>
    if c.toNat < lo then false else if c.toNat ≤ hi then true else CharRanges.covers rest c

end SchemaMill
