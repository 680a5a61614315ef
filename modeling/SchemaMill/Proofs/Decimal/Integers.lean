import Mathlib
import SchemaMill.Decimal.Number
import SchemaMill.Proofs.Text.Numerals

/-!
# Integers in double precision

The finite numbers of double precision reach up to a little below 2^1024. An integer is rounded to
one of them if it is less than half a unit beyond the largest; at the half it is rounded to the even
significand, which is the one that is out of reach (`isFinite_ofInt_iff`). The decimal digits of an
integer spell the number that the integer is rounded to (`readNumber?_decimalInt`).
-/

namespace SchemaMill

/-! ### Rounding -/

theorem roundHalfEven_le_succ (num den : Nat) : roundHalfEven num den ≤ num / den + 1 := by
  unfold roundHalfEven
  dsimp only
  split <;> omega

/-- Up to an odd number everything below the half is rounded. -/
theorem roundHalfEven_le_iff {num den k : Nat} (hden : 0 < den) (hk : k % 2 = 1) :
    roundHalfEven num den ≤ k ↔ 2 * num < (2 * k + 1) * den := by
  have hsplit : den * (num / den) + num % den = num := Nat.div_add_mod num den
  have hless : num % den < den := Nat.mod_lt num hden
  unfold roundHalfEven
  dsimp only
  generalize num / den = q at hsplit ⊢
  generalize num % den = r at hsplit hless ⊢
  rcases Nat.lt_trichotomy q k with hq | rfl | hq
  · have hnum : den * q + den ≤ den * k := by
      rw [← Nat.mul_succ]
      exact Nat.mul_le_mul_left den hq
    refine iff_of_true ?_ (by linarith)
    split <;> omega
  · have hhalf : 2 * num < (2 * q + 1) * den ↔ 2 * r < den := by
      constructor <;> intro h <;> linarith
    rw [hhalf]
    split
    · next h =>
      simp only [hk, Bool.or_eq_true, decide_eq_true_eq, Bool.and_eq_true, beq_iff_eq] at h
      omega
    · next h =>
      simp only [hk, Bool.or_eq_true, decide_eq_true_eq, Bool.and_eq_true, beq_iff_eq] at h
      omega
  · have hnum : den * k + den ≤ den * q := by
      rw [← Nat.mul_succ]
      exact Nat.mul_le_mul_left den hq
    refine iff_of_false ?_ (by linarith)
    split <;> omega

namespace Double

/-- The least whole number that is out of reach. -/
def limit : Nat := 2 ^ 1024 - 2 ^ 970

/-- A significand that is rounded up to 2^53 is halved, and the exponent is one more. -/
theorem isFinite_settled (negative : Bool) (significand : Nat) (exponent : Int) :
    (let (significand, exponent) :=
        if significand == twoPow 53 then (twoPow 52, exponent + 1) else (significand, exponent)
      if 971 < exponent then infinite negative else finite negative significand exponent).isFinite =
        true ↔ exponent < 971 ∨ exponent = 971 ∧ significand ≠ 2 ^ 53 := by
  by_cases h : (significand == twoPow 53) = true
  · have hsignificand : significand = 2 ^ 53 := beq_iff_eq.mp h
    rw [if_pos h]
    dsimp only
    split <;> simp [isFinite, hsignificand] <;> omega
  · have hsignificand : significand ≠ 2 ^ 53 := fun hs => h (beq_iff_eq.mpr hs)
    rw [if_neg h]
    dsimp only
    split
    · simp [isFinite]
      omega
    · simp [isFinite]
      omega

theorem isFinite_ofRatio_one {n : Nat} (hn : n ≠ 0) (negative : Bool) :
    (ofRatio negative n 1).isFinite = true ↔ n < limit := by
  have hlow : 2 ^ n.log2 ≤ n := Nat.log2_self_le hn
  have hhigh : n < 2 ^ (n.log2 + 1) := Nat.lt_log2_self
  have hsize : powLe (n.log2 : Int) n 1 = true := by
    simpa [powLe, twoPow] using hlow
  have hone : (1 : Nat).log2 = 0 := by decide
  unfold ofRatio
  rw [if_neg (by simpa using hn), hone]
  simp only [Nat.cast_zero, sub_zero, hsize, if_true]
  rw [max_eq_left (by omega)]
  refine (isFinite_settled _ _ _).trans ?_
  rcases Nat.lt_trichotomy n.log2 1023 with hlog | hlog | hlog
  · refine iff_of_true (.inl (by omega)) ?_
    calc n < 2 ^ (n.log2 + 1) := hhigh
      _ ≤ 2 ^ 1023 := Nat.pow_le_pow_right (by decide) hlog
      _ ≤ limit := by decide +kernel
  · -- the significand is rounded up to the next power of two, or it is not
    rw [hlog] at hhigh ⊢
    have hround := roundHalfEven_le_succ n (2 ^ 971)
    have hquotient : n / 2 ^ 971 < 2 ^ 53 :=
      Nat.div_lt_of_lt_mul (hhigh.trans_eq (by decide +kernel))
    have hlimit : (2 * (2 ^ 53 - 1) + 1) * 2 ^ 971 = 2 * limit := by decide +kernel
    have hbelow : roundHalfEven n (2 ^ 971) ≤ 2 ^ 53 - 1 ↔ n < limit := by
      rw [roundHalfEven_le_iff (by decide +kernel) (by decide), hlimit]
      exact Nat.mul_lt_mul_left (by decide)
    have hunit : twoPow (((1023 : Nat) : Int) - 52) = 2 ^ 971 := by decide +kernel
    have hone : twoPow (-(((1023 : Nat) : Int) - 52)) = 1 := rfl
    rw [hunit, hone, Nat.mul_one, Nat.one_mul, ← hbelow]
    omega
  · refine iff_of_false (by omega) (Nat.not_lt.mpr ?_)
    calc limit ≤ 2 ^ 1024 := by decide +kernel
      _ ≤ 2 ^ n.log2 := Nat.pow_le_pow_right (by decide) hlog
      _ ≤ n := hlow

theorem decimalLength_le {n : Nat} (h : n < limit) : decimalLength n ≤ 400 := by
  rw [decimalLength, Nat.length_toDigits_le_iff (by decide) (by decide)]
  exact h.trans_le (by decide +kernel)

/-- An integer is rounded to a finite number if and only if it is below the limit. -/
theorem isFinite_ofInt_iff {n : Int} : (ofInt n).isFinite = true ↔ n.natAbs < limit := by
  unfold ofInt ofDecimal
  generalize n.natAbs = m
  split
  · next hzero =>
    obtain rfl := beq_iff_eq.mp hzero
    exact iff_of_true rfl (by decide +kernel)
  · next hpos =>
    have hm : m ≠ 0 := fun h => hpos (beq_iff_eq.mpr h)
    dsimp only
    rw [Int.zero_add]
    split
    · next hlong =>
      refine iff_of_false nofun fun h => ?_
      have := decimalLength_le h
      omega
    · rw [if_neg (by omega), ← isFinite_ofRatio_one hm (decide (n < 0))]
      simp [tenPow]

end Double

/-! ### The digits of an integer -/

theorem asciiNumeral?_eq_some {t : Text} (h : ∀ c ∈ t, c.toNat < 128) :
    asciiNumeral? t = some t := by
  unfold asciiNumeral?
  induction t with
  | nil => rfl
  | cons c t ih =>
    rw [List.forall_mem_cons] at h
    rw [List.mapM_cons, if_pos h.1, ih h.2]
    rfl

theorem trimAscii_eq_self {t : Text} (h : ∀ c ∈ t, isAsciiBlank c = false) : trimAscii t = t := by
  have hdrop : ∀ u : Text, (∀ c ∈ u, isAsciiBlank c = false) → u.dropWhile isAsciiBlank = u := by
    intro u hu
    cases u with
    | nil => rfl
    | cons c u => exact List.dropWhile_cons_of_neg (by simp [hu c List.mem_cons_self])
  rw [trimAscii, hdrop t h, hdrop _ (by simpa using h), List.reverse_reverse]

theorem readSign_of_isDigit {c : Char} {t : Text} (h : c.isDigit = true) :
    readSign (c :: t) = (false, c :: t) := by
  unfold readSign
  split
  · next heq => cases heq; exact absurd h (by decide)
  · next heq => cases heq; exact absurd h (by decide)
  · rfl

theorem readSign_decimalInt (n : Int) :
    readSign (decimalInt n) = (decide (n < 0), decimal n.natAbs) := by
  cases n with
  | negSucc m => simp [decimalInt, readSign]
  | ofNat m =>
    obtain ⟨c, rest, hm, hc⟩ := decimal_eq_cons m
    rw [decimalInt, hm, readSign_of_isDigit hc, ← hm]
    rfl

theorem readNumeral?_decimalInt (n : Int) : readNumeral? (decimalInt n) = some (.ofInt n) := by
  have hdigits : ∀ c ∈ decimal n.natAbs, c.isDigit = true := fun c hc => isDigit_of_mem_decimal hc
  have htake : (decimal n.natAbs).takeWhile Char.isDigit = decimal n.natAbs :=
    List.takeWhile_eq_self_iff.mpr hdigits
  have hdrop : (decimal n.natAbs).dropWhile Char.isDigit = [] :=
    List.dropWhile_eq_nil_iff.mpr hdigits
  rw [readNumeral?, readSign_decimalInt]
  dsimp only
  rw [htake, hdrop]
  simp [decimal_ne_nil, readPower?, digitsValue_decimal, Double.ofInt]

/-- The digits of an integer spell the number that the integer is rounded to, if it is finite. -/
theorem readNumber?_decimalInt (n : Int) : readNumber? (decimalInt n) =
    if (Double.ofInt n).isFinite then some (.ofInt n) else none := by
  have hascii : ∀ c ∈ decimalInt n, c.toNat < 128 ∧ isAsciiBlank c = false := by
    intro c hc
    obtain hdigit | rfl := mem_decimalInt hc
    · obtain ⟨hlow, hhigh⟩ := toNat_of_isDigit hdigit
      have hspace : c ≠ ' ' := by
        rintro rfl
        exact absurd hlow (by decide)
      simp [isAsciiBlank, hspace]
      omega
    · decide
  rw [readNumber?, asciiNumeral?_eq_some fun c hc => (hascii c hc).1, Option.bind_eq_bind,
    Option.bind_some, trimAscii_eq_self fun c hc => (hascii c hc).2, readNumeral?_decimalInt]
  rfl

end SchemaMill
