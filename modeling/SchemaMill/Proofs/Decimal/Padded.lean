import Mathlib
import SchemaMill.Proofs.Decimal.Integers
import SchemaMill.Proofs.Script.Statements

/-!
# Numbers with blanks around them

A text that spells a number spells the same one without the blanks around it (`readNumber?_trim`).
The two kinds of blank differ, since four control characters are blanks of a text and not of a
number. But only digits, signs, the point and the mark of the power stand in a numeral
(`isNumeralChar_of_readNumeral?`), so where a number is read none of the four is at its ends.
-/

namespace SchemaMill

variable {t u : Text} {d : Double}

/-! ### Numerals -/

/-- The characters of numerals. -/
def isNumeralChar (c : Char) : Bool := c.isDigit || ['-', '+', '.', 'e', 'E'].contains c

theorem isBlank_of_isNumeralChar {c : Char} (h : isNumeralChar c) : isBlank c = false := by
  rw [isNumeralChar, Bool.or_eq_true, List.contains_iff_mem] at h
  rcases h with hdigit | hmark
  · exact isBlank_of_isDigit hdigit
  · have hmarks : ∀ c ∈ ['-', '+', '.', 'e', 'E'], isBlank c = false := by decide
    exact hmarks c hmark

theorem isNumeralChar_readSign (h : ∀ c ∈ (readSign t).2, isNumeralChar c) :
    ∀ c ∈ t, isNumeralChar c := by
  unfold readSign at h
  split at h
  · exact List.forall_mem_cons.mpr ⟨by decide, h⟩
  · exact List.forall_mem_cons.mpr ⟨by decide, h⟩
  · exact h

theorem isNumeralChar_of_readPower? {k : Int} (h : readPower? t = some k) :
    ∀ c ∈ t, isNumeralChar c := by
  cases t with
  | nil => simp
  | cons e rest =>
    simp only [readPower?] at h
    split at h
    · next hpower =>
      simp only [Bool.and_eq_true, Bool.or_eq_true, beq_iff_eq, List.all_eq_true] at hpower
      obtain ⟨⟨he, -⟩, hdigits⟩ := hpower
      refine List.forall_mem_cons.mpr ⟨?_, isNumeralChar_readSign fun c hc => ?_⟩
      · rcases he with rfl | rfl <;> decide
      · rw [isNumeralChar, hdigits c hc, Bool.true_or]
    · cases h

theorem isNumeralChar_of_dropWhile (h : ∀ c ∈ t.dropWhile Char.isDigit, isNumeralChar c) :
    ∀ c ∈ t, isNumeralChar c := by
  intro c hc
  rw [← List.takeWhile_append_dropWhile (p := Char.isDigit) (l := t), List.mem_append] at hc
  rcases hc with hwhole | hrest
  · rw [isNumeralChar, List.mem_takeWhile_imp hwhole, Bool.true_or]
  · exact h c hrest

theorem isNumeralChar_of_readNumeral? (h : readNumeral? t = some d) :
    ∀ c ∈ t, isNumeralChar c := by
  unfold readNumeral? at h
  dsimp only at h
  refine isNumeralChar_readSign (isNumeralChar_of_dropWhile ?_)
  split at h <;> split at h
  · cases h
  · next rest hpoint _ =>
    obtain ⟨power, hpower, -⟩ := Option.map_eq_some_iff.mp h
    rw [hpoint]
    exact List.forall_mem_cons.mpr
      ⟨by decide, isNumeralChar_of_dropWhile (isNumeralChar_of_readPower? hpower)⟩
  · cases h
  · obtain ⟨power, hpower, -⟩ := Option.map_eq_some_iff.mp h
    exact isNumeralChar_of_readPower? hpower

/-! ### Blanks -/

theorem exists_trimAscii (t : Text) : ∃ lead trail, t = lead ++ (trimAscii t ++ trail) ∧
    (∀ c ∈ lead, isAsciiBlank c) ∧ ∀ c ∈ trail, isAsciiBlank c := by
  refine ⟨t.takeWhile isAsciiBlank,
    ((t.dropWhile isAsciiBlank).reverse.takeWhile isAsciiBlank).reverse, ?_, ?_, ?_⟩
  · rw [trimAscii, ← List.reverse_append, List.takeWhile_append_dropWhile, List.reverse_reverse,
      List.takeWhile_append_dropWhile]
  · exact fun c hc => List.mem_takeWhile_imp hc
  · exact fun c hc => List.mem_takeWhile_imp (List.mem_reverse.mp hc)

theorem trimAscii_append {lead trail : Text} (hlead : ∀ c ∈ lead, isAsciiBlank c)
    (htrail : ∀ c ∈ trail, isAsciiBlank c) : trimAscii (lead ++ (t ++ trail)) = trimAscii t := by
  have hdrop : ∀ x y : Text, (∀ c ∈ x, isAsciiBlank c) →
      (x ++ y).dropWhile isAsciiBlank = y.dropWhile isAsciiBlank := by
    intro x y hx
    rw [List.dropWhile_append, List.dropWhile_eq_nil_iff.mpr hx]
    rfl
  rw [trimAscii, trimAscii, hdrop lead _ hlead, List.dropWhile_append]
  split
  · next hnone =>
    have htrail' := List.dropWhile_eq_nil_iff.mpr htrail
    rw [htrail', List.isEmpty_iff.mp hnone]
  · rw [List.reverse_append, hdrop _ _ fun c hc => htrail c (List.mem_reverse.mp hc)]

theorem isBlank_of_asciiNumeral? {a : Text} (h : asciiNumeral? t = some a)
    (ht : ∀ c ∈ t, isBlank c) : ∀ c ∈ a, isBlank c := by
  unfold asciiNumeral? at h
  induction t generalizing a with
  | nil => cases h; simp
  | cons c t ih =>
    rw [List.forall_mem_cons] at ht
    rw [List.mapM_cons] at h
    simp only [bind, pure, Option.bind_eq_some_iff] at h
    obtain ⟨b, hb, rest, hrest, ⟨⟩⟩ := h
    refine List.forall_mem_cons.mpr ⟨?_, ih hrest ht.2⟩
    rw [if_pos ht.1] at hb
    split at hb
    · cases hb; exact ht.1
    · cases hb; decide

/-- A text that spells a number spells it without the blanks around it. -/
theorem readNumber?_trim (h : readNumber? t = some d) : readNumber? (trim t) = some d := by
  obtain ⟨lead, trail, ht, hlead, htrail⟩ := Schema.exists_trim t
  simp only [readNumber?, bind, Option.bind_eq_some_iff] at h ⊢
  obtain ⟨a, ha, n, hn, hfinite⟩ := h
  rw [ht, asciiNumeral?, List.mapM_append, List.mapM_append] at ha
  simp only [bind, pure, Option.bind_eq_some_iff] at ha
  obtain ⟨x, hx, b, ⟨m, hm, y, hy, ⟨⟩⟩, ⟨⟩⟩ := ha
  -- every character of the numeral is of a number or a blank of ASCII
  obtain ⟨lead', trail', hsplit, hlead', htrail'⟩ := exists_trimAscii (x ++ (m ++ y))
  have hchars : ∀ c ∈ x ++ (m ++ y), isBlank c → isAsciiBlank c := by
    intro c hc hblank
    rw [hsplit, List.mem_append, List.mem_append] at hc
    rcases hc with hc | hc | hc
    · exact hlead' c hc
    · have hno := isBlank_of_isNumeralChar (isNumeralChar_of_readNumeral? hn c hc)
      rw [hblank] at hno
      cases hno
    · exact htrail' c hc
  have hx' : ∀ c ∈ x, isAsciiBlank c := fun c hc =>
    hchars c (by simp [hc]) (isBlank_of_asciiNumeral? hx hlead c hc)
  have hy' : ∀ c ∈ y, isAsciiBlank c := fun c hc =>
    hchars c (by simp [hc]) (isBlank_of_asciiNumeral? hy htrail c hc)
  rw [trimAscii_append hx' hy'] at hn
  exact ⟨m, hm, n, hn, hfinite⟩

end SchemaMill
