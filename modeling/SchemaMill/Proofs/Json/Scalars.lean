import SchemaMill.Json.Printer
import SchemaMill.Json.Reader
import SchemaMill.Proofs.Text.Numerals

/-!
# Reading texts and numbers back

Every character of a text is read from its escaped form whatever stands behind it
(`readQuoted_escaped`), so a quoted text is read up to its closing quote. The digits of an integer
are read up to the first character that could not go on with a number (`readNumber_decimalInt`).
-/

namespace SchemaMill.Json

/-! ### Texts -/

section Quoted

variable {opening taken rest : Text} {c : Char}

theorem readQuoted_close : readQuoted opening taken ('"' :: rest) = .ok (taken.reverse, rest) := by
  rw [readQuoted.eq_def]
  exact if_pos (by decide)

theorem readQuoted_plain (hquote : c ≠ '"') (hback : c ≠ '\\') (hcontrol : 32 ≤ c.toNat) :
    readQuoted opening taken (c :: rest) = readQuoted opening (c :: taken) rest := by
  rw [readQuoted.eq_def]
  dsimp only
  rw [if_neg (by simpa using hquote), if_neg (by simpa using hback), if_neg (by omega)]

theorem readQuoted_backslash {e ch : Char} {after : Text}
    (h : readEscape e after = .ok (ch, rest)) :
    readQuoted opening taken ('\\' :: e :: after) = readQuoted opening (ch :: taken) rest := by
  rw [readQuoted.eq_def]
  dsimp only
  rw [if_neg (by decide), if_pos (by decide)]
  split
  · next herror => rw [h] at herror; cases herror
  · next hok => rw [h] at hok; cases hok; rfl

theorem hexQuad?_hexDigits {n : Nat} (hn : n < 65536) (hrest : rest ≠ []) :
    hexQuad? (hexDigits 4 n ++ rest) = some (n, rest) := by
  obtain ⟨c, rest, rfl⟩ := List.exists_cons_of_ne_nil hrest
  have hdigits : hexDigits 4 n = [(n / 16 / 16 / 16 % 16).digitChar, (n / 16 / 16 % 16).digitChar,
      (n / 16 % 16).digitChar, (n % 16).digitChar] := rfl
  have hvalue : ((n / 16 / 16 / 16 % 16 * 16 + n / 16 / 16 % 16) * 16 + n / 16 % 16) * 16 +
      n % 16 = n := by omega
  rw [hdigits]
  simp only [List.cons_append, List.nil_append, hexQuad?]
  rw [hexValue?_digitChar (by omega), hexValue?_digitChar (by omega),
    hexValue?_digitChar (by omega), hexValue?_digitChar (by omega)]
  simp only [bind, Option.bind, hvalue]

theorem readCodePoint_control (hc : c.toNat < 32) (hrest : rest ≠ []) :
    readCodePoint (hexDigits 4 c.toNat ++ rest) = .ok (c, rest) := by
  have hpoint : codePoint c.toNat = c := by
    rw [codePoint, if_neg (by simp; omega), Char.ofNat_toNat]
  have hlow : (decide (0xD800 ≤ c.toNat) && decide (c.toNat < 0xDC00)) = false := by
    rw [Bool.and_eq_false_iff]
    exact .inl (by simp; omega)
  rw [readCodePoint, hexQuad?_hexDigits (by omega) hrest]
  dsimp only
  split
  · rw [hlow, Bool.false_and, if_neg Bool.false_ne_true, hpoint]
  · rw [hpoint]

/-- A character is read from its escaped form. -/
theorem readQuoted_escaped (opening taken : Text) (c : Char) (hrest : rest ≠ []) :
    readQuoted opening taken (escaped c ++ rest) = readQuoted opening (c :: taken) rest := by
  unfold escaped
  simp only [beq_iff_eq]
  -- seven characters are escaped by a letter of their own
  iterate 7
    split
    · next hc => subst hc; exact readQuoted_backslash rfl
  split
  · next hc => exact readQuoted_backslash (readCodePoint_control hc hrest)
  · next hquote hback _ _ _ _ _ hcontrol =>
    exact readQuoted_plain hquote hback (Nat.not_lt.mp hcontrol)

theorem readQuoted_flatMap (opening t rest : Text) :
    readQuoted opening [] (t.flatMap escaped ++ '"' :: rest) = .ok (t, rest) := by
  have hfrom : ∀ taken, readQuoted opening taken (t.flatMap escaped ++ '"' :: rest) =
      .ok (taken.reverse ++ t, rest) := by
    induction t with
    | nil => intro taken; rw [List.append_nil]; exact readQuoted_close
    | cons c t ih =>
      intro taken
      rw [List.flatMap_cons, List.append_assoc, readQuoted_escaped _ _ _ (by simp), ih,
        List.reverse_cons, List.append_assoc, List.singleton_append]
  exact hfrom []

end Quoted

/-! ### Numbers -/

/-- Whether no number can go on with a text. -/
def EndsNumber (rest : Text) : Prop :=
  ∀ c ∈ rest.head?, c.isDigit = false ∧ c ≠ '.' ∧ c ≠ 'e' ∧ c ≠ 'E'

section Numbers

variable {rest : Text}

theorem EndsNumber.takeWhile_append (h : EndsNumber rest) {digits : Text}
    (hdigits : ∀ c ∈ digits, c.isDigit = true) :
    (digits ++ rest).takeWhile Char.isDigit = digits ∧
      (digits ++ rest).dropWhile Char.isDigit = rest := by
  rw [List.takeWhile_append_of_pos hdigits, List.dropWhile_append_of_pos hdigits]
  cases rest with
  | nil => simp
  | cons c rest =>
    rw [List.takeWhile_cons_of_neg (by simp [(h c rfl).1]),
      List.dropWhile_cons_of_neg (by simp [(h c rfl).1]), List.append_nil]
    exact ⟨rfl, rfl⟩

theorem readWhole?_decimal (n : Nat) (h : EndsNumber rest) :
    readWhole? (decimal n ++ rest) = some (decimal n, rest) := by
  rcases decimal_cases n with ⟨-, hn⟩ | ⟨c, digits, hn, hc, hdigit, hdigits⟩
  · rw [hn]
    rfl
  · obtain ⟨htake, hdrop⟩ := h.takeWhile_append hdigits
    rw [hn, List.cons_append, readWhole?.eq_def]
    split
    · next heq => cases heq
    · next heq => cases heq; exact absurd rfl hc
    · next heq =>
      cases heq
      rw [if_pos hdigit, htake, hdrop]

theorem EndsNumber.readFraction? (h : EndsNumber rest) : readFraction? rest = none := by
  unfold Json.readFraction?
  split
  · exact absurd rfl (h '.' rfl).2.1
  · rfl

theorem EndsNumber.readExponent? (h : EndsNumber rest) : readExponent? rest = none := by
  unfold Json.readExponent?
  split
  · next e rest =>
    obtain ⟨-, -, hlower, hupper⟩ := h e rfl
    have hnone : (e == 'e' || e == 'E') = false := by simp [hlower, hupper]
    simp only [hnone, Bool.false_and]
    rw [if_neg Bool.false_ne_true]
  · rfl

theorem readNumber_of_whole {t whole : Text} (negative : Bool)
    (hnegative : (t.head? == some '-') = negative)
    (hwhole : readWhole? (if negative then t.drop 1 else t) = some (whole, rest))
    (hlength : whole.length ≤ integerLimit) (h : EndsNumber rest) :
    readNumber t = .ok (.int (if negative then -(digitsValue whole : Int) else digitsValue whole),
      rest) := by
  unfold readNumber
  simp only [hnegative, hwhole, h.readFraction?, h.readExponent?, Option.map_none,
    Option.getD_none, Option.isNone_none, Bool.and_self, if_true]
  rw [if_neg (Nat.not_lt.mpr hlength)]

/-- An integer is read from its digits. -/
theorem readNumber_decimalInt {n : Int} (hn : (decimal n.natAbs).length ≤ integerLimit)
    (h : EndsNumber rest) : readNumber (decimalInt n ++ rest) = .ok (.int n, rest) := by
  cases n with
  | ofNat m =>
    have hplain : ((decimal m ++ rest).head? == some '-') = false := by
      obtain ⟨c, digits, hm, hdigit⟩ := decimal_eq_cons m
      rw [hm, beq_eq_false_iff_ne]
      intro hhead
      cases hhead
      cases hdigit
    rw [decimalInt, readNumber_of_whole false hplain (readWhole?_decimal m h) hn h,
      if_neg Bool.false_ne_true, digitsValue_decimal]
    rfl
  | negSucc m =>
    have hread := readNumber_of_whole (t := '-' :: decimal (m + 1) ++ rest) true rfl
      (readWhole?_decimal (m + 1) h) hn h
    rw [decimalInt, hread, if_pos rfl, digitsValue_decimal]
    rfl

end Numbers

end SchemaMill.Json
