import SchemaMill.Charset.Utf8
import SchemaMill.Charset.Wide
import SchemaMill.Proofs.Charset.Reading

/-!
# Reading the encodings of all code points

UTF-8, UTF-16 and UTF-32 write every character, and what they write of one is read as it.
-/

namespace SchemaMill.Charset

/-! ### UTF-8 -/

namespace Utf8

/-- A continuation byte of the right range adds six bits. -/
theorem readRest_cons {count low high value n : Nat} {b : UInt8} {rest : Bytes}
    (hb : b.toNat = n + 0x80) (hlow : low ≤ n + 0x80) (hhigh : n + 0x80 ≤ high) :
    readRest (count + 1) low high value (b :: rest) =
      readRest count 0x80 0xBF (value * 64 + n) rest := by
  rw [readRest, hb, if_pos ⟨hlow, hhigh⟩, Nat.add_sub_cancel]

theorem readsChar (c : Char) : ReadsChar readChar (String.utf8EncodeChar c) c := by
  have hrange := toNat_range c
  have hval : c.val.toNat = c.toNat := rfl
  unfold String.utf8EncodeChar
  rw [hval]
  generalize hn : c.toNat = n at hrange
  dsimp only
  split
  · refine ⟨_, [], rfl, fun rest => ?_⟩
    have hb := toNat_ofNat_of_lt (n := n) (by omega)
    unfold readChar
    simp only [hb]
    rw [if_pos (by omega), ofNat_eq_of_eq hn.symm]
    rfl
  · split
    · refine ⟨_, [_], rfl, fun rest => ?_⟩
      have hb := toNat_ofNat_of_lt (n := n / 64 % 32 + 192) (by omega)
      unfold readChar
      simp only [hb, List.cons_append, List.nil_append]
      rw [if_neg (by omega), if_neg (by omega), if_pos (by omega),
        readRest_cons (n := n % 64) (toNat_ofNat_of_lt (by omega)) (by omega) (by omega)]
      have hcode : (n / 64 % 32 + 192 - 192) * 64 + n % 64 = n := by omega
      rw [hcode, readRest, Except.map, ofNat_eq_of_eq hn.symm]
      rfl
    · split
      · refine ⟨_, [_, _], rfl, fun rest => ?_⟩
        have hb := toNat_ofNat_of_lt (n := n / 4096 % 16 + 224) (by omega)
        unfold readChar
        simp only [hb, List.cons_append, List.nil_append]
        rw [if_neg (by omega), if_neg (by omega), if_neg (by omega), if_pos (by omega),
          readRest_cons (n := n / 64 % 64) (toNat_ofNat_of_lt (by omega)) (by split <;> omega)
            (by split <;> omega),
          readRest_cons (n := n % 64) (toNat_ofNat_of_lt (by omega)) (by omega) (by omega)]
        have hcode : ((n / 4096 % 16 + 224 - 224) * 64 + n / 64 % 64) * 64 + n % 64 = n := by omega
        rw [hcode, readRest, Except.map, ofNat_eq_of_eq hn.symm]
        rfl
      · refine ⟨_, [_, _, _], rfl, fun rest => ?_⟩
        have hb := toNat_ofNat_of_lt (n := n / 262144 % 8 + 240) (by omega)
        unfold readChar
        simp only [hb, List.cons_append, List.nil_append]
        rw [if_neg (by omega), if_neg (by omega), if_neg (by omega), if_neg (by omega),
          if_pos (by omega),
          readRest_cons (n := n / 4096 % 64) (toNat_ofNat_of_lt (by omega)) (by split <;> omega)
            (by split <;> omega),
          readRest_cons (n := n / 64 % 64) (toNat_ofNat_of_lt (by omega)) (by omega) (by omega),
          readRest_cons (n := n % 64) (toNat_ofNat_of_lt (by omega)) (by omega) (by omega)]
        have hcode : (((n / 262144 % 8 + 240 - 240) * 64 + n / 4096 % 64) * 64 + n / 64 % 64) * 64 +
            n % 64 = n := by omega
        rw [hcode, readRest, Except.map, ofNat_eq_of_eq hn.symm]
        rfl

end Utf8

/-! ### UTF-16 -/

namespace Utf16

theorem unitBytes_eq (o : ByteOrder) (n : Nat) : ∃ a b, unitBytes o n = [a, b] := by
  cases o <;> exact ⟨_, _, rfl⟩

theorem unit_of_unitBytes {o : ByteOrder} {n : Nat} {a b : UInt8} (hn : n < 0x10000)
    (h : unitBytes o n = [a, b]) : unit o a b = n := by
  cases o <;> cases h <;>
    simp only [unit, ByteOrder.arrange, List.reverse_cons, List.reverse_nil, List.nil_append,
      List.cons_append, unitValue, UInt8.toNat_ofNat'] <;> omega

theorem readsChar (o : ByteOrder) (c : Char) : ReadsChar (readChar o) (charBytes o c) c := by
  have hrange := toNat_range c
  unfold charBytes charUnits
  generalize hn : c.toNat = n at hrange
  dsimp only
  split
  · obtain ⟨a, b, hab⟩ := unitBytes_eq o n
    refine ⟨a, [b], by simp [hab], fun rest => ?_⟩
    have hunit := unit_of_unitBytes (by omega) hab
    have hhigh : isHigh n = false := by simp [isHigh]; omega
    have hlow : isLow n = false := by simp [isLow]; omega
    simp [readChar, hunit, hhigh, hlow, ofNat_eq_of_eq hn.symm]
  · obtain ⟨high, hhigh⟩ : ∃ high, high = 0xD800 + (n - 0x10000) / 1024 := ⟨_, rfl⟩
    obtain ⟨low, hlow⟩ : ∃ low, low = 0xDC00 + (n - 0x10000) % 1024 := ⟨_, rfl⟩
    rw [← hhigh, ← hlow]
    obtain ⟨a, b, hab⟩ := unitBytes_eq o high
    obtain ⟨x, y, hxy⟩ := unitBytes_eq o low
    refine ⟨a, [b, x, y], by simp [hab, hxy], fun rest => ?_⟩
    have hfirst := unit_of_unitBytes (by omega) hab
    have hsecond := unit_of_unitBytes (by omega) hxy
    have hisHigh : isHigh high = true := by
      simp only [isHigh, Bool.and_eq_true, decide_eq_true_eq]
      omega
    have hisLow : isLow low = true := by
      simp only [isLow, Bool.and_eq_true, decide_eq_true_eq]
      omega
    have hjoined : joined high low = c.toNat := by
      unfold joined
      omega
    simp [readChar, hfirst, hsecond, hisHigh, hisLow, ofNat_eq_of_eq hjoined]

/-- A character that is read from four bytes is written as four. -/
theorem toNat_joined {high low : Nat} (hhigh : isHigh high = true) (hlow : isLow low = true) :
    (Char.ofNat (joined high low)).toNat = joined high low ∧ 0x10000 ≤ joined high low := by
  simp only [isHigh, isLow, Bool.and_eq_true, decide_eq_true_eq] at hhigh hlow
  unfold joined
  have hvalid : (0x10000 + (high - 0xD800) * 1024 + (low - 0xDC00)).isValidChar := by
    unfold Nat.isValidChar
    omega
  exact ⟨toNat_ofNat_of_isValidChar hvalid, by omega⟩

end Utf16

/-! ### UTF-32 -/

namespace Utf32

theorem readsChar (o : ByteOrder) (c : Char) : ReadsChar (readChar o) (charBytes o c) c := by
  have hrange := toNat_range c
  obtain ⟨w, x, y, z, h⟩ : ∃ w x y z, unitBytes o c.toNat = [w, x, y, z] := by
    cases o <;> exact ⟨_, _, _, _, rfl⟩
  have hcode : unitValue (o.arrange [w, x, y, z]) = c.toNat := by
    cases o <;> cases h <;>
      simp only [ByteOrder.arrange, List.reverse_cons, List.reverse_nil, List.nil_append,
        List.cons_append, unitValue, UInt8.toNat_ofNat'] <;> omega
  refine ⟨w, [x, y, z], h, fun rest => ?_⟩
  simp only [readChar, List.cons_append, List.nil_append, hcode]
  rw [if_neg (by omega), if_neg (by omega), Char.ofNat_toNat]
  rfl

end Utf32

end SchemaMill.Charset
