import SchemaMill.Charset.Bytes
import SchemaMill.Charset.CodePage
import SchemaMill.Charset.Hz
import SchemaMill.Charset.Multibyte
import SchemaMill.Proofs.Charset.Reading

/-!
# Reading the encodings of some characters

Code pages and the encodings that extend ASCII have some characters only. What they write of one is
read as that character, except where a multibyte encoding writes a yen sign or an overline as the
sign of ASCII whose place it takes (`Multibyte.shown`).
-/

namespace SchemaMill.Charset

theorem CodePage.readsChar {p : CodePage} {c : Char} {b : UInt8} (h : p.byte? c = some b) :
    ReadsChar p.readChar [b] c :=
  ⟨b, [], rfl, fun rest => by rw [CodePage.readChar, char?_of_byte? h]; rfl⟩

theorem Ascii.readsChar {c : Char} (h : c.toNat < 128) :
    ReadsChar Ascii.readChar [UInt8.ofNat c.toNat] c := by
  refine ⟨_, [], rfl, fun rest => ?_⟩
  have hb := toNat_ofNat_of_lt (n := c.toNat) (by omega)
  rw [Ascii.readChar, if_pos (by rw [UInt8.lt_iff_toNat_lt, hb]; exact h),
    byteChar_ofNat_toNat (by omega)]
  rfl

theorem Ascii.decode_encode {t : Text} (h : Ascii.isAscii t = true) :
    Ascii.decode (Ascii.encode t) = .ok t := by
  have hall : ∀ c ∈ t, ReadsChar Ascii.readChar [UInt8.ofNat c.toNat] c := fun c hc =>
    Ascii.readsChar (by simpa using List.all_eq_true.mp h c hc)
  have hread := decodeWith_flatMap id hall
  rwa [List.map_id, ← List.map_eq_flatMap] at hread

namespace Hz

theorem reads {c : Char} {bytes : Bytes} (h : charBytes? c = some bytes) :
    Reads readChunk false bytes [c] false := by
  unfold charBytes? at h
  split at h
  · next hc =>
    subst hc
    cases h
    exact ⟨0x7E, [0x7E], rfl, fun rest => rfl⟩
  · next hc =>
    split at h
    · next hlow =>
      cases h
      refine ⟨_, [], rfl, fun rest => ?_⟩
      have hb := toNat_ofNat_of_lt (n := c.toNat) (by omega)
      have htilde : ¬UInt8.ofNat c.toNat = 0x7E := fun he => hc (by
        rw [← Char.ofNat_toNat c, ← hb, he]
        rfl)
      have hhigh : ¬(0x80 : UInt8) ≤ UInt8.ofNat c.toNat := by
        rw [UInt8.le_iff_toNat_le, hb]
        exact Nat.not_le.mpr hlow
      simp only [readChunk]
      rw [if_neg htilde, if_neg hhigh, byteChar_ofNat_toNat (by omega)]
      rfl
    · cases h

end Hz

namespace Multibyte

/-- What is read of the bytes of a character. -/
def shown (m : Multibyte) (c : Char) : Char :=
  if m = eucJp || m = shiftJis then
    if c = '¥' then '\\' else if c = '‾' then '~' else c
  else c

theorem readsChar_single {m : Multibyte} {b : UInt8} {c : Char} (h : m.single? b = some c) :
    ReadsChar m.readChar [b] c :=
  ⟨b, [], rfl, fun rest => by rw [readChar, h]; rfl⟩

theorem readsChar_sequence {m : Multibyte} {b b' : UInt8} {more : Bytes} {c : Char}
    (hsingle : m.single? b = none) (hlength : m.length b (some b') = more.length + 2)
    (h : m.sequence? (b :: b' :: more) = some c) :
    ReadsChar m.readChar (b :: b' :: more) c := by
  refine ⟨b, b' :: more, rfl, fun rest => ?_⟩
  have hlong : ¬(b' :: (more ++ rest)).length < more.length + 1 := by simp
  simp only [readChar, hsingle, List.cons_append, List.head?_cons, hlength, Nat.reduceSubDiff,
    List.take_succ_cons, List.take_left, h]
  rw [if_neg hlong]
  rfl

/-- The four bytes of a code point above FFFF are a sequence that stands for it. -/
theorem quadCode?_quad {code : Nat} (hlow : 0x10000 ≤ code) (hhigh : code < 0x110000) :
    ∃ a b c d, quad code = [a, b, c, d] ∧ quadCode? a b c d = some code ∧ 0x90 ≤ a.toNat ∧
      0x30 ≤ b.toNat ∧ b.toNat ≤ 0x39 := by
  obtain ⟨n, rfl⟩ : ∃ n, code = 0x10000 + n := ⟨code - 0x10000, by omega⟩
  have ha := toNat_ofNat_of_lt (n := 0x90 + n / 12600) (by omega)
  have hb := toNat_ofNat_of_lt (n := 0x30 + n / 1260 % 10) (by omega)
  have hc := toNat_ofNat_of_lt (n := 0x81 + n / 10 % 126) (by omega)
  have hd := toNat_ofNat_of_lt (n := 0x30 + n % 10) (by omega)
  refine ⟨UInt8.ofNat (0x90 + n / 12600), UInt8.ofNat (0x30 + n / 1260 % 10),
    UInt8.ofNat (0x81 + n / 10 % 126), UInt8.ofNat (0x30 + n % 10), ?_, ?_, by omega, by omega,
    by omega⟩
  · simp only [quad, Nat.add_sub_cancel_left]
  · have hnumber : (((n / 12600) * 10 + n / 1260 % 10) * 126 + n / 10 % 126) * 10 + n % 10 = n := by
      omega
    simp only [quadCode?, ha, hb, hc, hd, Nat.add_sub_cancel_left, hnumber, UInt8.le_iff_toNat_le,
      Bool.and_eq_true, decide_eq_true_eq, UInt8.reduceToNat]
    rw [if_pos (by omega), if_pos (by omega)]

theorem halfWidth?_ofNat {c : Char} (hlow : 0xFF61 ≤ c.toNat) (hhigh : c.toNat ≤ 0xFF9F) :
    halfWidth? (UInt8.ofNat (c.toNat - 0xFEC0)) = some c := by
  have hb := toNat_ofNat_of_lt (n := c.toNat - 0xFEC0) (by omega)
  have hcode : 0xFEC0 + (c.toNat - 0xFEC0) = c.toNat := by omega
  simp only [halfWidth?, UInt8.le_iff_toNat_le, hb, UInt8.reduceToNat, hcode, Char.ofNat_toNat]
  rw [if_pos (by simp; omega)]

theorem single?_of_find? {m : Multibyte} {c : Char} {b : UInt8}
    (h : ((List.range 256).map UInt8.ofNat).find? (fun b => m.single? b == some c) = some b) :
    m.single? b = some c := by
  simpa using List.find?_some h

/-- The signs that take the places of signs of ASCII are read as the latter. -/
theorem readsChar_yen {m : Multibyte} {c : Char} {bytes : Bytes} (hm : m = eucJp ∨ m = shiftJis)
    (hc : c = '¥' ∨ c = '‾') (h : m.charBytes? c = some bytes) :
    ReadsChar m.readChar bytes (m.shown c) := by
  rcases hm with rfl | rfl <;> rcases hc with rfl | rfl
  · cases h.symm.trans (show _ = some [0x5C] by decide +kernel)
    exact readsChar_single (by decide)
  · cases h.symm.trans (show _ = some [0x7E] by decide +kernel)
    exact readsChar_single (by decide)
  · cases h.symm.trans (show _ = some [0x5C] by decide +kernel)
    exact readsChar_single (by decide)
  · cases h.symm.trans (show _ = some [0x7E] by decide +kernel)
    exact readsChar_single (by decide)

theorem yenByte?_eq_none {m : Multibyte} {c : Char}
    (hc : ¬((m = eucJp ∨ m = shiftJis) ∧ (c = '¥' ∨ c = '‾')))
    (hnone : ((List.range 256).map UInt8.ofNat).find? (fun b => m.single? b == some c) = none) :
    m.yenByte? c = none := by
  unfold yenByte?
  split
  · next hm =>
    simp only [Bool.or_eq_true, decide_eq_true_eq] at hm
    -- where the signs have places of their own, these are found among the single bytes
    have hnew : c = '¥' ∨ c = '‾' → m ≠ shiftJis2004 := by
      rintro (rfl | rfl) rfl
      · exact absurd hnone (by decide +kernel)
      · exact absurd hnone (by decide +kernel)
    rw [if_neg fun hy => hc ⟨hm.resolve_right (hnew (.inl hy)), .inl hy⟩,
      if_neg fun hy => hc ⟨hm.resolve_right (hnew (.inr hy)), .inr hy⟩]
  · rfl

theorem readsChar_halfWidth {m : Multibyte} {b : UInt8} {c : Char} (hm : m = eucJp ∨ m = eucJis)
    (h : halfWidth? b = some c) : ReadsChar m.readChar [0x8E, b] c := by
  rcases hm with rfl | rfl
  · exact readsChar_sequence (by decide) rfl h
  · exact readsChar_sequence (by decide) rfl h

theorem readsChar_quad {c : Char} (h : 0x10000 ≤ c.toNat) :
    ReadsChar (readChar gb18030) (quad c.toNat) c := by
  have hhigh : c.toNat < 0x110000 := by
    have := toNat_range c
    omega
  obtain ⟨x, y, z, w, hquad, hcode, hx, hy, hy'⟩ := quadCode?_quad h hhigh
  rw [hquad]
  refine readsChar_sequence ?_ ?_ ?_
  · have habove : ¬x < 0x80 := by
      rw [UInt8.lt_iff_toNat_lt]
      exact Nat.not_lt.mpr (Nat.le_trans (by decide) hx)
    simp [single?, habove]
  · have hdigit : (0x30 ≤ y && y ≤ 0x39) = true := by
      simp only [UInt8.le_iff_toNat_le, Bool.and_eq_true, decide_eq_true_eq]
      exact ⟨hy, hy'⟩
    show (if (0x30 ≤ y && y ≤ 0x39) = true then 4 else 2) = 4
    rw [if_pos hdigit]
  · show (quadCode? x y z w).map Char.ofNat = some c
    rw [hcode, Option.map_some, Char.ofNat_toNat]

/-- What is written of a character is read as what is shown of it. -/
theorem readsChar {m : Multibyte} {c : Char} {bytes : Bytes} (h : m.charBytes? c = some bytes) :
    ReadsChar m.readChar bytes (m.shown c) := by
  by_cases hyen : (m = eucJp ∨ m = shiftJis) ∧ (c = '¥' ∨ c = '‾')
  · exact readsChar_yen hyen.1 hyen.2 h
  have hshown : m.shown c = c := by
    unfold shown
    simp only [Bool.or_eq_true, decide_eq_true_eq]
    split
    · next hm => rw [if_neg fun hc => hyen ⟨hm, .inl hc⟩, if_neg fun hc => hyen ⟨hm, .inr hc⟩]
    · rfl
  rw [hshown]
  unfold charBytes? at h
  split at h
  · next b hb =>
    cases h
    exact readsChar_single (single?_of_find? hb)
  · next hnone =>
    rw [yenByte?_eq_none hyen hnone] at h
    simp only [Bool.and_eq_true, Bool.or_eq_true, decide_eq_true_eq, beq_iff_eq] at h
    split at h
    · next hc =>
      obtain ⟨rfl, rfl⟩ := hc
      cases h
      exact readsChar_sequence (by decide) (by decide) (by decide)
    split at h
    · next hc =>
      obtain ⟨rfl, rfl⟩ := hc
      cases h
      exact readsChar_sequence (by decide) (by decide) (by decide)
    split at h
    · next hc =>
      cases h
      exact readsChar_halfWidth hc.1.1 (halfWidth?_ofNat hc.1.2 hc.2)
    split at h
    · next hc =>
      obtain ⟨rfl, hhigh⟩ := hc
      cases h
      exact readsChar_quad hhigh
    · cases h

end Multibyte

end SchemaMill.Charset
