import SchemaMill.Charset.Bytes
import SchemaMill.Charset.Iso2022
import SchemaMill.Proofs.Charset.Reading

/-!
# Reading ISO 2022

Texts in ASCII are written in ISO 2022 as they are. Control characters among them may be read as
something else: an escape begins the designation of a character set, and a shift leads to another
set. `decode_encode_iff` tells which texts are read as they are.
-/

namespace SchemaMill.Charset.Iso2022

variable {v : Variant}

/-- Whether an escape before a text is read as a character. -/
def escapePasses (v : Variant) : Text → Bool
  | [] => false
  | c :: _ => !("()$.&".toList.contains c || v.hasThird && c == 'N')

/-- Whether all control characters of a text are read as they are. Nothing else is read after an
escape that passes, up to the next byte that ends an escape sequence. -/
def passes (v : Variant) : (passing : Bool) → Text → Bool
  | _, [] => true
  | true, c :: rest => passes v (!isFinal (UInt8.ofNat c.toNat)) rest
  | false, c :: rest =>
    if c = '\x1b' then escapePasses v rest && passes v true rest
    else !(v.shifts && (c == '\x0e' || c == '\x0f')) && passes v false rest

/-! ### Chunks -/

theorem readDesignation_eq_ok {s : State} {rest : Bytes} {chunk : Chunk State}
    (h : readDesignation v s rest = .ok chunk) : chunk.text = [] := by
  unfold readDesignation at h
  cases hlength : escapeLength (!v.shifts) 1 rest with
  | error fault => rw [hlength] at h; cases h
  | ok length =>
    rw [hlength] at h
    simp only [bind, Except.bind] at h
    split at h
    · split at h
      · cases h; rfl
      · cases h
    · cases h

/-- What is read after an escape is the escape itself, no character, or one for three bytes. -/
theorem readEscape_eq_ok {s : State} {rest : Bytes} {chunk : Chunk State}
    (h : readEscape v s rest = .ok chunk) :
    chunk = ⟨['\x1b'], 0, { s with passing := true }⟩ ∨ chunk.text = [] ∨
      chunk.text.length = 1 ∧ chunk.further = 2 ∧ rest ≠ [] := by
  unfold readEscape at h
  split at h
  · cases h
  · split at h
    · exact .inr (.inl (readDesignation_eq_ok h))
    · split at h
      · split at h
        · cases h
        · split at h
          · cases h; exact .inr (.inr ⟨rfl, rfl, List.cons_ne_nil _ _⟩)
          · cases h
      · cases h; exact .inl rfl

theorem readSet_eq_ok {set : CharacterSet} {s : State} {b : UInt8} {rest : Bytes}
    {chunk : Chunk State} (h : readSet set s b rest = .ok chunk) : chunk.text.length = 1 := by
  unfold readSet at h
  split at h
  · split at h <;> cases h
  · split at h
    · cases h; rfl
    · cases h

theorem length_readChunk {s : State} {b : UInt8} {rest : Bytes} {chunk : Chunk State}
    (h : readChunk v s b rest = .ok chunk) : chunk.text.length ≤ 1 := by
  unfold readChunk at h
  split at h
  · cases h; exact Nat.le_refl 1
  split at h
  · rcases readEscape_eq_ok h with rfl | htext | ⟨htext, -⟩
    · exact Nat.le_refl 1
    · rw [htext]; exact Nat.zero_le 1
    · exact Nat.le_of_eq htext
  split at h
  · cases h; exact Nat.le_refl 1
  split at h
  · cases h; exact Nat.zero_le 1
  split at h
  · cases h; exact Nat.zero_le 1
  split at h
  · cases h; exact Nat.le_refl 1
  split at h
  · cases h
  · exact Nat.le_of_eq (readSet_eq_ok h)

/-- An escape that passes is read as it is, and any other is read as fewer characters. -/
theorem readEscape_encode (s : State) {t : Text} (ht : Ascii.isAscii t = true) :
    if escapePasses v t then
      readEscape v s (Ascii.encode t) = .ok ⟨['\x1b'], 0, { s with passing := true }⟩
    else ∀ chunk, readEscape v s (Ascii.encode t) = .ok chunk →
      chunk.text.length + (t.length - chunk.further) ≤ t.length := by
  cases t with
  | nil =>
    intro chunk h
    cases h
  | cons c rest =>
    rw [Ascii.isAscii, List.all_cons, Bool.and_eq_true, decide_eq_true_eq] at ht
    have hchar : byteChar (UInt8.ofNat c.toNat) = c := byteChar_ofNat_toNat (by omega)
    have hletter : (UInt8.ofNat c.toNat == 0x4E) = (c == 'N') := by
      rw [Bool.eq_iff_iff, beq_iff_eq, beq_iff_eq]
      exact ofNat_toNat_eq_iff (d := 'N') (by omega) (by decide)
    simp only [Ascii.encode, List.map_cons, readEscape, escapePasses, hchar, hletter]
    split
    · next hpasses =>
      rw [Bool.not_eq_true', Bool.or_eq_false_iff] at hpasses
      rw [hpasses.1, hpasses.2, if_neg Bool.false_ne_true, if_neg Bool.false_ne_true]
    · next hfails =>
      rw [Bool.not_eq_true', Bool.not_eq_false, Bool.or_eq_true] at hfails
      intro chunk hchunk
      split at hchunk
      · rw [readDesignation_eq_ok hchunk]
        simp
      · next hsign =>
        rw [if_pos (hfails.resolve_left hsign)] at hchunk
        split at hchunk
        · cases hchunk
        · split at hchunk
          · next hrest _ _ _ =>
            cases hchunk
            have hlength := congrArg List.length hrest
            simp only [List.length_map, List.length_cons, List.length_nil] at hlength ⊢
            omega
          · cases hchunk

/-- A character of ASCII outside of escape sequences is read as it is, unless it is an escape or a
shift. -/
theorem readChunk_plain {c : Char} (hc : c.toNat < 128) (hescape : c ≠ '\x1b')
    (hshift : (v.shifts && (c == '\x0e' || c == '\x0f')) = false) (rest : Bytes) :
    readChunk v {} (UInt8.ofNat c.toNat) rest = .ok ⟨[c], 0, {}⟩ := by
  have hbyte : ∀ d : Char, d.toNat < 256 → (UInt8.ofNat c.toNat = UInt8.ofNat d.toNat ↔ c = d) :=
    fun d hd => ofNat_toNat_eq_iff (by omega) hd
  have hchar : byteChar (UInt8.ofNat c.toNat) = c := byteChar_ofNat_toNat (by omega)
  have hlow : ¬(0x80 : UInt8) ≤ UInt8.ofNat c.toNat := by
    rw [UInt8.le_iff_toNat_le, toNat_ofNat_of_lt (by omega)]
    exact Nat.not_le.mpr hc
  have hescape' : ¬UInt8.ofNat c.toNat = 0x1B :=
    fun h => hescape ((hbyte '\x1b' (by decide)).mp h)
  have hout : (v.shifts && UInt8.ofNat c.toNat == 0x0E) = false := by
    rw [show (UInt8.ofNat c.toNat == 0x0E) = (c == '\x0e') by
      rw [Bool.eq_iff_iff, beq_iff_eq, beq_iff_eq]; exact hbyte '\x0e' (by decide)]
    grind
  have hback : (v.shifts && UInt8.ofNat c.toNat == 0x0F) = false := by
    rw [show (UInt8.ofNat c.toNat == 0x0F) = (c == '\x0f') by
      rw [Bool.eq_iff_iff, beq_iff_eq, beq_iff_eq]; exact hbyte '\x0f' (by decide)]
    grind
  unfold readChunk
  rw [if_neg nofun, if_neg hescape']
  split
  · next hline => rw [(hbyte '\n' (by decide)).mp hline]
  · rw [hout, hback, if_neg Bool.false_ne_true, if_neg Bool.false_ne_true, hchar]
    split
    · rfl
    · unfold readSet singleChar?
      simp [asciiSet, hchar]

theorem readChunk_shift {c : Char} (hshifts : v.shifts = true) (hc : c = '\x0e' ∨ c = '\x0f')
    (rest : Bytes) :
    ∃ shifted, readChunk v {} (UInt8.ofNat c.toNat) rest = .ok ⟨[], 0, { shifted := shifted }⟩ := by
  rcases hc with rfl | rfl
  · exact ⟨true, by simp [readChunk, hshifts]⟩
  · exact ⟨false, by simp [readChunk, hshifts]⟩

/-! ### Texts -/

/-- What is read first of a text: its first character, and the rest decides; or fewer characters
than that, and the text does not pass. -/
theorem readChunk_encode (passing : Bool) {c : Char} {rest : Text} (hc : c.toNat < 128)
    (hrest : Ascii.isAscii rest = true) :
    (∃ passing', passes v passing (c :: rest) = passes v passing' rest ∧
      readChunk v { passing := passing } (UInt8.ofNat c.toNat) (Ascii.encode rest) =
        .ok ⟨[c], 0, { passing := passing' }⟩) ∨
    passes v passing (c :: rest) = false ∧ ∀ chunk,
      readChunk v { passing := passing } (UInt8.ofNat c.toNat) (Ascii.encode rest) = .ok chunk →
        chunk.text.length + (rest.length - chunk.further) ≤ rest.length := by
  cases passing with
  | true =>
    refine .inl ⟨_, rfl, ?_⟩
    rw [readChunk, if_pos rfl, byteChar_ofNat_toNat (by omega)]
  | false =>
    by_cases hescape : c = '\x1b'
    · subst hescape
      have hread : readChunk v { passing := false } (UInt8.ofNat '\x1b'.toNat)
          (Ascii.encode rest) = readEscape v {} (Ascii.encode rest) := rfl
      have hcases := readEscape_encode (v := v) {} hrest
      rw [passes, if_pos rfl, hread]
      cases hpasses : escapePasses v rest with
      | true =>
        rw [hpasses, if_pos rfl] at hcases
        exact .inl ⟨true, Bool.true_and _, hcases⟩
      | false =>
        rw [hpasses, if_neg Bool.false_ne_true] at hcases
        exact .inr ⟨Bool.false_and _, hcases⟩
    · rw [passes, if_neg hescape]
      cases hshift : v.shifts && (c == '\x0e' || c == '\x0f') with
      | false => exact .inl ⟨false, Bool.true_and _, readChunk_plain hc hescape hshift _⟩
      | true =>
        refine .inr ⟨Bool.false_and _, fun chunk hchunk => ?_⟩
        rw [Bool.and_eq_true, Bool.or_eq_true, beq_iff_eq, beq_iff_eq] at hshift
        obtain ⟨shifted, hread⟩ := readChunk_shift hshift.1 hshift.2 (Ascii.encode rest)
        rw [hread, Except.ok.injEq] at hchunk
        subst hchunk
        simp

theorem decodeFrom_encode_iff {t : Text} (ht : Ascii.isAscii t = true) (passing : Bool)
    (taken : Text) (offset : Nat) :
    decodeFrom (readChunk v) { passing := passing } taken offset 0 (Ascii.encode t) =
      .ok (taken.reverse ++ t) ↔ passes v passing t = true := by
  induction t generalizing passing taken offset with
  | nil => simp [Ascii.encode, decodeFrom_nil, passes]
  | cons c rest ih =>
    rw [Ascii.isAscii, List.all_cons, Bool.and_eq_true, decide_eq_true_eq] at ht
    obtain ⟨hc, hrest⟩ := ht
    rw [Ascii.encode, List.map_cons, ← Ascii.encode]
    rcases readChunk_encode (v := v) passing hc hrest with
      ⟨passing', hpasses, hread⟩ | ⟨hpasses, hlost⟩
    · rw [decodeFrom_zero, hpasses, hread, ← ih hrest passing' (c :: taken) (offset + 1),
        List.reverse_cons, List.append_assoc]
      rfl
    · -- fewer characters than there are cannot become as many again
      rw [hpasses]
      refine iff_of_false (fun hread => ?_) Bool.false_ne_true
      obtain ⟨chunk, hchunk, hgo⟩ := exists_chunk_of_decodeFrom hread
      have hlength := length_of_decodeFrom (fun _ _ _ _ h => length_readChunk h) hgo
      have hshort := hlost chunk hchunk
      simp only [Ascii.encode, List.length_append, List.length_reverse, List.length_cons,
        List.length_map] at hlength
      omega

/-- Which texts in ASCII are read as what they were written for. -/
theorem decode_encode_iff {t : Text} (ht : Ascii.isAscii t = true) :
    decode v (Ascii.encode t) = .ok t ↔ passes v false t = true :=
  decodeFrom_encode_iff ht false [] 0

end SchemaMill.Charset.Iso2022
