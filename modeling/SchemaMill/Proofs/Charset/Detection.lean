import SchemaMill.Proofs.Charset.Transcoding

/-!
# Encodings that are found out

Bytes whose encoding is not given are read as UTF-8 if they are well-formed (`Utf8.WellFormed`),
which they are exactly if they are written for some text (`Utf8.wellFormed_iff`). Otherwise each
byte stands for a character: in the code page of Windows, or, if that leaves one of the bytes
undefined, for the code point of its value. So any bytes are read, and they are written again as
they were, but for a mark in front of UTF-8 (`decodeSource_auto`).
-/

namespace SchemaMill.Charset

/-! ### Well-formed UTF-8 -/

namespace Utf8

/-- Whether a byte continues a character. -/
def IsTail (b : UInt8) : Prop := 0x80 ≤ b.toNat ∧ b.toNat ≤ 0xBF

/-- Whether bytes are the shortest form of a code point that is no surrogate. -/
inductive IsSequence : Bytes → Prop where
  | one {a : UInt8} (ha : a.toNat < 0x80) : IsSequence [a]
  | two {a b : UInt8} (hlow : 0xC2 ≤ a.toNat) (hhigh : a.toNat ≤ 0xDF) (hb : IsTail b) :
    IsSequence [a, b]
  | three {a b c : UInt8} (hlow : 0xE0 ≤ a.toNat) (hhigh : a.toNat ≤ 0xEF) (hb : IsTail b)
    (hc : IsTail c) (hshortest : a.toNat = 0xE0 → 0xA0 ≤ b.toNat)
    (hsurrogate : a.toNat = 0xED → b.toNat ≤ 0x9F) : IsSequence [a, b, c]
  | four {a b c d : UInt8} (hlow : 0xF0 ≤ a.toNat) (hhigh : a.toNat ≤ 0xF4) (hb : IsTail b)
    (hc : IsTail c) (hd : IsTail d) (hshortest : a.toNat = 0xF0 → 0x90 ≤ b.toNat)
    (hrange : a.toNat = 0xF4 → b.toNat ≤ 0x8F) : IsSequence [a, b, c, d]

/-- Whether bytes are such sequences, one after the other. -/
inductive WellFormed : Bytes → Prop where
  | nil : WellFormed []
  | append {bytes rest : Bytes} (h : IsSequence bytes) (hrest : WellFormed rest) :
    WellFormed (bytes ++ rest)

variable {data bytes : Bytes} {t : Text}

theorem isSequence_utf8EncodeChar (c : Char) : IsSequence (String.utf8EncodeChar c) := by
  have hrange := toNat_range c
  have hval : c.val.toNat = c.toNat := rfl
  unfold String.utf8EncodeChar
  rw [hval]
  generalize c.toNat = n at hrange
  have hbyte : ∀ m < 256, (UInt8.ofNat m).toNat = m := fun m => toNat_ofNat_of_lt
  have htail : ∀ m < 64, IsTail (UInt8.ofNat (m + 128)) := fun m hm => by
    rw [IsTail, hbyte _ (by omega)]
    omega
  dsimp only
  split
  · exact .one (by rw [hbyte _ (by omega)]; omega)
  · split
    · have ha := hbyte (n / 64 % 32 + 192) (by omega)
      exact .two (by omega) (by omega) (htail _ (by omega))
    · split
      · have ha := hbyte (n / 4096 % 16 + 224) (by omega)
        have hb := hbyte (n / 64 % 64 + 128) (by omega)
        exact .three (by omega) (by omega) (htail _ (by omega)) (htail _ (by omega)) (by omega)
          (by omega)
      · have ha := hbyte (n / 262144 % 8 + 240) (by omega)
        have hb := hbyte (n / 4096 % 64 + 128) (by omega)
        exact .four (by omega) (by omega) (htail _ (by omega)) (htail _ (by omega))
          (htail _ (by omega)) (by omega) (by omega)

theorem readRest_of_le {count low high value : Nat} {b : UInt8} {rest : Bytes}
    (hlow : low ≤ b.toNat) (hhigh : b.toNat ≤ high) :
    readRest (count + 1) low high value (b :: rest) =
      readRest count 0x80 0xBF (value * 64 + (b.toNat - 0x80)) rest := by
  rw [readRest, if_pos ⟨hlow, hhigh⟩]

/-- A sequence is read as a character, whatever stands behind it. -/
theorem IsSequence.exists_readsChar (h : IsSequence bytes) : ∃ c, ReadsChar readChar bytes c := by
  cases h with
  | @one a ha =>
    refine ⟨Char.ofNat a.toNat, a, [], rfl, fun rest => ?_⟩
    rw [readChar, if_pos ha]
    rfl
  | @two a b hlow hhigh hb =>
    refine ⟨Char.ofNat ((a.toNat - 0xC0) * 64 + (b.toNat - 0x80)), a, [b], rfl, fun rest => ?_⟩
    simp only [readChar, List.cons_append, List.nil_append]
    rw [if_neg (by omega), if_neg (by omega), if_pos (by omega), readRest_of_le hb.1 hb.2]
    rfl
  | @three a b c hlow hhigh hb hc hshortest hsurrogate =>
    refine ⟨Char.ofNat (((a.toNat - 0xE0) * 64 + (b.toNat - 0x80)) * 64 + (c.toNat - 0x80)), a,
      [b, c], rfl, fun rest => ?_⟩
    unfold IsTail at hb
    simp only [readChar, List.cons_append, List.nil_append]
    rw [if_neg (by omega), if_neg (by omega), if_neg (by omega), if_pos (by omega),
      readRest_of_le (by split <;> omega) (by split <;> omega), readRest_of_le hc.1 hc.2]
    rfl
  | @four a b c d hlow hhigh hb hc hd hshortest hrange =>
    refine ⟨Char.ofNat ((((a.toNat - 0xF0) * 64 + (b.toNat - 0x80)) * 64 + (c.toNat - 0x80)) * 64 +
      (d.toNat - 0x80)), a, [b, c, d], rfl, fun rest => ?_⟩
    unfold IsTail at hb
    simp only [readChar, List.cons_append, List.nil_append]
    rw [if_neg (by omega), if_neg (by omega), if_neg (by omega), if_neg (by omega),
      if_pos (by omega), readRest_of_le (by split <;> omega) (by split <;> omega),
      readRest_of_le hc.1 hc.2, readRest_of_le hd.1 hd.2]
    rfl

theorem IsSequence.exists_eq (h : IsSequence bytes) : ∃ c, bytes = String.utf8EncodeChar c := by
  obtain ⟨c, b, further, rfl, hread⟩ := h.exists_readsChar
  have hwritten := spells b (further ++ []) c further.length (hread [])
  rw [List.append_nil, List.take_length, Option.some.injEq] at hwritten
  exact ⟨c, hwritten.symm⟩

/-- Well-formed bytes are those that are written for texts. -/
theorem wellFormed_iff : WellFormed data ↔ ∃ t, encode t = data := by
  constructor
  · intro h
    induction h with
    | nil => exact ⟨[], rfl⟩
    | append h _ ih =>
      obtain ⟨c, rfl⟩ := h.exists_eq
      obtain ⟨t, rfl⟩ := ih
      exact ⟨c :: t, List.flatMap_cons⟩
  · rintro ⟨t, rfl⟩
    induction t with
    | nil => exact .nil
    | cons c t ih =>
      rw [encode, List.flatMap_cons]
      exact .append (isSequence_utf8EncodeChar c) ih

/-- Bytes are read as the text that they are written for. -/
theorem decode_eq_ok_iff : decode data = .ok t ↔ encode t = data := by
  constructor
  · intro h
    obtain ⟨u, hu, -, hwritten⟩ := spelled_of_decodeFrom spells [] h
    obtain rfl : t = u := hu
    exact hwritten
  · rintro rfl
    exact decodeWith_chars fun c _ => readsChar c

instance (data : Bytes) : Decidable (WellFormed data) :=
  decidable_of_iff ((decode data).isOk = true) <| by
    rw [wellFormed_iff]
    cases hdecode : decode data with
    | ok t => exact iff_of_true rfl ⟨t, decode_eq_ok_iff.mp hdecode⟩
    | error fault =>
      refine iff_of_false nofun ?_
      rintro ⟨t, ht⟩
      rw [decode_eq_ok_iff.mpr ht] at hdecode
      cases hdecode

/-! ### The byte order mark -/

/-- A text without one mark at its start. -/
def unmarked (t : Text) : Text := if t.head? = some '\uFEFF' then t.tail else t

theorem dropMark_cases (data : Bytes) :
    dropMark data = data ∨ data = encode ['\uFEFF'] ++ dropMark data := by
  unfold dropMark
  split
  · exact .inr rfl
  · exact .inl rfl

theorem encode_mark (t : Text) : encode ('\uFEFF' :: t) = 0xEF :: 0xBB :: 0xBF :: encode t := rfl

/-- Bytes that begin with a mark are written for a text that does. -/
theorem exists_of_encode_eq_mark {rest : Bytes} (h : encode t = 0xEF :: 0xBB :: 0xBF :: rest) :
    ∃ u, t = '\uFEFF' :: u ∧ encode u = rest := by
  cases t with
  | nil => cases h
  | cons c t =>
    obtain ⟨b, further, hc, hread⟩ := readsChar c
    have hbytes := h
    rw [encode, List.flatMap_cons, hc, List.cons_append, List.cons.injEq] at hbytes
    obtain ⟨rfl, hbytes⟩ := hbytes
    -- the first character is what is read of the three bytes of the mark
    have hmark : readChar 0xEF (0xBB :: 0xBF :: rest) = .ok ('\uFEFF', 2) := rfl
    have hfirst := hread (t.flatMap String.utf8EncodeChar)
    rw [hbytes, hmark, Except.ok.injEq, Prod.mk.injEq] at hfirst
    obtain ⟨rfl, -⟩ := hfirst
    rw [encode_mark] at h
    exact ⟨t, rfl, by simpa using h⟩

/-- In bytes and in texts the same is a mark. -/
theorem dropMark_encode (t : Text) : dropMark (encode t) = encode (unmarked t) := by
  unfold dropMark
  split
  · next rest hbytes =>
    obtain ⟨u, rfl, rfl⟩ := exists_of_encode_eq_mark hbytes
    rfl
  · next hno =>
    have hfirst : t.head? ≠ some '\uFEFF' := by
      intro hmark
      obtain ⟨u, rfl⟩ := List.head?_eq_some_iff.mp hmark
      exact hno _ (encode_mark u)
    rw [unmarked, if_neg hfirst]

end Utf8

/-! ### Bytes that stand for characters -/

section Single

variable {data : Bytes} {t : Text}

/-- A reader that reads each byte by itself. -/
def ReadsBytes (read : CharReader) (char? : UInt8 → Option Char) : Prop :=
  ∀ b rest c further, read b rest = .ok (c, further) ↔ char? b = some c ∧ further = 0

theorem CodePage.readsBytes (p : CodePage) : ReadsBytes p.readChar p.char? := by
  intro b rest c further
  unfold CodePage.readChar
  cases p.char? b with
  | none => simp
  | some d =>
    simp only [Except.ok.injEq, Prod.mk.injEq, Option.some.injEq]
    exact and_congr_right fun _ => eq_comm

theorem readsBytes_latin1 : ReadsBytes Encoding.readLatin1 fun b => some (byteChar b) := by
  intro b rest c further
  rw [Encoding.readLatin1, Except.ok.injEq, Prod.mk.injEq, Option.some.injEq]
  exact and_congr_right fun _ => eq_comm

variable {read : CharReader} {char? : UInt8 → Option Char}

theorem ReadsBytes.decodeFrom_eq_ok_iff (h : ReadsBytes read char?) {u : Text} (taken : Text)
    (offset : Nat) :
    decodeFrom read.chunks () taken offset 0 data = .ok u ↔
      ∃ t, u = taken.reverse ++ t ∧ data.map char? = t.map some := by
  induction data generalizing taken offset with
  | nil =>
    rw [decodeFrom_nil, Except.ok.injEq]
    constructor
    · rintro rfl
      exact ⟨[], (List.append_nil _).symm, rfl⟩
    · rintro ⟨t, rfl, ht⟩
      obtain rfl := List.map_eq_nil_iff.mp ht.symm
      exact (List.append_nil _).symm
  | cons b data ih =>
    rw [decodeFrom_zero, CharReader.chunks]
    cases hread : read b data with
    | error fault =>
      have hnone : char? b = none := Option.eq_none_iff_forall_ne_some.mpr fun c hc => by
        rw [(h b data c 0).mpr ⟨hc, rfl⟩] at hread
        cases hread
      refine iff_of_false (fun h => by cases h) ?_
      rintro ⟨t, -, ht⟩
      obtain ⟨c, rest, -, hc, -⟩ := List.map_eq_cons_iff.mp ht.symm
      rw [hnone] at hc
      cases hc
    | ok found =>
      obtain ⟨c, further⟩ := found
      obtain ⟨hc, rfl⟩ := (h b data c further).mp hread
      refine (ih (c :: taken) (offset + 1)).trans ?_
      constructor
      · rintro ⟨t, rfl, ht⟩
        exact ⟨c :: t, by simp, by rw [List.map_cons, hc, ht, List.map_cons]⟩
      · rintro ⟨t, rfl, ht⟩
        obtain ⟨d, rest, rfl, hd, hrest⟩ := List.map_eq_cons_iff.mp ht.symm
        obtain rfl : d = c := Option.some.inj (hd.trans hc)
        exact ⟨rest, by simp, hrest.symm⟩

/-- Bytes that are read one by one are a text if each of them stands for a character. -/
theorem ReadsBytes.decodeWith_eq_ok_iff (h : ReadsBytes read char?) :
    decodeWith read data = .ok t ↔ data.map char? = t.map some := by
  refine (h.decodeFrom_eq_ok_iff [] 0).trans ?_
  simp

end Single

/-- The bytes that stand for no character in the Western European code page of Windows. -/
def undefinedBytes : Bytes := [0x81, 0x8D, 0x8F, 0x90, 0x9D]

theorem char?_cp1252_eq_none_iff {b : UInt8} :
    CodePage.cp1252.char? b = none ↔ b ∈ undefinedBytes := by
  have htable : CodePage.cp1252.entries.map (· == CodePage.hole) =
      (List.range 256).map fun n => undefinedBytes.contains (UInt8.ofNat n) := by decide +kernel
  have hentry : (CodePage.cp1252.entries.map (· == CodePage.hole))[b.toNat]? =
      some (undefinedBytes.contains b) := by
    rw [htable, List.getElem?_map, List.getElem?_range b.toNat_lt, Option.map_some,
      UInt8.ofNat_toNat]
  rw [List.getElem?_map, Option.map_eq_some_iff] at hentry
  obtain ⟨c, hc, hhole⟩ := hentry
  rw [CodePage.char?, hc, ← List.contains_iff_mem, ← hhole]
  simp

theorem isExact_cp1252 : CodePage.cp1252.IsExact := by
  have hsound : Sound "latin1" := sound_of_mem (by decide)
  obtain ⟨e, hlookup, hexact, -⟩ := hsound
  obtain rfl : Encoding.page .cp1252 = e := Option.some.inj hlookup
  exact hexact

/-! ### Bytes of an unknown encoding -/

section Auto

variable {data : Bytes}

theorem decodeAuto_encode (t : Text) : decodeAuto (Utf8.encode t) = Utf8.unmarked t := by
  have hread : Utf8.decode (Utf8.dropMark (Utf8.encode t)) = .ok (Utf8.unmarked t) :=
    Utf8.decode_eq_ok_iff.mpr (Utf8.dropMark_encode t).symm
  rw [decodeAuto, hread]

/-- Bytes that are not well-formed are not read as UTF-8 behind a mark either. -/
theorem exists_decode_dropMark_eq_error (h : ¬Utf8.WellFormed data) :
    ∃ fault, Utf8.decode (Utf8.dropMark data) = .error fault := by
  cases hread : Utf8.decode (Utf8.dropMark data) with
  | error fault => exact ⟨fault, rfl⟩
  | ok t =>
    rw [Utf8.decode_eq_ok_iff] at hread
    refine absurd (Utf8.wellFormed_iff.mpr ?_) h
    rcases Utf8.dropMark_cases data with hmark | hmark
    · exact ⟨t, hread.trans hmark⟩
    · exact ⟨'\uFEFF' :: t, by rw [hmark, ← hread]; rfl⟩

theorem decodeAuto_of_windows (h : ¬Utf8.WellFormed data) {t : Text}
    (ht : data.map CodePage.cp1252.char? = t.map some) : decodeAuto data = t := by
  obtain ⟨fault, hfault⟩ := exists_decode_dropMark_eq_error h
  rw [decodeAuto, hfault, (CodePage.readsBytes _).decodeWith_eq_ok_iff.mpr ht]

theorem decodeAuto_of_undefined (h : ¬Utf8.WellFormed data)
    (hundefined : ∃ b ∈ data, b ∈ undefinedBytes) : decodeAuto data = data.map byteChar := by
  obtain ⟨fault, hfault⟩ := exists_decode_dropMark_eq_error h
  obtain ⟨b, hb, hmem⟩ := hundefined
  rw [decodeAuto, hfault]
  cases hread : decodeWith CodePage.cp1252.readChar data with
  | error fault => rfl
  | ok t =>
    rw [(CodePage.readsBytes _).decodeWith_eq_ok_iff] at hread
    have hnone : none ∈ t.map some := by
      rw [← hread, ← char?_cp1252_eq_none_iff.mpr hmem]
      exact List.mem_map_of_mem hb
    simp at hnone

/-- Where each byte stands for a character, so do the bytes for a text. -/
theorem exists_map_eq_map_some (char? : UInt8 → Option Char)
    (h : ∀ b ∈ data, char? b ≠ none) : ∃ t : Text, data.map char? = t.map some := by
  induction data with
  | nil => exact ⟨[], rfl⟩
  | cons b data ih =>
    rw [List.forall_mem_cons] at h
    obtain ⟨c, hc⟩ := Option.ne_none_iff_exists'.mp h.1
    obtain ⟨t, ht⟩ := ih h.2
    exact ⟨c :: t, by rw [List.map_cons, hc, ht, List.map_cons]⟩

end Auto

/-- Any bytes are read where their encoding is to be found out. Well-formed bytes are read as the
text in UTF-8 that they are, without a mark at its start; others are read in the code page of
Windows, or, where a byte is undefined in it, each as the code point of its value. The text is
written as the same bytes again in the encoding that was found out, but for the mark, which UTF-8
without marks leaves out and UTF-8 with marks always puts. And texts that do not begin with a mark
are read of their bytes in UTF-8. -/
theorem decodeSource_auto {given : Text} (hauto : isAuto given = true) (data : Bytes) :
    (Utf8.WellFormed data → ∃ t,
        (Encoding.utf8 false).decode data = .ok t ∧
          decodeSource given data = .ok (Utf8.unmarked t) ∧
          (Encoding.utf8 false).encode? (Utf8.unmarked t) = some ⟨Utf8.dropMark data, none⟩ ∧
          (Encoding.utf8 true).encode? (Utf8.unmarked t) =
            some ⟨Utf8.mark ++ Utf8.dropMark data, none⟩) ∧
      (¬Utf8.WellFormed data → (∀ b ∈ data, b ∉ undefinedBytes) → ∃ t,
        data.map CodePage.cp1252.char? = t.map some ∧
          decodeSource given data = .ok t ∧
          (Encoding.page .cp1252).encode? t = some ⟨data, none⟩) ∧
      (¬Utf8.WellFormed data → (∃ b ∈ data, b ∈ undefinedBytes) →
        decodeSource given data = .ok (data.map byteChar) ∧
          Encoding.latin1.encode? (data.map byteChar) = some ⟨data, none⟩) ∧
      ∀ t : Text, t.head? ≠ some '\uFEFF' → decodeSource given (Utf8.encode t) = .ok t := by
  have hfound : ∀ data, decodeSource given data = .ok (decodeAuto data) := fun data => if_pos hauto
  refine ⟨fun h => ?_, fun h hdefined => ?_, fun h hundefined => ?_, fun t hfirst => ?_⟩
  · obtain ⟨t, rfl⟩ := Utf8.wellFormed_iff.mp h
    have hread : (Encoding.utf8 false).decode (Utf8.encode t) = .ok t :=
      (Encoding.decode_eq_ok rfl).mpr (Utf8.decode_eq_ok_iff.mpr rfl)
    have hwhole : ∀ marked,
        ((Encoding.utf8 marked).encodeChars (Utf8.unmarked t)).replaced = none :=
      fun marked => Encoding.replaced_encodeChars fun _ _ => rfl
    refine ⟨t, hread, by rw [hfound, decodeAuto_encode], ?_, ?_⟩
    · rw [Utf8.dropMark_encode, ← hwhole false]
      rfl
    · rw [Utf8.dropMark_encode, ← hwhole true]
      rfl
  · obtain ⟨t, ht⟩ := exists_map_eq_map_some CodePage.cp1252.char? fun b hb hnone =>
      hdefined b hb (char?_cp1252_eq_none_iff.mp hnone)
    have hread : (Encoding.page .cp1252).decode data = .ok t :=
      (Encoding.decode_eq_ok rfl).mpr ((CodePage.readsBytes _).decodeWith_eq_ok_iff.mpr ht)
    exact ⟨t, ht, by rw [hfound, decodeAuto_of_windows h ht],
      Encoding.encode?_of_decode isExact_cp1252 hread⟩
  · have hread : Encoding.latin1.decode data = .ok (data.map byteChar) :=
      (Encoding.decode_eq_ok rfl).mpr (readsBytes_latin1.decodeWith_eq_ok_iff.mpr (by simp))
    exact ⟨by rw [hfound, decodeAuto_of_undefined h hundefined],
      Encoding.encode?_of_decode trivial hread⟩
  · rw [hfound, decodeAuto_encode, Utf8.unmarked, if_neg hfirst]

/-- A letter behind a mark; the same letter in one byte, with a euro sign; and next to a byte that
is undefined in the code page. -/
theorem decodeSource_auto_letter :
    isAuto "auto" = true ∧
      (Utf8.WellFormed [0xEF, 0xBB, 0xBF, 0xC3, 0xA9] ∧
        decodeSource "auto" [0xEF, 0xBB, 0xBF, 0xC3, 0xA9] = .ok ['é']) ∧
      (¬Utf8.WellFormed [0xE9, 0x80] ∧ (∀ b ∈ [0xE9, 0x80], b ∉ undefinedBytes) ∧
        decodeSource "auto" [0xE9, 0x80] = .ok ['é', '€']) ∧
      (¬Utf8.WellFormed [0xE9, 0x81] ∧ (∃ b ∈ [0xE9, 0x81], b ∈ undefinedBytes) ∧
        decodeSource "auto" [0xE9, 0x81] = .ok ['é', '\u0081']) ∧
      (['é'].head? ≠ some '\uFEFF' ∧ decodeSource "auto" (Utf8.encode ['é']) = .ok ['é']) := by
  have hauto : isAuto "auto" = true := by
    rw [isAuto, plainName_of_isBare (by decide)]
    rfl
  obtain ⟨hmarked, -, -, hletter⟩ := decodeSource_auto hauto [0xEF, 0xBB, 0xBF, 0xC3, 0xA9]
  obtain ⟨-, hwindows, -⟩ := decodeSource_auto hauto [0xE9, 0x80]
  obtain ⟨-, -, hundefined, -⟩ := decodeSource_auto hauto [0xE9, 0x81]
  have hwell : Utf8.WellFormed [0xEF, 0xBB, 0xBF, 0xC3, 0xA9] := by decide
  have hill : ¬Utf8.WellFormed [0xE9, 0x80] := by decide +kernel
  have hill' : ¬Utf8.WellFormed [0xE9, 0x81] := by decide +kernel
  have hdefined : ∀ b ∈ [0xE9, 0x80], b ∉ undefinedBytes := by decide +kernel
  have hbyte : ∃ b ∈ [0xE9, 0x81], b ∈ undefinedBytes := by decide +kernel
  have hfirst : ['é'].head? ≠ some '\uFEFF' := by decide +kernel
  refine ⟨hauto, ⟨hwell, ?_⟩, ⟨hill, hdefined, ?_⟩, ⟨hill', hbyte, (hundefined hill' hbyte).1⟩,
    hfirst, hletter _ hfirst⟩
  · obtain ⟨t, hread, hsource, -⟩ := hmarked hwell
    obtain rfl : ['\uFEFF', 'é'] = t := Except.ok.inj (Eq.trans (by decide) hread)
    exact hsource
  · obtain ⟨t, hread, hsource, -⟩ := hwindows hill hdefined
    have ht : t.map some = ['é', '€'].map some := hread.symm.trans (by decide +kernel)
    rw [hsource, List.map_injective_iff.mpr (Option.some_injective _) ht]

end SchemaMill.Charset
