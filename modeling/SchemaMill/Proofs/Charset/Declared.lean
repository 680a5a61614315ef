import SchemaMill.Proofs.Charset.Designations
import SchemaMill.Proofs.Charset.Inserting
import SchemaMill.Proofs.Charset.Register
import SchemaMill.Proofs.Charset.Shifted
import SchemaMill.Proofs.Charset.Unicode

/-!
# Reading bytes under the name of their character set

Statements declare the character set of their bytes by a name that is found for the encoding. Bytes
are read as the text again where that name stands for the same encoding and the encoding reads what
it writes (`decode_eq_ok_iff`). Where the server's `latin1`, a code page of Windows, is declared for
the first 256 code points, only texts without the controls above ASCII are read again; where its
`utf16` or `utf32` is declared for bytes in the other order, none is (`decodeSource_charset_iff`).
-/

namespace SchemaMill.Charset

namespace Encoding

/-! ### Writing character by character -/

/-- What is written of a character. -/
def written (e : Encoding) (c : Char) : Bytes := (e.charBytes? c).getD e.substitute

variable {e : Encoding} {t : Text}

theorem bytes_encodeChars : (e.encodeChars t).bytes = e.lead ++ t.flatMap e.written := rfl

/-- Where no character is replaced, each of them has bytes. -/
theorem charBytes?_eq_some (h : (e.encodeChars t).replaced = none) {c : Char} (hc : c ∈ t) :
    e.charBytes? c = some (e.written c) := by
  have hall := List.findIdx?_eq_none_iff.mp h c hc
  obtain ⟨bytes, hbytes⟩ := Option.isSome_iff_exists.mp (by simpa using hall)
  rw [written, hbytes, Option.getD_some]

theorem readsChar_written (h : (e.encodeChars t).replaced = none) {read : CharReader}
    {shown : Char → Char}
    (hread : ∀ c bytes, e.charBytes? c = some bytes → ReadsChar read bytes (shown c)) :
    ∀ c ∈ t, ReadsChar read (e.written c) (shown c) :=
  fun c hc => hread c _ (charBytes?_eq_some h hc)

/-! ### Reading what is written -/

/-- Whether an encoding reads the bytes that it writes for a text as that text again. Of escaped
text and domain names this is said by the encoding itself. -/
def ReadsBack (e : Encoding) (t : Text) : Prop :=
  match e with
  | multibyte m => ∀ c ∈ t, m.shown c = c
  | iso2022 v => Iso2022.passes v false t = true
  | escaped _ | domain => ∃ encoded, e.encode? t = some encoded ∧ e.decode encoded.bytes = .ok t
  | _ => True

theorem decode_eq_ok {data : Bytes} {r : Except DecodeError Text}
    (h : e.decode? data = r.map some) : e.decode data = .ok t ↔ r = .ok t := by
  unfold decode
  rw [h]
  cases r <;> simp [Except.map]

theorem readsChar_latin1 {c : Char} (h : c.toNat < 256) :
    ReadsChar readLatin1 [UInt8.ofNat c.toNat] c :=
  ⟨_, [], rfl, fun rest => by rw [readLatin1, byteChar_ofNat_toNat h]; rfl⟩

theorem charBytes?_latin1 {c : Char} {bytes : Bytes} (h : latin1.charBytes? c = some bytes) :
    c.toNat < 256 ∧ bytes = [UInt8.ofNat c.toNat] := by
  rw [charBytes?] at h
  split at h
  · next hc => cases h; exact ⟨hc, rfl⟩
  · cases h

theorem charBytes?_ascii {c : Char} {bytes : Bytes} (h : ascii.charBytes? c = some bytes) :
    c.toNat < 128 ∧ bytes = [UInt8.ofNat c.toNat] := by
  rw [charBytes?] at h
  split at h
  · next hc => cases h; exact ⟨hc, rfl⟩
  · cases h

/-- An encoding that reads character by character what it writes of each reads the text again. -/
theorem decode_encodeChars {read : CharReader} (hlead : e.lead = [])
    (hdecode : ∀ data, e.decode? data = (decodeWith read data).map some)
    (hread : ∀ c bytes, e.charBytes? c = some bytes → ReadsChar read bytes c)
    (hwhole : (e.encodeChars t).replaced = none) :
    e.decode (e.encodeChars t).bytes = .ok t := by
  rw [decode_eq_ok (hdecode _), bytes_encodeChars, hlead, List.nil_append]
  exact decodeWith_chars (readsChar_written hwhole hread)

/-- A mark at the start of bytes tells the order in which they are read. -/
theorem decode_encodeChars_marked {mark : ByteOrder → Bytes} {read : ByteOrder → CharReader}
    (hlead : e.lead = mark .little)
    (hdecode : ∀ data, e.decode? data = (decodeMarked mark read data).map some)
    (hread : ∀ c bytes, e.charBytes? c = some bytes → ReadsChar (read .little) bytes c)
    (hwhole : (e.encodeChars t).replaced = none) :
    e.decode (e.encodeChars t).bytes = .ok t := by
  rw [decode_eq_ok (hdecode _), bytes_encodeChars, hlead]
  unfold decodeMarked
  dsimp only
  rw [List.take_left, if_pos rfl, List.drop_left,
    decodeFrom_chars id (readsChar_written hwhole hread), List.map_id]

theorem decode_utf8 (marked : Bool) (t : Text) :
    (utf8 marked).decode ((utf8 marked).encodeChars t).bytes = .ok t := by
  have hread : decodeWith Utf8.readChar (t.flatMap String.utf8EncodeChar) = .ok t :=
    decodeWith_chars fun c _ => Utf8.readsChar c
  rw [decode_eq_ok rfl]
  cases marked <;> exact hread

/-- A multibyte encoding reads every character as the one that is shown for it. -/
theorem decode_multibyte_iff {m : Multibyte}
    (hwhole : ((multibyte m).encodeChars t).replaced = none) :
    (multibyte m).decode ((multibyte m).encodeChars t).bytes = .ok t ↔ ∀ c ∈ t, m.shown c = c := by
  have hread : decodeWith m.readChar (t.flatMap (written (multibyte m))) = .ok (t.map m.shown) :=
    decodeWith_flatMap m.shown (readsChar_written hwhole fun c bytes hc => Multibyte.readsChar hc)
  rw [decode_eq_ok rfl]
  show decodeWith m.readChar (t.flatMap (written (multibyte m))) = .ok t ↔ _
  rw [hread, Except.ok.injEq]
  conv => lhs; rhs; rw [← List.map_id t]
  exact List.map_inj_left

theorem decode_hz (hwhole : (hz.encodeChars t).replaced = none) :
    hz.decode (hz.encodeChars t).bytes = .ok t := by
  have hread : ∀ c ∈ t, Reads Hz.readChunk false (written hz c) [c] false := fun c hc =>
    Hz.reads (charBytes?_eq_some hwhole hc)
  rw [decode_eq_ok rfl]
  show decodeFrom Hz.readChunk false [] 0 0 (t.flatMap (written hz)) = .ok t
  rw [decodeFrom_flatMap_nil (fun c => [c]) hread, ← List.map_eq_flatMap, List.map_id']

/-- An encoding with designations writes ASCII, of which it may take some for a designation. -/
theorem decode_iso2022_iff {v : Iso2022.Variant}
    (hwhole : ((iso2022 v).encodeChars t).replaced = none) :
    (iso2022 v).decode ((iso2022 v).encodeChars t).bytes = .ok t ↔
      Iso2022.passes v false t = true := by
  have hall : ∀ c ∈ t, c.toNat < 128 ∧ written (iso2022 v) c = [UInt8.ofNat c.toNat] :=
    fun c hc => charBytes?_ascii (charBytes?_eq_some hwhole hc)
  have hbytes : ((iso2022 v).encodeChars t).bytes = Ascii.encode t := by
    rw [bytes_encodeChars, Ascii.encode, List.map_eq_flatMap]
    exact List.flatMap_congr fun c hc => (hall c hc).2
  rw [hbytes, decode_eq_ok rfl]
  exact Iso2022.decode_encode_iff (List.all_eq_true.mpr fun c hc => by simpa using (hall c hc).1)

/-- Bytes without replaced characters are read as the text they were written for exactly if the
encoding reads the text again. -/
theorem decode_eq_ok_iff {encoded : Encoded} (h : e.encode? t = some encoded)
    (hwhole : encoded.replaced = none) : e.decode encoded.bytes = .ok t ↔ e.ReadsBack t := by
  cases e with
  | ascii =>
    cases h
    refine iff_of_true (decode_encodeChars rfl (fun _ => rfl) (fun c bytes hc => ?_) hwhole) trivial
    obtain ⟨hlow, rfl⟩ := charBytes?_ascii hc
    exact Ascii.readsChar hlow
  | latin1 =>
    cases h
    refine iff_of_true (decode_encodeChars rfl (fun _ => rfl) (fun c bytes hc => ?_) hwhole) trivial
    obtain ⟨hlow, rfl⟩ := charBytes?_latin1 hc
    exact readsChar_latin1 hlow
  | utf7 =>
    cases h
    exact iff_of_true ((decode_eq_ok rfl).mpr (Utf7.decode_encode t)) trivial
  | utf8 marked =>
    cases h
    exact iff_of_true (decode_utf8 marked t) trivial
  | utf16 order =>
    cases h
    have hread : ∀ c bytes, (utf16 order).charBytes? c = some bytes →
        ReadsChar (Utf16.readChar (order.getD .little)) bytes c := fun c bytes hc => by
      cases hc
      exact Utf16.readsChar _ c
    cases order with
    | none =>
      exact iff_of_true (decode_encodeChars_marked rfl (fun _ => rfl) hread hwhole) trivial
    | some o => exact iff_of_true (decode_encodeChars rfl (fun _ => rfl) hread hwhole) trivial
  | utf32 order =>
    cases h
    have hread : ∀ c bytes, (utf32 order).charBytes? c = some bytes →
        ReadsChar (Utf32.readChar (order.getD .little)) bytes c := fun c bytes hc => by
      cases hc
      exact Utf32.readsChar _ c
    cases order with
    | none =>
      exact iff_of_true (decode_encodeChars_marked rfl (fun _ => rfl) hread hwhole) trivial
    | some o => exact iff_of_true (decode_encodeChars rfl (fun _ => rfl) hread hwhole) trivial
  | page p =>
    cases h
    refine iff_of_true (decode_encodeChars rfl (fun _ => rfl) (fun c bytes hc => ?_) hwhole) trivial
    obtain ⟨b, hb, rfl⟩ := Option.map_eq_some_iff.mp hc
    exact CodePage.readsChar hb
  | multibyte m =>
    cases h
    exact decode_multibyte_iff hwhole
  | hz =>
    cases h
    exact iff_of_true (decode_hz hwhole) trivial
  | iso2022 v =>
    cases h
    exact decode_iso2022_iff hwhole
  | escaped raw | domain =>
    refine ⟨fun hread => ⟨encoded, h, hread⟩, ?_⟩
    rintro ⟨encoded', h', hread⟩
    rwa [Option.some.inj (h.symm.trans h')]
  | punycode =>
    cases h
    refine iff_of_true ?_ trivial
    have hread := Punycode.decode_encode t
    unfold decode decode?
    simp only [hread]
  | undefined => cases h

/-! ### Reading in another encoding -/

end Encoding

/-! ### Declared character sets -/

theorem decode_nil {e : Encoding} (h : e ≠ .undefined) : e.decode [] = .ok [] := by
  cases e with
  | utf8 marked => cases marked <;> rfl
  | utf16 order => cases order <;> rfl
  | utf32 order => cases order <;> rfl
  | undefined => exact absurd rfl h
  | _ => rfl

theorem decodeSource_eq_ok {charset : Text} (hauto : isAuto charset = false) {c : Codec}
    (hc : codecOf charset = .ok c) {e : Encoding} (he : c.encoding = some e) (hne : e ≠ .undefined)
    {data : Bytes} {t : Text} : decodeSource charset data = .ok t ↔ e.decode data = .ok t := by
  rw [decodeSource, hauto, if_neg Bool.false_ne_true]
  cases data with
  | nil => simp [hc, decode_nil hne, Except.map, Except.mapError]
  | cons b data =>
    rw [List.isEmpty_cons, if_neg Bool.false_ne_true, encodingOf_eq_ok.mpr ⟨c, hc, he⟩]
    show (e.decode (b :: data)).mapError (TranscodeError.ofFailure charset) = .ok t ↔ _
    cases e.decode (b :: data) <;> simp [Except.mapError]

end SchemaMill.Charset
