import SchemaMill.Proofs.Charset.Declared
import SchemaMill.Proofs.Charset.Spelling

/-!
# Moving bytes between character sets

Of the character sets of the server thirteen have one spelling for each text: what is read in one of
them is written again as it was (`encode?_of_decode`). Bytes that are moved from one to another that
has all their characters, and back again, are therefore what they were, and nothing is replaced on
the way (`transcode_exact`). Eleven of the thirteen extend ASCII, so that bytes in ASCII stay as
they are.
-/

namespace SchemaMill.Charset

namespace Encoding

/-! ### Exact encodings -/

/-- The encoding reads no bytes as a text but those that it writes for it. -/
def IsExact : Encoding → Prop
  | ascii | latin1 | utf8 false | utf16 (some _) | utf32 (some _) => True
  | page p => p.IsExact
  | _ => False

variable {e : Encoding} {data : Bytes} {t : Text}

/-- An exact encoding reads characters one by one, each from what it writes for it. -/
theorem exists_spells (h : e.IsExact) (data : Bytes) (t : Text) :
    e.lead = [] ∧ e.encode? t = some (e.encodeChars t) ∧
      ∃ read, Spells read e.charBytes? ∧
        (e.decode data = .ok t ↔ decodeWith read data = .ok t) := by
  cases e with
  | ascii => exact ⟨rfl, rfl, _, Ascii.spells, decode_eq_ok rfl⟩
  | latin1 => exact ⟨rfl, rfl, _, spells_latin1, decode_eq_ok rfl⟩
  | page p => exact ⟨rfl, rfl, _, CodePage.spells h, decode_eq_ok rfl⟩
  | utf8 marked =>
    cases marked with
    | true => cases h
    | false => exact ⟨rfl, rfl, _, Utf8.spells, decode_eq_ok rfl⟩
  | utf16 order =>
    cases order with
    | none => cases h
    | some o => exact ⟨rfl, rfl, _, Utf16.spells o, decode_eq_ok rfl⟩
  | utf32 order =>
    cases order with
    | none => cases h
    | some o => exact ⟨rfl, rfl, _, Utf32.spells o, decode_eq_ok rfl⟩
  | _ => cases h

theorem IsExact.readsBack (h : e.IsExact) : e.ReadsBack t := by
  cases e with
  | multibyte m => cases h
  | iso2022 v => cases h
  | escaped raw => cases h
  | domain => cases h
  | _ => trivial

theorem replaced_encodeChars (h : ∀ c ∈ t, (e.charBytes? c).isSome) :
    (e.encodeChars t).replaced = none :=
  List.findIdx?_eq_none_iff.mpr fun c hc => by rw [Option.isNone_eq_false_iff]; exact h c hc

theorem isSome_charBytes?_of_decode (h : e.IsExact) (hdecode : e.decode data = .ok t) :
    ∀ c ∈ t, (e.charBytes? c).isSome := by
  obtain ⟨-, -, read, hspells, hread⟩ := exists_spells h data t
  obtain ⟨u, rfl, hall, -⟩ := spelled_of_decodeFrom hspells [] (hread.mp hdecode)
  exact hall

/-- Bytes that are read are written again as they were. -/
theorem encode?_of_decode (h : e.IsExact) (hdecode : e.decode data = .ok t) :
    e.encode? t = some ⟨data, none⟩ := by
  obtain ⟨hlead, hencode, read, hspells, hread⟩ := exists_spells h data t
  obtain ⟨u, hu, hall, hwritten⟩ :=
    spelled_of_decodeFrom hspells e.substitute (hread.mp hdecode)
  obtain rfl : t = u := hu
  rw [hencode, ← replaced_encodeChars hall, encodeChars, hlead, hwritten]
  rfl

theorem exists_encode?_of_isSome (h : e.IsExact) (hall : ∀ c ∈ t, (e.charBytes? c).isSome) :
    ∃ moved, e.encode? t = some ⟨moved, none⟩ ∧ e.decode moved = .ok t := by
  obtain ⟨-, hencode, -⟩ := exists_spells h [] t
  have hencoded : e.encode? t = some ⟨(e.encodeChars t).bytes, none⟩ := by
    rw [hencode, ← replaced_encodeChars hall]
  exact ⟨_, hencoded, (decode_eq_ok_iff hencoded rfl).mpr h.readsBack⟩

/-! ### Encodings that extend ASCII -/

/-- The encoding has the characters of ASCII as single bytes, each at its place. -/
def ExtendsAscii : Encoding → Prop
  | ascii | utf8 false => True
  | page p => ∃ rows, p = .extendingAscii rows
  | _ => False

theorem charBytes?_of_ascii (h : e.IsExact) (hascii : e.ExtendsAscii)
    {c : Char} (hc : c.toNat < 128) : e.charBytes? c = some [UInt8.ofNat c.toNat] := by
  cases e with
  | ascii => exact if_pos hc
  | utf8 marked =>
    have hval : c.val.toNat = c.toNat := rfl
    rw [charBytes?, String.utf8EncodeChar, hval, if_pos (by omega)]
  | page p =>
    obtain ⟨rows, rfl⟩ := hascii
    rw [charBytes?, CodePage.byte?_of_char? h (CodePage.char?_extendingAscii rows hc),
      Option.map_some]
  | _ => cases hascii

theorem encode?_ascii (h : e.IsExact) (hascii : e.ExtendsAscii)
    (hdata : ∀ b ∈ data, b < 0x80) : e.encode? (data.map byteChar) = some ⟨data, none⟩ := by
  have hchars : ∀ b ∈ data, e.charBytes? (byteChar b) = some [b] := fun b hb => by
    have hlow : b.toNat < 128 := UInt8.lt_iff_toNat_lt.mp (hdata b hb)
    rw [charBytes?_of_ascii h hascii (by rwa [toNat_byteChar]), toNat_byteChar,
      UInt8.ofNat_toNat]
  obtain ⟨hlead, hencode, -⟩ := exists_spells h [] (data.map byteChar)
  have hbytes : ((data.map byteChar).flatMap fun c => (e.charBytes? c).getD e.substitute) =
      data := by
    rw [List.flatMap_map]
    conv => rhs; rw [← List.flatMap_singleton' data]
    exact List.flatMap_congr fun b hb => by rw [hchars b hb, Option.getD_some]
  have hall : ∀ c ∈ data.map byteChar, (e.charBytes? c).isSome := by
    intro c hc
    obtain ⟨b, hb, rfl⟩ := List.mem_map.mp hc
    rw [hchars b hb, Option.isSome_some]
  rw [hencode, ← replaced_encodeChars hall, encodeChars, hlead, hbytes]
  rfl

theorem decode_ascii (h : e.IsExact) (hascii : e.ExtendsAscii)
    (hdata : ∀ b ∈ data, b < 0x80) : e.decode data = .ok (data.map byteChar) :=
  (decode_eq_ok_iff (encode?_ascii h hascii hdata) rfl).mpr h.readsBack

end Encoding

/-! ### Names -/

/-- The character sets of the server that have one spelling for each text. -/
def exactCharsets : List String :=
  ["utf8mb4", "utf8mb3", "utf8", "latin1", "latin2", "ascii", "cp1250", "cp1251", "cp1256", "koi8r",
    "koi8u", "utf16", "utf32"]

/-- Those of them whose code units are more than one byte. -/
def wideCharsets : List String := ["utf16", "utf32"]

/-- Whether a name, without blanks around it and in small letters, is one of some names. -/
def IsAmong (names : List String) (given : Text) : Prop := String.ofList (plainName given) ∈ names

instance (names : List String) (given : Text) : Decidable (IsAmong names given) :=
  inferInstanceAs (Decidable (_ ∈ names))

/-- What is to be known of the encoding that a name stands for. -/
def Sound (name : String) : Prop :=
  ∃ e, (serverCodecs.lookup name).bind encodingNamed = some e ∧ e.IsExact ∧
    (name ∉ wideCharsets → e.ExtendsAscii)

/-- Whether no number but `hole` stands twice in a list or is among those seen before, which are the
bits of a number. -/
def standOnce (hole seen : Nat) : List Nat → Bool
  | [] => true
  | n :: rest =>
    if n = hole then standOnce hole seen rest
    else !seen.testBit n && standOnce hole (seen ||| 1 <<< n) rest

theorem testBit_lor_shiftLeft (seen m n : Nat) :
    (seen ||| 1 <<< n).testBit m = (seen.testBit m || decide (n = m)) := by
  rw [Nat.testBit_or, Nat.one_shiftLeft, Nat.testBit_two_pow]

theorem pairwise_of_standOnce {hole seen : Nat} {ns : List Nat} (h : standOnce hole seen ns) :
    (∀ n ∈ ns, seen.testBit n → n = hole) ∧ ns.Pairwise fun m n => m = n → m = hole := by
  induction ns generalizing seen with
  | nil => exact ⟨by simp, .nil⟩
  | cons n ns ih =>
    rw [standOnce] at h
    split at h
    · next hn =>
      obtain ⟨hseen, honce⟩ := ih h
      exact ⟨List.forall_mem_cons.mpr ⟨fun _ => hn, hseen⟩, .cons (fun _ _ _ => hn) honce⟩
    · rw [Bool.and_eq_true, Bool.not_eq_true'] at h
      obtain ⟨hseen, honce⟩ := ih h.2
      simp only [testBit_lor_shiftLeft, Bool.or_eq_true, decide_eq_true_eq] at hseen
      refine ⟨List.forall_mem_cons.mpr ⟨?_, fun m hm hbit => hseen m hm (.inl hbit)⟩,
        .cons (fun m hm heq => heq ▸ hseen m hm (.inr heq)) honce⟩
      rw [h.1]
      nofun

/-- For a code page that extends ASCII, only the rows of its upper half are computed with. -/
theorem sound_of_page {name : String} (upper : List Text)
    (h : (serverCodecs.lookup name).bind encodingNamed =
      some (.page (.extendingAscii (upper.map String.ofList))))
    (habove : ∀ n ∈ upper.flatten.map Char.toNat, 128 ≤ n)
    (honce : standOnce CodePage.hole.toNat 0 (upper.flatten.map Char.toNat)) : Sound name := by
  have hpairs := (pairwise_of_standOnce honce).2
  rw [List.pairwise_map] at hpairs
  exact ⟨_, h, CodePage.isExact_extendingAscii upper rfl (List.forall_mem_map.mp habove)
    (hpairs.imp fun hcodes heq => Char.toNat_inj.mp (hcodes (congrArg Char.toNat heq))),
    fun _ => ⟨_, rfl⟩⟩

theorem sound_of_utf8 {name : String}
    (h : (serverCodecs.lookup name).bind encodingNamed = some (.utf8 false)) : Sound name :=
  ⟨_, h, trivial, fun _ => trivial⟩

theorem sound_of_mem {name : String} (h : name ∈ exactCharsets) : Sound name := by
  simp only [exactCharsets, List.mem_cons, List.not_mem_nil, or_false] at h
  rcases h with rfl | rfl | rfl | rfl | rfl | rfl | rfl | rfl | rfl | rfl | rfl | rfl | rfl
  · exact sound_of_utf8 rfl
  · exact sound_of_utf8 rfl
  · exact sound_of_utf8 rfl
  · exact sound_of_page [_, _, _, _, _, _, _, _] rfl (by decide +kernel) (by decide +kernel)
  · exact sound_of_page [_, _, _, _, _, _, _, _] rfl (by decide +kernel) (by decide +kernel)
  · exact ⟨.ascii, rfl, trivial, fun _ => trivial⟩
  · exact sound_of_page [_, _, _, _, _, _, _, _] rfl (by decide +kernel) (by decide +kernel)
  · exact sound_of_page [_, _, _, _, _, _, _, _] rfl (by decide +kernel) (by decide +kernel)
  · exact sound_of_page [_, _, _, _, _, _, _, _] rfl (by decide +kernel) (by decide +kernel)
  · exact sound_of_page [_, _, _, _, _, _, _, _] rfl (by decide +kernel) (by decide +kernel)
  · exact sound_of_page [_, _, _, _, _, _, _, _] rfl (by decide +kernel) (by decide +kernel)
  · exact ⟨.utf16 (some .big), rfl, trivial, fun h => absurd (by decide) h⟩
  · exact ⟨.utf32 (some .big), rfl, trivial, fun h => absurd (by decide) h⟩

variable {given : Text} {data : Bytes}

/-- The names stand for exact encodings, in which bytes are read under them. -/
theorem exists_encoding_of_exact (h : IsAmong exactCharsets given) :
    ∃ e, encodingOf given = .ok e ∧ e.IsExact ∧
      (¬IsAmong wideCharsets given → e.ExtendsAscii) ∧
      ∀ data t, decodeSource given data = .ok t ↔ e.decode data = .ok t := by
  obtain ⟨e, hlookup, hexact, hascii⟩ := sound_of_mem h
  obtain ⟨name, hname, hnamed⟩ := Option.bind_eq_some_iff.mp hlookup
  obtain ⟨c, hfind, hencoding⟩ := Option.bind_eq_some_iff.mp hnamed
  have hcodec : codecOf given = .ok c := by
    rw [codecOf, codecOfPlain, hname]
    simp only [hfind]
  have hauto : isAuto given = false := by
    rw [isAuto, beq_eq_false_iff_ne]
    intro hauto
    rw [IsAmong, hauto] at h
    exact absurd h (by decide)
  have hne : e ≠ .undefined := by
    rintro rfl
    exact hexact
  exact ⟨e, encodingOf_eq_ok.mpr ⟨c, hcodec, hencoding⟩, hexact, hascii,
    fun data t => decodeSource_eq_ok hauto hcodec hencoding hne⟩

theorem encodeTarget_eq {e : Encoding} (h : encodingOf given = .ok e) {t : Text}
    {encoded : Encoded} (hencode : e.encode? t = some encoded) :
    encodeTarget given t = .ok encoded := by
  rw [encodeTarget, h]
  simp only [bind, Except.bind, hencode]

theorem transcode_eq {source target t : Text} (h : decodeSource source data = .ok t) :
    transcode source target data = encodeTarget target t := by
  rw [transcode, h]
  rfl

/-- Whether a character set has a character: some bytes are read as it. -/
def HasChar (charset : Text) (c : Char) : Prop := ∃ bytes, decodeSource charset bytes = .ok [c]

theorem decodeAuto_ascii (h : ∀ b ∈ data, b < 0x80) : decodeAuto data = data.map byteChar := by
  have hmark : Utf8.dropMark data = data := by
    unfold Utf8.dropMark
    split
    · exact absurd (h 0xEF List.mem_cons_self) (by decide)
    · rfl
  have hread := Encoding.decode_ascii (e := .utf8 false) trivial trivial h
  rw [Encoding.decode_eq_ok (r := Utf8.decode data) rfl] at hread
  rw [decodeAuto, hmark, hread]

/-! ### Moving bytes -/

/-- Between exact character sets, bytes whose characters the other one has are moved there and back
without loss; within one of them they stay as they are; and so do bytes in ASCII, also where their
encoding is found out, unless units of more than one byte are read or written. Nothing is replaced
in any of these cases. -/
theorem transcode_exact {s t : Text} (hs : IsAmong exactCharsets s) (ht : IsAmong exactCharsets t)
    (data : Bytes) :
    (∀ text, decodeSource s data = .ok text →
      transcode s s data = .ok ⟨data, none⟩ ∧
        ((∀ c ∈ text, HasChar t c) → ∃ moved,
          transcode s t data = .ok ⟨moved, none⟩ ∧ transcode t s moved = .ok ⟨data, none⟩)) ∧
      ((∀ b ∈ data, b < 0x80) → ¬IsAmong wideCharsets t →
        (¬IsAmong wideCharsets s → transcode s t data = .ok ⟨data, none⟩) ∧
          ∀ auto, isAuto auto = true → transcode auto t data = .ok ⟨data, none⟩) := by
  obtain ⟨e, hencoding, hexact, hascii, hdecode⟩ := exists_encoding_of_exact hs
  obtain ⟨e', hencoding', hexact', hascii', hdecode'⟩ := exists_encoding_of_exact ht
  constructor
  · intro text htext
    have hback : encodeTarget s text = .ok ⟨data, none⟩ :=
      encodeTarget_eq hencoding (Encoding.encode?_of_decode hexact ((hdecode data text).mp htext))
    refine ⟨by rw [transcode_eq htext, hback], fun hchars => ?_⟩
    have hall : ∀ c ∈ text, (e'.charBytes? c).isSome := by
      intro c hc
      obtain ⟨bytes, hbytes⟩ := hchars c hc
      exact Encoding.isSome_charBytes?_of_decode hexact' ((hdecode' bytes [c]).mp hbytes) c
        (List.mem_singleton_self c)
    obtain ⟨moved, hmoved, hread⟩ := Encoding.exists_encode?_of_isSome hexact' hall
    refine ⟨moved, ?_, ?_⟩
    · rw [transcode_eq htext, encodeTarget_eq hencoding' hmoved]
    · rw [transcode_eq ((hdecode' moved text).mpr hread), hback]
  · intro hdata hwide'
    have hwrite : encodeTarget t (data.map byteChar) = .ok ⟨data, none⟩ :=
      encodeTarget_eq hencoding' (Encoding.encode?_ascii hexact' (hascii' hwide') hdata)
    constructor
    · intro hwide
      rw [transcode_eq ((hdecode data _).mpr (Encoding.decode_ascii hexact (hascii hwide) hdata)),
        hwrite]
    · intro auto hauto
      have hfound : decodeSource auto data = .ok (data.map byteChar) := by
        rw [decodeSource, hauto, if_pos rfl, decodeAuto_ascii hdata]
      rw [transcode_eq hfound, hwrite]

/-- The euro sign is moved from UTF-8 to UTF-16 and back, and a letter of ASCII stays the same byte
in a code page. -/
theorem transcode_exact_euro :
    ((∃ moved, transcode "utf8mb4" "utf16" [0xE2, 0x82, 0xAC] = .ok ⟨moved, none⟩ ∧
        transcode "utf16" "utf8mb4" moved = .ok ⟨[0xE2, 0x82, 0xAC], none⟩) ∧
      transcode "utf8mb4" "utf8mb4" [0xE2, 0x82, 0xAC] = .ok ⟨[0xE2, 0x82, 0xAC], none⟩) ∧
      transcode "utf8mb4" "koi8r" [0x41] = .ok ⟨[0x41], none⟩ ∧
      transcode "auto" "koi8r" [0x41] = .ok ⟨[0x41], none⟩ := by
  have hutf8 : IsAmong exactCharsets "utf8mb4" := by decide
  have hutf16 : IsAmong exactCharsets "utf16" := by decide
  have hkoi : IsAmong exactCharsets "koi8r" := by decide
  have hauto : isAuto "auto" = true := by
    rw [isAuto, plainName_of_isBare (by decide)]
    rfl
  have hread : decodeSource "utf8mb4" [0xE2, 0x82, 0xAC] = .ok ['€'] := by
    rw [decodeSource, isAuto, encodingOf, codecOf, plainName_of_isBare (by decide)]
    rfl
  have hread' : decodeSource "utf16" [0x20, 0xAC] = .ok ['€'] := by
    rw [decodeSource, isAuto, encodingOf, codecOf, plainName_of_isBare (by decide)]
    rfl
  have hhas : ∀ c ∈ ['€'], HasChar "utf16" c := by
    intro c hc
    obtain rfl := List.mem_singleton.mp hc
    exact ⟨_, hread'⟩
  obtain ⟨hsame, hback⟩ := (transcode_exact hutf8 hutf16 [0xE2, 0x82, 0xAC]).1 _ hread
  obtain ⟨hletter, hfound⟩ := (transcode_exact hutf8 hkoi [0x41]).2 (by simp) (by decide)
  exact ⟨⟨hback hhas, hsame⟩, hletter (by decide), hfound _ hauto⟩

end SchemaMill.Charset
