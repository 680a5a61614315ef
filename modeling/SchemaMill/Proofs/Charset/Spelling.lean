import SchemaMill.Charset.Encoding
import SchemaMill.Proofs.Charset.Tables
import SchemaMill.Proofs.Charset.Unicode

/-!
# Bytes that are spelled in one way

Where the bytes that are read as a character are always those that are written for it (`Spells`),
bytes that are read as a text are written for it again (`spelled_of_decodeFrom`). UTF-8 has no
overlong forms and no surrogates, UTF-16 has no pairs for what is one unit, and a code page has no
two bytes for one character where no entry of it stands twice.
-/

namespace SchemaMill.Charset

/-- Whether all that is read as a character is what is written for it. -/
def Spells (read : CharReader) (write? : Char → Option Bytes) : Prop :=
  ∀ b rest c further, read b rest = .ok (c, further) → write? c = some (b :: rest.take further)

/-- The bytes after those that are skipped are what is written for the characters read of them. -/
theorem spelled_of_decodeFrom {read : CharReader} {write? : Char → Option Bytes}
    (hspells : Spells read write?) (other : Bytes) {taken t : Text} {offset skip : Nat}
    {data : Bytes} (h : decodeFrom read.chunks () taken offset skip data = .ok t) :
    ∃ u, t = taken.reverse ++ u ∧ (∀ c ∈ u, (write? c).isSome) ∧
      (u.flatMap fun c => (write? c).getD other) = data.drop skip := by
  induction data generalizing taken offset skip with
  | nil =>
    rw [decodeFrom_nil, Except.ok.injEq] at h
    exact ⟨[], by rw [← h, List.append_nil], by simp, by simp⟩
  | cons b rest ih =>
    cases skip with
    | succ skip => exact ih h
    | zero =>
      obtain ⟨chunk, hchunk, hgo⟩ := exists_chunk_of_decodeFrom h
      obtain ⟨c, htext, hc⟩ := chunks_eq_ok hchunk
      obtain ⟨u, rfl, hall, hu⟩ := ih hgo
      have hwrite := hspells b rest c chunk.further hc
      refine ⟨c :: u, by simp [htext], ?_, ?_⟩
      · rw [List.forall_mem_cons, hwrite]
        exact ⟨rfl, hall⟩
      · rw [List.flatMap_cons, hu, hwrite, Option.getD_some, List.cons_append,
          List.take_append_drop, List.drop_zero]

/-! ### Single bytes -/

theorem ofNat_eq_of_toNat {n : Nat} {b : UInt8} (h : b.toNat = n % 256) : UInt8.ofNat n = b := by
  rw [← UInt8.toNat_inj, UInt8.toNat_ofNat', h]

theorem toNat_byteChar (b : UInt8) : (byteChar b).toNat = b.toNat := by
  have hb := b.toNat_lt
  have hvalid : b.toNat.isValidChar := by
    unfold Nat.isValidChar
    omega
  exact toNat_ofNat_of_isValidChar hvalid

theorem Ascii.spells :
    Spells readChar fun c => if c.toNat < 128 then some [UInt8.ofNat c.toNat] else none := by
  intro b rest c further h
  unfold readChar at h
  split at h
  · next hlow =>
    cases h
    have hb : b.toNat < 128 := UInt8.lt_iff_toNat_lt.mp hlow
    dsimp only
    rw [toNat_byteChar, if_pos hb, UInt8.ofNat_toNat, List.take_zero]
  · cases h

theorem spells_latin1 :
    Spells Encoding.readLatin1 fun c =>
      if c.toNat < 256 then some [UInt8.ofNat c.toNat] else none := by
  intro b rest c further h
  cases h
  dsimp only
  rw [toNat_byteChar, if_pos b.toNat_lt, UInt8.ofNat_toNat, List.take_zero]

/-! ### Code pages -/

namespace CodePage

/-- No character stands twice in a code page. -/
def IsExact (p : CodePage) : Prop := p.entries.Pairwise fun c d => c = d → c = hole

variable {p : CodePage}

theorem char?_eq_some {b : UInt8} {c : Char} (h : p.char? b = some c) :
    p.entries[b.toNat]? = some c ∧ c ≠ hole := by
  unfold char? at h
  split at h
  · next hentry =>
    split at h
    · cases h
    · next hhole => cases h; exact ⟨hentry, hhole⟩
  · cases h

theorem char?_inj (hp : p.IsExact) {b b' : UInt8} {c : Char} (h : p.char? b = some c)
    (h' : p.char? b' = some c) : b = b' := by
  obtain ⟨hb, hne⟩ := char?_eq_some h
  obtain ⟨hb', -⟩ := char?_eq_some h'
  obtain ⟨hlt, hget⟩ := List.getElem?_eq_some_iff.mp hb
  obtain ⟨hlt', hget'⟩ := List.getElem?_eq_some_iff.mp hb'
  have hpairs := List.pairwise_iff_getElem.mp hp
  rcases Nat.lt_trichotomy b.toNat b'.toNat with hless | heq | hless
  · exact absurd (hget ▸ hpairs _ _ hlt hlt' hless (hget.trans hget'.symm)) hne
  · exact UInt8.toNat_inj.mp heq
  · exact absurd (hget' ▸ hpairs _ _ hlt' hlt hless (hget'.trans hget.symm)) hne

theorem byte?_of_char? (hp : p.IsExact) {b : UInt8} {c : Char} (h : p.char? b = some c) :
    p.byte? c = some b := by
  have hsome : (p.byte? c).isSome := by
    unfold byte?
    rw [List.find?_isSome]
    refine ⟨b, List.mem_map.mpr ⟨b.toNat, ?_, UInt8.ofNat_toNat⟩, by simpa using h⟩
    rw [List.mem_reverse, List.mem_range]
    exact b.toNat_lt
  obtain ⟨b', hb'⟩ := Option.isSome_iff_exists.mp hsome
  rw [hb', char?_inj hp h (char?_of_byte? hb')]

theorem spells (hp : p.IsExact) : Spells p.readChar fun c => (p.byte? c).map fun b => [b] := by
  intro b rest c further h
  unfold readChar at h
  split at h
  · next hb =>
    cases h
    dsimp only
    rw [byte?_of_char? hp hb, Option.map_some, List.take_zero]
  · cases h

theorem toNat_ofNat_of_lt_128 {n : Nat} (h : n < 128) : (Char.ofNat n).toNat = n :=
  toNat_ofNat_of_isValidChar (.inl (by omega))

theorem char?_extendingAscii (rows : List String) {c : Char} (h : c.toNat < 128) :
    (extendingAscii rows).char? (UInt8.ofNat c.toNat) = some c := by
  have hentry : (extendingAscii rows).entries[c.toNat]? = some c := by
    rw [extendingAscii, List.getElem?_append_left (by simpa using h), List.getElem?_map,
      List.getElem?_range h, Option.map_some, Char.ofNat_toNat]
  have hne : c ≠ hole := by
    rintro rfl
    exact absurd h (by decide)
  rw [char?, toNat_ofNat_of_lt (by omega), hentry]
  exact if_neg hne

/-- Of a code page that extends ASCII the upper half is to be checked, which is given as the
characters of its rows. -/
theorem isExact_extendingAscii (upper : List Text) {rows : List String}
    (hrows : rows = upper.map String.ofList) (habove : ∀ c ∈ upper.flatten, 128 ≤ c.toNat)
    (h : upper.flatten.Pairwise fun c d => c = d → c = hole) : (extendingAscii rows).IsExact := by
  have hupper : rows.flatMap String.toList = upper.flatten := by
    rw [hrows, List.flatMap_map, List.flatten_eq_flatMap]
    exact List.flatMap_congr fun row _ => String.toList_ofList
  rw [IsExact, extendingAscii, hupper, List.pairwise_append]
  refine ⟨?_, h, ?_⟩
  · rw [List.pairwise_map]
    refine List.pairwise_lt_range.imp_of_mem ?_
    intro m n hm hn hlt heq
    have hnat := congrArg Char.toNat heq
    rw [toNat_ofNat_of_lt_128 (List.mem_range.mp hm),
      toNat_ofNat_of_lt_128 (List.mem_range.mp hn)] at hnat
    omega
  · intro c hc d hd heq
    obtain ⟨n, hn, rfl⟩ := List.mem_map.mp hc
    have habove := habove d hd
    rw [← heq, toNat_ofNat_of_lt_128 (List.mem_range.mp hn)] at habove
    exact absurd (List.mem_range.mp hn) (by omega)

end CodePage

/-! ### UTF-8 -/

namespace Utf8

/-- What a continuation byte is where one is read. -/
theorem readRest_succ_eq_ok {count low high value code : Nat} {data : Bytes}
    (h : readRest (count + 1) low high value data = .ok code) :
    ∃ b rest, data = b :: rest ∧ low ≤ b.toNat ∧ b.toNat ≤ high ∧
      readRest count 0x80 0xBF (value * 64 + (b.toNat - 0x80)) rest = .ok code := by
  cases data with
  | nil => cases h
  | cons b rest =>
    rw [readRest] at h
    split at h
    · next hb => exact ⟨b, rest, rfl, hb.1, hb.2, h⟩
    · cases h

theorem map_readRest_eq_ok {count low high value : Nat} {rest : Bytes} {c : Char} {further : Nat}
    (h : (readRest count low high value rest).map (fun code => (Char.ofNat code, count)) =
      .ok (c, further)) :
    ∃ code, readRest count low high value rest = .ok code ∧ c = Char.ofNat code ∧
      further = count := by
  cases hread : readRest count low high value rest with
  | error fault => rw [hread] at h; cases h
  | ok code => rw [hread] at h; cases h; exact ⟨code, rfl, rfl, rfl⟩

section Lengths

variable {b : UInt8} {rest : Bytes} {code : Nat}

theorem utf8EncodeChar_of_two (hlow : 0xC2 ≤ b.toNat) (hhigh : b.toNat < 0xE0)
    (hread : readRest 1 0x80 0xBF (b.toNat - 0xC0) rest = .ok code) :
    String.utf8EncodeChar (Char.ofNat code) = b :: rest.take 1 := by
  obtain ⟨b₁, rest, rfl, hlow₁, hhigh₁, hread⟩ := readRest_succ_eq_ok hread
  rw [readRest, Except.ok.injEq] at hread
  have hval : (Char.ofNat code).val.toNat = code := toNat_ofNat_of_isValidChar (.inl (by omega))
  unfold String.utf8EncodeChar
  dsimp only
  rw [hval, if_neg (by omega), if_pos (by omega), List.take_succ_cons, List.take_zero,
    ofNat_eq_of_toNat (by omega : b.toNat = _ % 256),
    ofNat_eq_of_toNat (by omega : b₁.toNat = _ % 256)]

/-- The range of the second byte keeps out what has two bytes, and the surrogates. -/
theorem utf8EncodeChar_of_three (hlow : 0xE0 ≤ b.toNat) (hhigh : b.toNat < 0xF0)
    (hread : readRest 2 (if b.toNat = 0xE0 then 0xA0 else 0x80)
      (if b.toNat = 0xED then 0x9F else 0xBF) (b.toNat - 0xE0) rest = .ok code) :
    String.utf8EncodeChar (Char.ofNat code) = b :: rest.take 2 := by
  obtain ⟨b₁, rest, rfl, hlow₁, hhigh₁, hread⟩ := readRest_succ_eq_ok hread
  obtain ⟨b₂, rest, rfl, hlow₂, hhigh₂, hread⟩ := readRest_succ_eq_ok hread
  rw [readRest, Except.ok.injEq] at hread
  have hfirst : b.toNat = 0xE0 → 0xA0 ≤ b₁.toNat := fun he => by rwa [if_pos he] at hlow₁
  have hlast : b.toNat = 0xED → b₁.toNat ≤ 0x9F := fun he => by rwa [if_pos he] at hhigh₁
  have hlow₁ : 0x80 ≤ b₁.toNat := le_trans (by split <;> omega) hlow₁
  have hhigh₁ : b₁.toNat ≤ 0xBF := le_trans hhigh₁ (by split <;> omega)
  have hvalid : code.isValidChar := by
    unfold Nat.isValidChar
    omega
  have hval : (Char.ofNat code).val.toNat = code := toNat_ofNat_of_isValidChar hvalid
  unfold String.utf8EncodeChar
  dsimp only
  rw [hval, if_neg (by omega), if_neg (by omega), if_pos (by omega), List.take_succ_cons,
    List.take_succ_cons, List.take_zero, ofNat_eq_of_toNat (by omega : b.toNat = _ % 256),
    ofNat_eq_of_toNat (by omega : b₁.toNat = _ % 256),
    ofNat_eq_of_toNat (by omega : b₂.toNat = _ % 256)]

/-- The range of the second byte keeps out what has three bytes, and what is above all code
points. -/
theorem utf8EncodeChar_of_four (hlow : 0xF0 ≤ b.toNat) (hhigh : b.toNat < 0xF5)
    (hread : readRest 3 (if b.toNat = 0xF0 then 0x90 else 0x80)
      (if b.toNat = 0xF4 then 0x8F else 0xBF) (b.toNat - 0xF0) rest = .ok code) :
    String.utf8EncodeChar (Char.ofNat code) = b :: rest.take 3 := by
  obtain ⟨b₁, rest, rfl, hlow₁, hhigh₁, hread⟩ := readRest_succ_eq_ok hread
  obtain ⟨b₂, rest, rfl, hlow₂, hhigh₂, hread⟩ := readRest_succ_eq_ok hread
  obtain ⟨b₃, rest, rfl, hlow₃, hhigh₃, hread⟩ := readRest_succ_eq_ok hread
  rw [readRest, Except.ok.injEq] at hread
  have hfirst : b.toNat = 0xF0 → 0x90 ≤ b₁.toNat := fun he => by rwa [if_pos he] at hlow₁
  have hlast : b.toNat = 0xF4 → b₁.toNat ≤ 0x8F := fun he => by rwa [if_pos he] at hhigh₁
  have hlow₁ : 0x80 ≤ b₁.toNat := le_trans (by split <;> omega) hlow₁
  have hhigh₁ : b₁.toNat ≤ 0xBF := le_trans hhigh₁ (by split <;> omega)
  have hvalid : code.isValidChar := by
    unfold Nat.isValidChar
    omega
  have hval : (Char.ofNat code).val.toNat = code := toNat_ofNat_of_isValidChar hvalid
  unfold String.utf8EncodeChar
  dsimp only
  rw [hval, if_neg (by omega), if_neg (by omega), if_neg (by omega), List.take_succ_cons,
    List.take_succ_cons, List.take_succ_cons, List.take_zero,
    ofNat_eq_of_toNat (by omega : b.toNat = _ % 256),
    ofNat_eq_of_toNat (by omega : b₁.toNat = _ % 256),
    ofNat_eq_of_toNat (by omega : b₂.toNat = _ % 256),
    ofNat_eq_of_toNat (by omega : b₃.toNat = _ % 256)]

end Lengths

theorem spells : Spells readChar fun c => some (String.utf8EncodeChar c) := by
  intro b rest c further h
  rw [Option.some.injEq]
  unfold readChar at h
  dsimp only at h
  split at h
  · next hone =>
    cases h
    have hval : (Char.ofNat b.toNat).val.toNat = b.toNat :=
      toNat_ofNat_of_isValidChar (.inl (by omega))
    unfold String.utf8EncodeChar
    dsimp only
    rw [hval, if_pos (by omega), List.take_zero, UInt8.ofNat_toNat]
  · split at h
    · cases h
    · next hstart =>
      split at h
      · next htwo =>
        obtain ⟨code, hread, rfl, rfl⟩ := map_readRest_eq_ok h
        exact utf8EncodeChar_of_two (Nat.le_of_not_lt hstart) htwo hread
      · next htwo =>
        split at h
        · next hthree =>
          obtain ⟨code, hread, rfl, rfl⟩ := map_readRest_eq_ok h
          exact utf8EncodeChar_of_three (Nat.le_of_not_lt htwo) hthree hread
        · next hthree =>
          split at h
          · next hfour =>
            obtain ⟨code, hread, rfl, rfl⟩ := map_readRest_eq_ok h
            exact utf8EncodeChar_of_four (Nat.le_of_not_lt hthree) hfour hread
          · cases h

end Utf8

/-! ### UTF-16 and UTF-32 -/

namespace Utf16

theorem unitBytes_unit (o : ByteOrder) (a b : UInt8) :
    unitBytes o (unit o a b) = [a, b] ∧ unit o a b < 0x10000 := by
  have ha := a.toNat_lt
  have hb := b.toNat_lt
  cases o with
  | big =>
    have hunit : unit .big a b = b.toNat + 256 * a.toNat := rfl
    have hbytes : ∀ n, unitBytes .big n = [UInt8.ofNat (n / 256), UInt8.ofNat n] := fun n => rfl
    rw [hbytes, ofNat_eq_of_toNat (by omega : a.toNat = _ % 256),
      ofNat_eq_of_toNat (by omega : b.toNat = _ % 256)]
    exact ⟨rfl, by omega⟩
  | little =>
    have hunit : unit .little a b = a.toNat + 256 * b.toNat := rfl
    have hbytes : ∀ n, unitBytes .little n = [UInt8.ofNat n, UInt8.ofNat (n / 256)] := fun n => rfl
    rw [hbytes, ofNat_eq_of_toNat (by omega : a.toNat = _ % 256),
      ofNat_eq_of_toNat (by omega : b.toNat = _ % 256)]
    exact ⟨rfl, by omega⟩

theorem charUnits_joined {high low : Nat} (hhigh : isHigh high = true) (hlow : isLow low = true) :
    charUnits (Char.ofNat (joined high low)) = [high, low] := by
  obtain ⟨hcode, habove⟩ := toNat_joined hhigh hlow
  simp only [isHigh, isLow, Bool.and_eq_true, decide_eq_true_eq] at hhigh hlow
  have hjoined : joined high low = 0x10000 + (high - 0xD800) * 1024 + (low - 0xDC00) := rfl
  unfold charUnits
  dsimp only
  rw [hcode, if_neg (by omega), List.cons.injEq, List.cons.injEq]
  exact ⟨by omega, by omega, rfl⟩

theorem charUnits_single {unit : Nat} (h : unit < 0x10000) (hhigh : isHigh unit = false)
    (hlow : isLow unit = false) : charUnits (Char.ofNat unit) = [unit] := by
  simp only [isHigh, isLow, Bool.and_eq_false_iff, decide_eq_false_iff_not] at hhigh hlow
  have hvalid : unit.isValidChar := by
    unfold Nat.isValidChar
    omega
  unfold charUnits
  dsimp only
  rw [toNat_ofNat_of_isValidChar hvalid, if_pos h]

theorem spells (o : ByteOrder) : Spells (readChar o) fun c => some (charBytes o c) := by
  intro a rest c further h
  rw [Option.some.injEq, charBytes]
  cases rest with
  | nil => cases h
  | cons b rest =>
    obtain ⟨hfirst, hlt⟩ := unitBytes_unit o a b
    rw [readChar.eq_def] at h
    dsimp only at h
    split at h
    · next hhigh =>
      split at h
      · next x y rest' =>
        split at h
        · next hlow =>
          simp only [Except.ok.injEq, Prod.mk.injEq] at h
          obtain ⟨rfl, rfl⟩ := h
          rw [charUnits_joined hhigh hlow, List.flatMap_cons, List.flatMap_singleton, hfirst,
            (unitBytes_unit o x y).1]
          rfl
        · cases h
      · cases h
    · next hhigh =>
      split at h
      · cases h
      · next hlow =>
        cases h
        rw [charUnits_single hlt (Bool.eq_false_iff.mpr hhigh) (Bool.eq_false_iff.mpr hlow),
          List.flatMap_singleton, hfirst]
        rfl

end Utf16

namespace Utf32

theorem unitBytes_unitValue (o : ByteOrder) (a b c d : UInt8) :
    unitBytes o (unitValue (o.arrange [a, b, c, d])) = [a, b, c, d] := by
  -- the bytes of a unit in the order of their places
  have hbytes : ∀ w x y z : UInt8, [UInt8.ofNat (unitValue [w, x, y, z]),
      UInt8.ofNat (unitValue [w, x, y, z] / 256), UInt8.ofNat (unitValue [w, x, y, z] / 65536),
      UInt8.ofNat (unitValue [w, x, y, z] / 16777216)] = [w, x, y, z] := by
    intro w x y z
    have hw := w.toNat_lt
    have hx := x.toNat_lt
    have hy := y.toNat_lt
    have hz := z.toNat_lt
    have hvalue : unitValue [w, x, y, z] =
        w.toNat + 256 * (x.toNat + 256 * (y.toNat + 256 * (z.toNat + 256 * 0))) := rfl
    rw [ofNat_eq_of_toNat (by omega : w.toNat = _ % 256),
      ofNat_eq_of_toNat (by omega : x.toNat = _ % 256),
      ofNat_eq_of_toNat (by omega : y.toNat = _ % 256),
      ofNat_eq_of_toNat (by omega : z.toNat = _ % 256)]
  cases o with
  | big => exact congrArg List.reverse (hbytes d c b a)
  | little => exact hbytes a b c d

theorem spells (o : ByteOrder) : Spells (readChar o) fun c => some (charBytes o c) := by
  intro a rest e further h
  rw [readChar.eq_def] at h
  split at h
  · next b c d rest' =>
    dsimp only at h
    split at h
    · cases h
    · next habove =>
      split at h
      · cases h
      · next hsurrogate =>
        cases h
        have hvalid : (unitValue (o.arrange [a, b, c, d])).isValidChar := by
          unfold Nat.isValidChar
          omega
        dsimp only
        rw [charBytes, toNat_ofNat_of_isValidChar hvalid, unitBytes_unitValue]
        rfl
  · cases h

end Utf32

end SchemaMill.Charset
