import Mathlib
import SchemaMill.Charset.Bytes

/-!
# Reading bytes back

What is written chunk by chunk is read back chunk by chunk, as long as every chunk is read from its
bytes whatever stands behind them (`Reads`). Where every character is a chunk of its own, reading
maps each character to what is read of its bytes (`decodeWith_flatMap`).
-/

namespace SchemaMill.Charset

section Chunks

variable {σ : Type} {read : ChunkReader σ}

theorem decodeFrom_nil (state : σ) (taken : Text) (offset skip : Nat) :
    decodeFrom read state taken offset skip [] = .ok taken.reverse := by
  cases skip <;> rfl

theorem decodeFrom_succ (state : σ) (taken : Text) (offset skip : Nat) (b : UInt8)
    (rest : Bytes) : decodeFrom read state taken offset (skip + 1) (b :: rest) =
      decodeFrom read state taken (offset + 1) skip rest := rfl

theorem decodeFrom_zero (state : σ) (taken : Text) (offset : Nat) (b : UInt8) (rest : Bytes) :
    decodeFrom read state taken offset 0 (b :: rest) =
      match read state b rest with
      | .ok chunk =>
        decodeFrom read chunk.next (chunk.text.reverse ++ taken) (offset + 1) chunk.further rest
      | .error fault => .error ⟨fault, offset⟩ := rfl

theorem exists_chunk_of_decodeFrom {state : σ} {taken t : Text} {offset : Nat} {b : UInt8}
    {rest : Bytes} (h : decodeFrom read state taken offset 0 (b :: rest) = .ok t) :
    ∃ chunk, read state b rest = .ok chunk ∧
      decodeFrom read chunk.next (chunk.text.reverse ++ taken) (offset + 1) chunk.further rest =
        .ok t := by
  rw [decodeFrom_zero] at h
  cases hread : read state b rest with
  | error fault => rw [hread] at h; cases h
  | ok chunk => rw [hread] at h; exact ⟨chunk, rfl, h⟩

/-- Bytes that belong to the chunk before are skipped. -/
theorem decodeFrom_skip (state : σ) (taken : Text) (offset : Nat) (skipped rest : Bytes) :
    decodeFrom read state taken offset skipped.length (skipped ++ rest) =
      decodeFrom read state taken (offset + skipped.length) 0 rest := by
  induction skipped generalizing offset with
  | nil => rfl
  | cons b skipped ih =>
    rw [List.length_cons, List.cons_append, decodeFrom_succ, ih]
    congr 1
    omega

/-- Whether bytes are read as one chunk from a state, whatever stands behind them. -/
def Reads (read : ChunkReader σ) (state : σ) (bytes : Bytes) (text : Text) (next : σ) : Prop :=
  ∃ b further, bytes = b :: further ∧
    ∀ rest, read state b (further ++ rest) = .ok ⟨text, further.length, next⟩

theorem Reads.decodeFrom_append {state next : σ} {bytes : Bytes} {text : Text}
    (h : Reads read state bytes text next) (taken : Text) (offset : Nat) (rest : Bytes) :
    decodeFrom read state taken offset 0 (bytes ++ rest) =
      decodeFrom read next (text.reverse ++ taken) (offset + bytes.length) 0 rest := by
  obtain ⟨b, further, rfl, hread⟩ := h
  rw [List.cons_append, decodeFrom_zero, hread]
  show decodeFrom read next _ (offset + 1) further.length (further ++ rest) = _
  rw [decodeFrom_skip, List.length_cons]
  congr 1
  omega

/-- Chunks that are all read from one and the same state are read one after the other. -/
theorem decodeFrom_flatMap {α : Type} {state : σ} {write : α → Bytes} {text : α → Text}
    {items : List α} (h : ∀ a ∈ items, Reads read state (write a) (text a) state) (taken : Text)
    (offset : Nat) (rest : Bytes) :
    decodeFrom read state taken offset 0 (items.flatMap write ++ rest) =
      decodeFrom read state ((items.flatMap text).reverse ++ taken)
        (offset + (items.flatMap write).length) 0 rest := by
  induction items generalizing taken offset with
  | nil => rfl
  | cons a items ih =>
    rw [List.flatMap_cons, List.append_assoc, (h a (by simp)).decodeFrom_append,
      ih fun a' ha' => h a' (List.mem_cons_of_mem a ha')]
    simp [Nat.add_assoc]

theorem decodeFrom_flatMap_nil {α : Type} {state : σ} {write : α → Bytes} (text : α → Text)
    {items : List α} (h : ∀ a ∈ items, Reads read state (write a) (text a) state) (offset : Nat) :
    decodeFrom read state [] offset 0 (items.flatMap write) = .ok (items.flatMap text) := by
  have hall := decodeFrom_flatMap h [] offset []
  rw [List.append_nil, List.append_nil] at hall
  rw [hall, decodeFrom_nil, List.reverse_reverse]

/-- Where no chunk has more than one character, no more are read than there are bytes. -/
theorem length_of_decodeFrom
    (hread : ∀ state b rest chunk, read state b rest = .ok chunk → chunk.text.length ≤ 1)
    {state : σ} {taken t : Text} {offset skip : Nat} {data : Bytes}
    (h : decodeFrom read state taken offset skip data = .ok t) :
    t.length ≤ taken.length + (data.length - skip) := by
  induction data generalizing state taken offset skip with
  | nil =>
    rw [decodeFrom_nil, Except.ok.injEq] at h
    subst h
    simp
  | cons b rest ih =>
    cases skip with
    | succ skip =>
      rw [decodeFrom_succ] at h
      simpa using ih h
    | zero =>
      obtain ⟨chunk, hchunk, hgo⟩ := exists_chunk_of_decodeFrom h
      have hlength := hread _ _ _ _ hchunk
      have hrest := ih hgo
      simp only [List.length_append, List.length_reverse, List.length_cons] at hrest ⊢
      omega

end Chunks

/-! ### Characters -/

/-- Whether bytes are read as a character, whatever stands behind them. -/
def ReadsChar (read : CharReader) (bytes : Bytes) (c : Char) : Prop :=
  ∃ b further, bytes = b :: further ∧ ∀ rest, read b (further ++ rest) = .ok (c, further.length)

theorem ReadsChar.reads {read : CharReader} {bytes : Bytes} {c : Char}
    (h : ReadsChar read bytes c) : Reads read.chunks () bytes [c] () := by
  obtain ⟨b, further, rfl, hread⟩ := h
  exact ⟨b, further, rfl, fun rest => by rw [CharReader.chunks, hread]; rfl⟩

theorem chunks_eq_ok {read : CharReader} {state : Unit} {b : UInt8} {rest : Bytes}
    {chunk : Chunk Unit} (h : read.chunks state b rest = .ok chunk) :
    ∃ c, chunk.text = [c] ∧ read b rest = .ok (c, chunk.further) := by
  unfold CharReader.chunks at h
  cases hread : read b rest with
  | error fault => rw [hread] at h; cases h
  | ok found => rw [hread] at h; cases h; exact ⟨found.1, rfl, rfl⟩

theorem toNat_lt_of_isAlphanum {c : Char} (h : c.isAlphanum = true) : c.toNat < 128 := by
  simp only [Char.isAlphanum, Char.isAlpha, Char.isUpper, Char.isLower, Char.isDigit,
    Bool.or_eq_true, Bool.and_eq_true, decide_eq_true_eq, ge_iff_le, UInt32.le_iff_toNat_le] at h
  have hval : c.val.toNat = c.toNat := rfl
  simp only [hval, Char.reduceVal, UInt32.reduceToNat] at h
  omega

theorem decodeFrom_chars {read : CharReader} {write : Char → Bytes} (shown : Char → Char)
    {t : Text} (h : ∀ c ∈ t, ReadsChar read (write c) (shown c)) (offset : Nat) :
    decodeFrom read.chunks () [] offset 0 (t.flatMap write) = .ok (t.map shown) := by
  rw [decodeFrom_flatMap_nil (fun c => [shown c]) fun c hc => (h c hc).reads,
    List.map_eq_flatMap]

theorem toNat_range (c : Char) : c.toNat < 0xD800 ∨ 0xDFFF < c.toNat ∧ c.toNat < 0x110000 := c.valid

theorem toNat_ofNat_of_isValidChar {n : Nat} (h : n.isValidChar) : (Char.ofNat n).toNat = n := by
  rw [Char.ofNat, dif_pos h]
  rfl

theorem ofNat_eq_of_eq {n : Nat} {c : Char} (h : n = c.toNat) : Char.ofNat n = c := by
  rw [h, Char.ofNat_toNat]

theorem decodeWith_flatMap {read : CharReader} {write : Char → Bytes} (shown : Char → Char)
    {t : Text} (h : ∀ c ∈ t, ReadsChar read (write c) (shown c)) :
    decodeWith read (t.flatMap write) = .ok (t.map shown) :=
  decodeFrom_chars shown h 0

theorem decodeWith_chars {read : CharReader} {write : Char → Bytes} {t : Text}
    (h : ∀ c ∈ t, ReadsChar read (write c) c) : decodeWith read (t.flatMap write) = .ok t := by
  rw [decodeWith_flatMap id h, List.map_id]

/-! ### Single bytes -/

theorem toNat_ofNat_of_lt {n : Nat} (h : n < 256) : (UInt8.ofNat n).toNat = n := by
  simpa using Nat.mod_eq_of_lt h

theorem byteChar_ofNat_toNat {c : Char} (h : c.toNat < 256) :
    byteChar (UInt8.ofNat c.toNat) = c := by
  rw [byteChar, toNat_ofNat_of_lt h, Char.ofNat_toNat]

theorem ofNat_toNat_eq_iff {c d : Char} (hc : c.toNat < 256) (hd : d.toNat < 256) :
    UInt8.ofNat c.toNat = UInt8.ofNat d.toNat ↔ c = d := by
  refine ⟨fun h => ?_, fun h => by rw [h]⟩
  rw [← byteChar_ofNat_toNat hc, h, byteChar_ofNat_toNat hd]

end SchemaMill.Charset
