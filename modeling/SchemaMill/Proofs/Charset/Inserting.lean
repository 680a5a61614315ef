import SchemaMill.Charset.Punycode
import SchemaMill.Proofs.Charset.Tables

/-!
# Reading Punycode

The reader of Punycode follows its writer: after each number that was written it has inserted the
same character at the same place (`Passing`). Between two numbers the writer counts how far it has
come since the last one, in places and in rounds through all places; this is what the reader divides
again by the number of places.

One number is read from its digits (`foldlM_numberDigits`), one character is passed
(`Passing.pass`), and so the text is read from what is written of it (`Punycode.decode_encode`).
-/

namespace SchemaMill.Charset.Punycode

/-! ### Numbers -/

theorem threshold_le (bias place : Nat) : threshold bias place ≤ 26 := by
  simp only [threshold]; omega

theorem Reader.step?_digit (r : Reader) {digit : Nat} (h : digit < 36) :
    r.step? (UInt8.ofNat (digits.getD digit 'a').toNat) =
      if digit < threshold r.bias r.length then r.insert? (r.value + digit * r.weight)
      else some { r with
        value := r.value + digit * r.weight
        weight := r.weight * (36 - threshold r.bias r.length)
        length := r.length + 1 } := by
  unfold Reader.step?
  rw [digitValue?_getD_digits h]
  rfl

/-- The digits of a number are read as the number, from the first place or a later one. -/
theorem foldlM_numberDigits (n : Nat) (r : Reader) :
    (Ascii.encode (numberDigits r.bias r.length n)).foldlM Reader.step? r =
      r.insert? (r.value + n * r.weight) := by
  induction n using Nat.strongRecOn generalizing r with
  | _ n ih =>
    have hpos := threshold_pos r.bias r.length
    have hle := threshold_le r.bias r.length
    rw [numberDigits]
    split
    · next hlast =>
      show (r.step? _ >>= fun r => [].foldlM Reader.step? r) = _
      rw [Reader.step?_digit r (by omega), if_pos hlast]
      simp
    · next hmore =>
      obtain ⟨t, ht⟩ : ∃ t, t = threshold r.bias r.length := ⟨_, rfl⟩
      rw [← ht] at hpos hle hmore ⊢
      have hmod := Nat.mod_lt (n - t) (by omega : 0 < 36 - t)
      have hdiv : (n - t) / (36 - t) < n :=
        Nat.lt_of_le_of_lt (Nat.div_le_self _ _) (by omega)
      show (r.step? _ >>= fun r' => (Ascii.encode (numberDigits r.bias (r.length + 1)
        ((n - t) / (36 - t)))).foldlM Reader.step? r') = _
      rw [Reader.step?_digit r (by omega), if_neg (by omega), ← ht]
      refine (ih _ hdiv { r with
        value := r.value + (t + (n - t) % (36 - t)) * r.weight
        weight := r.weight * (36 - t)
        length := r.length + 1 }).trans ?_
      have hnumber : n = t + (n - t) % (36 - t) + (n - t) / (36 - t) * (36 - t) := by
        have := Nat.mod_add_div' (n - t) (36 - t)
        omega
      calc r.insert? (r.value + (t + (n - t) % (36 - t)) * r.weight +
            (n - t) / (36 - t) * (r.weight * (36 - t)))
          = r.insert? (r.value + (t + (n - t) % (36 - t) + (n - t) / (36 - t) * (36 - t)) *
              r.weight) := by
            rw [Nat.add_mul _ ((n - t) / (36 - t) * (36 - t)), Nat.mul_comm r.weight,
              ← Nat.mul_assoc, Nat.add_assoc]
        _ = r.insert? (r.value + n * r.weight) := by rw [← hnumber]

/-! ### Texts -/

/-- What the reader knows when the writer has written its output: the reader is between two numbers,
and has as many characters and the same bias as the writer. -/
structure Follows (basic : Text) (w : Writer) (r : Reader) : Prop where
  reads : (Ascii.encode w.output).foldlM Reader.step? { text := basic } = some r
  told : w.told = r.text.length
  bias : w.bias = r.bias
  first : w.first = r.first
  value : r.value = 0
  weight : r.weight = 1
  length : r.length = 0

/-- The characters of a text up to a code point. -/
def upTo (code : Nat) (t : Text) : Text := t.filter fun c => decide (c.toNat ≤ code)

/-- The characters of a text below a code point. -/
def below (code : Nat) (t : Text) : Text := t.filter fun c => decide (c.toNat < code)

/-- Where reader and writer are when the writer has passed `passed` on the way to the characters of
a code point, and `coming` lies before it. The writer has counted from the place of the reader. -/
structure Passing (basic : Text) (code : Nat) (passed coming : Text) (w : Writer) (r : Reader) :
    Prop extends Follows basic w r where
  text : r.text = upTo code passed ++ below code coming
  code_le : r.code ≤ code
  count : r.place + w.count =
    (code - r.code) * (r.text.length + 1) + (upTo code passed).length

section Passing

variable {basic passed coming : Text} {code : Nat} {c : Char} {w : Writer} {r : Reader}

/-- A character that is told is inserted where the writer is. -/
theorem Passing.insert? (h : Passing basic code passed (c :: coming) w r) (hc : c.toNat = code) :
    ∃ r', r.insert? w.count = some r' ∧
      r'.text = upTo code (passed ++ [c]) ++ below code coming ∧ r'.code = code ∧
      r'.place = (upTo code passed).length + 1 ∧ r'.bias = adapt w.first w.count (w.told + 1) ∧
      r'.first = false ∧ r'.value = 0 ∧ r'.weight = 1 ∧ r'.length = 0 := by
  have hcoming : below code (c :: coming) = below code coming := by simp [below, hc]
  have htext := h.text
  rw [hcoming] at htext
  have hplaces : (upTo code passed).length < r.text.length + 1 := by
    rw [htext, List.length_append]
    omega
  have hcode : r.code + (r.place + w.count) / (r.text.length + 1) = code := by
    rw [h.count, Nat.mul_comm, Nat.mul_add_div (by omega), Nat.div_eq_of_lt hplaces]
    have := h.code_le
    omega
  have hplace : (r.place + w.count) % (r.text.length + 1) = (upTo code passed).length := by
    rw [h.count, Nat.mul_comm, Nat.mul_add_mod, Nat.mod_eq_of_lt hplaces]
  have hrange := toNat_range c
  have hchar : codePoint code = c := by
    rw [codePoint, if_neg ?_, ← hc, Char.ofNat_toNat]
    simp only [Bool.and_eq_true, decide_eq_true_eq]
    omega
  refine ⟨_, by rw [Reader.insert?, hcode, hplace, if_pos (by omega)], ?_, rfl, rfl,
    ?_, rfl, rfl, rfl, rfl⟩
  · have hup : upTo code (passed ++ [c]) = upTo code passed ++ [c] := by simp [upTo, hc]
    show r.text.take (upTo code passed).length ++ codePoint code ::
      r.text.drop (upTo code passed).length = _
    rw [hchar, hup, htext, List.take_left, List.drop_left, List.append_assoc]
    rfl
  · show adapt r.first w.count (r.text.length + 1) = _
    rw [h.first, h.told]

/-- One character is passed. -/
theorem Passing.pass (h : Passing basic code passed (c :: coming) w r) :
    ∃ r', Passing basic code (passed ++ [c]) coming (w.pass code c) r' := by
  unfold Writer.pass
  split
  · next hc =>
    have hup : upTo code (passed ++ [c]) = upTo code passed ++ [c] := by
      simp [upTo, Nat.le_of_lt hc]
    have hcoming : below code (c :: coming) = c :: below code coming := by simp [below, hc]
    have hcount := h.count
    refine ⟨r, { h with text := ?_, count := ?_ }⟩
    · rw [h.text, hcoming, hup, List.append_assoc, List.singleton_append]
    · rw [hup, List.length_append, List.length_singleton]
      show r.place + (w.count + 1) = _
      omega
  · split
    · next hc =>
      obtain ⟨r', hinsert, htext, hcode, hplace, hbias, hfirst, hvalue, hweight, hlength⟩ :=
        h.insert? hc
      refine ⟨r', ⟨?_, ?_, hbias.symm, hfirst.symm, hvalue, hweight, hlength⟩, htext,
        Nat.le_of_eq hcode, ?_⟩
      · have hdigits := foldlM_numberDigits w.count r
        rw [h.value, h.weight, h.length, Nat.zero_add, Nat.mul_one, ← h.bias, hinsert] at hdigits
        rw [Ascii.encode, List.map_append, List.foldlM_append]
        show ((Ascii.encode w.output).foldlM Reader.step? { text := basic } >>=
          fun r => (Ascii.encode (numberDigits w.bias 0 w.count)).foldlM Reader.step? r) = _
        rw [h.reads]
        exact hdigits
      · have hcoming : below code (c :: coming) = below code coming := by simp [below, hc]
        have hold := h.told
        rw [h.text, hcoming, List.length_append] at hold
        rw [htext, List.length_append]
        simp only [upTo, List.filter_append] at hold ⊢
        simp [hc]
        omega
      · have hup : upTo code (passed ++ [c]) = upTo code passed ++ [c] := by simp [upTo, hc]
        rw [hplace, hcode, hup, List.length_append]
        simp
    · next hlow hhigh =>
      have hup : upTo code (passed ++ [c]) = upTo code passed := by
        simp [upTo]
        omega
      have hcoming : below code (c :: coming) = below code coming := by simp [below, hlow]
      refine ⟨r, { h with text := ?_, count := ?_ }⟩
      · rw [h.text, hcoming, hup]
      · rw [hup]
        exact h.count

theorem Passing.foldl (h : Passing basic code passed coming w r) :
    ∃ r', Passing basic code (passed ++ coming) [] (coming.foldl (Writer.pass code) w) r' := by
  induction coming generalizing passed w r with
  | nil => exact ⟨r, by rwa [List.append_nil]⟩
  | cons c coming ih =>
    obtain ⟨r', h'⟩ := h.pass
    have hrest := ih h'
    rwa [List.append_assoc, List.singleton_append] at hrest

end Passing

/-! ### Code points in their order -/

theorem mem_insertCode {n m : Nat} {codes : List Nat} :
    m ∈ insertCode n codes ↔ m = n ∨ m ∈ codes := by
  induction codes with
  | nil => simp [insertCode]
  | cons k codes ih =>
    unfold insertCode
    split
    · simp
    · split
      · next h => simp [h]
      · rw [List.mem_cons, ih, List.mem_cons, or_left_comm]

theorem pairwise_insertCode (n : Nat) {codes : List Nat} (h : codes.Pairwise (· < ·)) :
    (insertCode n codes).Pairwise (· < ·) := by
  induction codes with
  | nil => simp [insertCode]
  | cons k codes ih =>
    obtain ⟨hk, hcodes⟩ := List.pairwise_cons.mp h
    unfold insertCode
    split
    · next hn => exact List.pairwise_cons.mpr ⟨List.forall_mem_cons.mpr
        ⟨hn, fun m hm => Nat.lt_trans hn (hk m hm)⟩, h⟩
    · split
      · exact h
      · next hlow hne =>
        refine List.pairwise_cons.mpr ⟨fun m hm => ?_, ih hcodes⟩
        rcases mem_insertCode.mp hm with rfl | hm
        · omega
        · exact hk m hm

theorem pairwise_codesAbove (t : Text) : (codesAbove t).Pairwise (· < ·) := by
  unfold codesAbove
  induction (t.map Char.toNat).filter fun n => decide (startCode ≤ n) with
  | nil => exact .nil
  | cons n ns ih => exact pairwise_insertCode n ih

theorem mem_codesAbove {t : Text} {n : Nat} :
    n ∈ codesAbove t ↔ startCode ≤ n ∧ ∃ c ∈ t, c.toNat = n := by
  have hfold : ∀ ns : List Nat, n ∈ ns.foldr insertCode [] ↔ n ∈ ns := by
    intro ns
    induction ns with
    | nil => rfl
    | cons m ns ih => rw [List.foldr_cons, mem_insertCode, ih, List.mem_cons]
  simp [codesAbove, hfold, and_comm]

/-! ### Whole texts -/

/-- Where reader and writer are when all characters below `next` are told. -/
structure Between (basic t : Text) (next : Nat) (w : Writer) (r : Reader) : Prop
    extends Follows basic w r where
  text : r.text = below next t
  code_le : r.code ≤ next
  count : r.place + w.count = (next - r.code) * (r.text.length + 1)

section Between

variable {basic t : Text} {next code : Nat} {w : Writer} {r : Reader}

/-- The writer goes on to a higher code point. -/
theorem Between.start (h : Between basic t next w r) (hle : next ≤ code)
    (hnone : ∀ c ∈ t, next ≤ c.toNat → code ≤ c.toNat) :
    Passing basic code [] t { w with count := w.count + (code - next) * (w.told + 1) } r where
  reads := h.reads
  told := h.told
  bias := h.bias
  first := h.first
  value := h.value
  weight := h.weight
  length := h.length
  text := by
    rw [h.text]
    refine List.filter_congr fun c hc => ?_
    have := hnone c hc
    simp only [decide_eq_decide]
    omega
  code_le := Nat.le_trans h.code_le hle
  count := by
    have hcount := h.count
    have hcode := h.code_le
    have hrounds : (next - r.code) * (r.text.length + 1) + (code - next) * (r.text.length + 1) =
        (code - r.code) * (r.text.length + 1) := by
      rw [← Nat.add_mul]
      congr 1
      omega
    show r.place + (w.count + (code - next) * (w.told + 1)) = _
    rw [h.told, ← Nat.add_assoc, hcount, hrounds]
    simp [upTo]

/-- The writer has told all characters of a code point. -/
theorem Passing.finish (h : Passing basic code t [] w r) :
    Between basic t (code + 1) { w with count := w.count + 1 } r where
  reads := h.reads
  told := h.told
  bias := h.bias
  first := h.first
  value := h.value
  weight := h.weight
  length := h.length
  text := by
    rw [h.text]
    simp [upTo, below]
  code_le := Nat.le_succ_of_le h.code_le
  count := by
    have hcount := h.count
    have hcode := h.code_le
    have hlength : (upTo code t).length = r.text.length := by simp [h.text, below]
    have hround : (code + 1 - r.code) * (r.text.length + 1) =
        (code - r.code) * (r.text.length + 1) + (r.text.length + 1) := by
      rw [Nat.succ_sub hcode, Nat.succ_mul]
    show r.place + (w.count + 1) = _
    rw [hround, ← Nat.add_assoc, hcount, hlength, Nat.add_assoc]

theorem Between.tell {codes : List Nat} (h : Between basic t next w r)
    (hsorted : codes.Pairwise (· < ·)) (hmem : ∀ n ∈ codes, next ≤ n)
    (hall : ∀ c ∈ t, next ≤ c.toNat → c.toNat ∈ codes) :
    ∃ r', Follows basic (Writer.tell t w next codes) r' ∧ r'.text = t := by
  induction codes generalizing next w r with
  | nil =>
    refine ⟨r, h.toFollows, ?_⟩
    rw [h.text]
    refine List.filter_eq_self.mpr fun c hc => decide_eq_true ?_
    exact Nat.lt_of_not_le fun hle => List.not_mem_nil (hall c hc hle)
  | cons code codes ih =>
    obtain ⟨hcode, hcodes⟩ := List.pairwise_cons.mp hsorted
    have hleast : ∀ c ∈ t, next ≤ c.toNat → code ≤ c.toNat := fun c hc hle => by
      rcases List.mem_cons.mp (hall c hc hle) with heq | hlater
      · exact Nat.le_of_eq heq.symm
      · exact Nat.le_of_lt (hcode _ hlater)
    obtain ⟨r', h'⟩ := (h.start (hmem code (by simp)) hleast).foldl
    refine ih h'.finish hcodes (fun n hn => hcode n hn) fun c hc hle => ?_
    have hnext := hmem code (by simp)
    exact (List.mem_cons.mp (hall c hc (by omega))).resolve_left (by omega)

end Between

/-! ### Bytes -/

theorem ascii_of_digitValue? {b : UInt8} (h : (digitValue? b).isSome) : b < 0x80 ∧ b ≠ 0x2D := by
  have hall : ∀ n < 256, (digitValue? (UInt8.ofNat n)).isSome →
      UInt8.ofNat n < 0x80 ∧ UInt8.ofNat n ≠ 0x2D := by decide +kernel
  have hb := hall b.toNat b.toNat_lt
  rw [UInt8.ofNat_toNat] at hb
  exact hb h

theorem isSome_digitValue?_of_foldlM {numbers : Bytes} {r r' : Reader}
    (h : numbers.foldlM Reader.step? r = some r') : ∀ b ∈ numbers, (digitValue? b).isSome := by
  induction numbers generalizing r with
  | nil => simp
  | cons b numbers ih =>
    rw [List.foldlM_cons] at h
    obtain ⟨next, hstep, hrest⟩ := Option.bind_eq_some_iff.mp h
    obtain ⟨digit, hdigit, -⟩ := Option.bind_eq_some_iff.mp hstep
    exact List.forall_mem_cons.mpr ⟨by rw [hdigit]; rfl, ih hrest⟩

theorem ascii_decode_of_lt {data : Bytes} (h : ∀ b ∈ data, b < 0x80) :
    Ascii.decode data = .ok (data.map byteChar) := by
  have hread : ∀ b ∈ data, Reads (CharReader.chunks Ascii.readChar) () [b] [byteChar b] () :=
    fun b hb => ⟨b, [], rfl, fun rest => by
      simp only [CharReader.chunks, Ascii.readChar]
      rw [if_pos (h b hb)]
      rfl⟩
  have hall := decodeFrom_flatMap_nil (fun b => [byteChar b]) hread 0
  rwa [← List.map_eq_flatMap, ← List.map_eq_flatMap, List.map_id'] at hall

theorem splitLast_append {basic numbers : Bytes} (h : 0x2D ∉ numbers) :
    splitLast (basic ++ 0x2D :: numbers) = (basic, numbers) := by
  have htake : ((basic ++ 0x2D :: numbers).reverse.takeWhile (· != 0x2D)).reverse = numbers := by
    rw [List.reverse_append, List.reverse_cons, List.append_assoc, List.takeWhile_append_of_pos]
    · simp
    · intro b hb
      simpa using fun he : b = 0x2D => h (he ▸ List.mem_reverse.mp hb)
  have hlength : (basic ++ 0x2D :: numbers).length - numbers.length - 1 = basic.length := by
    rw [List.length_append, List.length_cons]
    omega
  simp only [splitLast, htake, hlength, List.take_left]

theorem splitLast_of_notMem {numbers : Bytes} (h : 0x2D ∉ numbers) :
    splitLast numbers = ([], numbers) := by
  have htake : (numbers.reverse.takeWhile (· != 0x2D)).reverse = numbers := by
    rw [List.takeWhile_eq_self_iff.mpr ?_, List.reverse_reverse]
    intro b hb
    simpa using fun he : b = 0x2D => h (he ▸ List.mem_reverse.mp hb)
  simp only [splitLast, htake, Nat.sub_self, Nat.zero_sub, List.take_zero]

/-- Every text is read from what is written of it. -/
theorem decode_encode (t : Text) : decode (encode t) = .ok (some t) := by
  obtain ⟨basic, hbasic⟩ : ∃ basic, basic = t.filter fun c => decide (c.toNat < startCode) :=
    ⟨_, rfl⟩
  have hstart : Between basic t startCode { told := basic.length } { text := basic } :=
    { reads := rfl, told := rfl, bias := rfl, first := rfl, value := rfl, weight := rfl,
      length := rfl, text := hbasic, code_le := Nat.le_refl _, count := by simp }
  obtain ⟨r, hfollows, htext⟩ := hstart.tell (pairwise_codesAbove t)
    (fun n hn => (mem_codesAbove.mp hn).1)
    (fun c hc hle => mem_codesAbove.mpr ⟨hle, c, hc, rfl⟩)
  obtain ⟨numbers, hnumbers⟩ : ∃ numbers,
      numbers = (Writer.tell t { told := basic.length } startCode (codesAbove t)).output := ⟨_, rfl⟩
  have hreads := hfollows.reads
  rw [← hnumbers] at hreads
  have hdigits := isSome_digitValue?_of_foldlM hreads
  have hhyphen : 0x2D ∉ Ascii.encode numbers := fun h => (ascii_of_digitValue? (hdigits _ h)).2 rfl
  have hsplit : splitLast (encode t) = (Ascii.encode basic, Ascii.encode numbers) := by
    unfold encode written
    dsimp only
    rw [← hbasic, ← hnumbers]
    split
    · next hempty =>
      rw [List.isEmpty_iff.mp hempty]
      exact splitLast_of_notMem hhyphen
    · rw [Ascii.encode, List.map_append]
      exact splitLast_append hhyphen
  have hascii : Ascii.decode (Ascii.encode basic) = .ok basic := Ascii.decode_encode (by
    rw [hbasic, Ascii.isAscii]
    exact List.all_eq_true.mpr fun c hc => (List.mem_filter.mp hc).2)
  have hnumber := ascii_decode_of_lt fun b hb => (ascii_of_digitValue? (hdigits b hb)).1
  have hinsert : insertAll? basic (Ascii.encode numbers) = some t := by
    unfold insertAll?
    rw [hreads]
    show (if r.length = 0 then some r.text else none) = some t
    rw [if_pos hfollows.length, htext]
  unfold decode
  rw [hsplit]
  dsimp only
  rw [hascii, hnumber, ← hinsert]
  rfl

end SchemaMill.Charset.Punycode
