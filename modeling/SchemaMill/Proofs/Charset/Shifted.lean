import SchemaMill.Charset.Utf7
import SchemaMill.Proofs.Charset.Tables

/-!
# Reading UTF-7

Digits of base 64 hold the bits of code units in groups of another width. `groups_flatMap` says that
groups of bits are found again whatever the width in which they were written, so that a shifted run
is read as the characters that it was written for (`readDigits_writeDigits`), and a text as itself
(`Utf7.decode_encode`).
-/

namespace SchemaMill.Charset.Utf7

/-! ### Groups of bits -/

section Groups

variable {w : Nat}

/-- Some bits of a group that is not complete yet. -/
theorem groupsAfter_bitsOf_lt {k count : Nat} (h : count + k < w) (done : List Nat)
    (value n : Nat) (rest : List Bool) :
    groupsAfter w done count value (bitsOf k n ++ rest) =
      groupsAfter w done (count + k) (value * 2 ^ k + n % 2 ^ k) rest := by
  induction k generalizing n rest with
  | zero => simp [bitsOf, Nat.mod_one]
  | succ k ih =>
    rw [bitsOf, List.append_assoc, ih (by omega), List.singleton_append, groupsAfter,
      if_neg (by omega)]
    have hbit : (n % 2 == 1).toNat = n % 2 := by
      rcases Nat.mod_two_eq_zero_or_one n with h | h <;> rw [h] <;> rfl
    have hmod : n % 2 ^ (k + 1) = 2 * (n / 2 % 2 ^ k) + n % 2 := by
      rw [Nat.pow_succ, Nat.mul_comm, Nat.mod_mul]
      omega
    rw [hbit, hmod]
    congr 1
    rw [Nat.pow_succ, ← Nat.mul_assoc]
    omega

/-- The bits of a number make one group. -/
theorem groupsAfter_bitsOf (hw : 0 < w) {n : Nat} (hn : n < 2 ^ w) (done : List Nat)
    (rest : List Bool) :
    groupsAfter w done 0 0 (bitsOf w n ++ rest) = groupsAfter w (n :: done) 0 0 rest := by
  obtain ⟨k, rfl⟩ : ∃ k, w = k + 1 := ⟨w - 1, by omega⟩
  rw [bitsOf, List.append_assoc, groupsAfter_bitsOf_lt (by omega), List.singleton_append,
    groupsAfter, if_pos (by omega)]
  have hbit : (n % 2 == 1).toNat = n % 2 := by
    rcases Nat.mod_two_eq_zero_or_one n with h | h <;> rw [h] <;> rfl
  have hhalf : n / 2 % 2 ^ k = n / 2 := Nat.mod_eq_of_lt (by rw [Nat.pow_succ] at hn; omega)
  rw [hbit, hhalf]
  congr 2
  omega

/-- Groups are found again, with the bits that are left. -/
theorem groups_flatMap (hw : 0 < w) {ns : List Nat} (hns : ∀ n ∈ ns, n < 2 ^ w) {k : Nat}
    (hk : k < w) :
    groups w (ns.flatMap (bitsOf w) ++ List.replicate k false) = (ns, k, 0) := by
  have hzeros : List.replicate k false = bitsOf k 0 := by
    induction k with
    | zero => rfl
    | succ k ih =>
      rw [bitsOf, ← ih (by omega), List.replicate_succ']
      rfl
  have hall : ∀ done, groupsAfter w done 0 0 (ns.flatMap (bitsOf w) ++ bitsOf k 0) =
      (done.reverse ++ ns, k, 0) := by
    induction ns with
    | nil =>
      intro done
      have := groupsAfter_bitsOf_lt (w := w) (by omega : 0 + k < w) done 0 0 []
      rw [List.append_nil] at this
      rw [List.flatMap_nil, List.nil_append, this, groupsAfter]
      simp
    | cons n ns ih =>
      intro done
      rw [List.flatMap_cons, List.append_assoc, groupsAfter_bitsOf hw (hns n (by simp)),
        ih fun m hm => hns m (List.mem_cons_of_mem n hm)]
      simp
  rw [hzeros, groups, hall, List.reverse_nil, List.nil_append]

theorem exists_bitsOf (bits : List Bool) : ∃ n < 2 ^ bits.length, bitsOf bits.length n = bits := by
  induction bits using List.reverseRecOn with
  | nil => exact ⟨0, by simp, rfl⟩
  | append_singleton bits b ih =>
    obtain ⟨n, hn, hbits⟩ := ih
    refine ⟨2 * n + b.toNat, ?_, ?_⟩
    · rw [List.length_append, List.length_singleton, Nat.pow_succ]
      cases b <;> (simp; omega)
    · rw [List.length_append, List.length_singleton, bitsOf]
      have hhalf : (2 * n + b.toNat) / 2 = n := by
        have := b.toNat_lt
        omega
      have hbit : ((2 * n + b.toNat) % 2 == 1) = b := by cases b <;> simp [Nat.add_mod]
      rw [hhalf, hbits, hbit]

/-- Bits of the right number are cut into groups that have these bits. -/
theorem groups_of_length (hw : 0 < w) {bits : List Bool} (h : bits.length % w = 0) :
    ∃ ns, groups w bits = (ns, 0, 0) ∧ ns.flatMap (bitsOf w) = bits ∧ ∀ n ∈ ns, n < 2 ^ w := by
  obtain ⟨ns, hbits, hns⟩ :
      ∃ ns : List Nat, ns.flatMap (bitsOf w) = bits ∧ ∀ n ∈ ns, n < 2 ^ w := by
    obtain ⟨count, hcount⟩ := Nat.dvd_of_mod_eq_zero h
    induction count generalizing bits with
    | zero => exact ⟨[], by simpa using (List.eq_nil_of_length_eq_zero hcount).symm, by simp⟩
    | succ count ih =>
      rw [Nat.mul_succ] at hcount
      have hdrop : (bits.drop w).length = w * count := by rw [List.length_drop]; omega
      obtain ⟨ns, hrest, hns⟩ := ih (by rw [hdrop, Nat.mul_mod_right]) hdrop
      obtain ⟨n, hn, hfirst⟩ := exists_bitsOf (bits.take w)
      have hlength : (bits.take w).length = w := by rw [List.length_take]; omega
      rw [hlength] at hn hfirst
      exact ⟨n :: ns, by rw [List.flatMap_cons, hfirst, hrest, List.take_append_drop],
        List.forall_mem_cons.mpr ⟨hn, hns⟩⟩
  have hgroups := groups_flatMap hw hns (k := 0) hw
  rw [List.replicate_zero, List.append_nil, hbits] at hgroups
  exact ⟨ns, hgroups, hbits, hns⟩

end Groups

/-! ### Code units -/

theorem lt_of_mem_charUnits {c : Char} {n : Nat} (h : n ∈ Utf16.charUnits c) : n < 2 ^ 16 := by
  have hrange := toNat_range c
  unfold Utf16.charUnits at h
  dsimp only at h
  split at h <;> simp only [List.mem_cons, List.not_mem_nil, or_false] at h <;> omega

/-- A character has one unit that is no half of a pair, or both halves of a pair. -/
theorem charUnits_cases (c : Char) :
    (∃ n, Utf16.charUnits c = [n] ∧ Utf16.isHigh n = false ∧ codePoint n = c) ∨
      ∃ high low, Utf16.charUnits c = [high, low] ∧ Utf16.isHigh high = true ∧
        Utf16.isLow low = true ∧ Utf16.isHigh low = false ∧
        Char.ofNat (Utf16.joined high low) = c := by
  have hrange := toNat_range c
  unfold Utf16.charUnits
  dsimp only
  split
  · refine .inl ⟨_, rfl, ?_, ?_⟩
    · simp only [Utf16.isHigh, Bool.and_eq_false_iff, decide_eq_false_iff_not]
      omega
    · rw [codePoint, if_neg ?_, Char.ofNat_toNat]
      simp only [Bool.and_eq_true, decide_eq_true_eq]
      omega
  · refine .inr ⟨_, _, rfl, ?_⟩
    simp only [Utf16.isHigh, Utf16.isLow, Bool.and_eq_true, Bool.and_eq_false_iff,
      decide_eq_true_eq, decide_eq_false_iff_not]
    refine ⟨by omega, by omega, by omega, ofNat_eq_of_eq ?_⟩
    unfold Utf16.joined
    omega

theorem unitsText_flatMap (t : Text) : Utf16.unitsText (t.flatMap Utf16.charUnits) = t := by
  induction t with
  | nil => rfl
  | cons c t ih =>
    rw [List.flatMap_cons]
    obtain ⟨n, hn, hhigh, hc⟩ | ⟨high, low, hpair, hhigh, hlow, -, hc⟩ := charUnits_cases c
    · rw [hn, List.singleton_append]
      cases hrest : t.flatMap Utf16.charUnits with
      | nil =>
        rw [hrest] at ih
        rw [Utf16.unitsText, hc, ← ih]
        rfl
      | cons m rest => rw [Utf16.unitsText, hhigh, Bool.false_and, if_neg nofun, hc, ← hrest, ih]
    · rw [hpair, List.cons_append, List.singleton_append, Utf16.unitsText, hhigh, hlow,
        Bool.and_self, if_pos rfl, hc, ih]

/-- The last code unit of some characters is not the first half of a pair. -/
theorem getLast?_flatMap_charUnits (t : Text) :
    (t.flatMap Utf16.charUnits).getLast?.any Utf16.isHigh = false := by
  induction t using List.reverseRecOn with
  | nil => rfl
  | append_singleton t c ih =>
    rw [List.flatMap_append, List.flatMap_singleton]
    obtain ⟨n, hn, hhigh, -⟩ | ⟨high, low, hpair, -, -, hhigh, -⟩ := charUnits_cases c
    · rw [hn, List.getLast?_append]
      exact hhigh
    · rw [hpair, List.getLast?_append]
      exact hhigh

/-! ### Shifted runs -/

/-- The digits of a run are digits of base 64, and they are read as the characters of the run. -/
theorem readDigits_writeDigits (run : Text) :
    (∀ c ∈ writeDigits run, isDigit c = true) ∧
      ∃ count < 6, readDigits (writeDigits run) = (some run, count, 0) := by
  obtain ⟨bits, hbits⟩ : ∃ bits, bits = (run.flatMap Utf16.charUnits).flatMap (bitsOf 16) :=
    ⟨_, rfl⟩
  obtain ⟨count, hcount⟩ : ∃ count, count = (6 - bits.length % 6) % 6 := ⟨_, rfl⟩
  have hlength : (bits ++ List.replicate count false).length % 6 = 0 := by
    rw [List.length_append, List.length_replicate]
    omega
  obtain ⟨ns, hgroups, hflat, hns⟩ := groups_of_length (by decide : 0 < 6) hlength
  have hwrite : writeDigits run = ns.map fun n => digits.getD n 'A' := by
    unfold writeDigits
    dsimp only
    rw [← List.flatMap_assoc, ← hbits, ← hcount, hgroups]
  have hidx : ∀ n ∈ ns, digits.idxOf (digits.getD n 'A') = n := fun n hn =>
    idxOf_getD_digits (hns n hn)
  refine ⟨?_, count, by omega, ?_⟩
  · rw [hwrite]
    intro c hc
    obtain ⟨n, hn, rfl⟩ := List.mem_map.mp hc
    rw [isDigit, List.contains_iff_mem]
    refine List.idxOf_lt_length_iff.mp ?_
    rw [hidx n hn]
    exact hns n hn
  · have hread : (writeDigits run).flatMap (fun c => bitsOf 6 (digits.idxOf c)) =
        bits ++ List.replicate count false := by
      rw [hwrite, List.flatMap_map, ← hflat, List.flatMap_def, List.flatMap_def]
      exact congrArg List.flatten (List.map_congr_left fun n hn => by rw [hidx n hn])
    have hunits : groups 16 (bits ++ List.replicate count false) =
        (run.flatMap Utf16.charUnits, count, 0) := by
      rw [hbits]
      refine groups_flatMap (by decide) (fun n hn => ?_) (by omega)
      obtain ⟨c, -, hc⟩ := List.mem_flatMap.mp hn
      exact lt_of_mem_charUnits hc
    simp only [readDigits, hread, hunits, getLast?_flatMap_charUnits, unitsText_flatMap,
      Bool.false_eq_true, if_false]

theorem writeDigits_ne_nil {run : Text} (h : run ≠ []) : writeDigits run ≠ [] := by
  intro hnil
  obtain ⟨-, count, -, hread⟩ := readDigits_writeDigits run
  rw [hnil] at hread
  exact h (Option.some.inj (Prod.mk.inj hread).1).symm

theorem toNat_lt_of_isDigit {c : Char} (h : isDigit c = true) : c.toNat < 128 := by
  have hall : ∀ d ∈ digits, d.toNat < 128 := by decide
  exact hall c (List.contains_iff_mem.mp h)

theorem toNat_lt_of_isDirect {c : Char} (h : isDirect c = true) : c.toNat < 128 := by
  have hall : ∀ d ∈ directSigns, d.toNat < 128 := by decide
  rcases Bool.or_eq_true_iff.mp h with h | h
  · exact toNat_lt_of_isAlphanum h
  · exact hall c (List.contains_iff_mem.mp h)

/-- What stands behind the digits of a run: a minus sign, or a character that is no digit. -/
theorem runEnd_cases {after : Text} (h : ∀ c ∈ after.head?, isDirect c = true) :
    runEnd after = ['-'] ∨
      runEnd after = [] ∧ ∃ c rest, written after = c :: rest ∧ isDirect c = true ∧
        isDigit c = false ∧ c ≠ '-' := by
  cases after with
  | nil => exact .inl rfl
  | cons c after =>
    by_cases hc : (isDigit c || c == '-') = true
    · exact .inl (by rw [runEnd, if_pos hc])
    · refine .inr ⟨by rw [runEnd, if_neg hc], c, written after, ?_, h c rfl, ?_⟩
      · rw [written, if_pos (h c rfl)]
      · simpa using hc

theorem readRun_digits {run : Text} {c : Char} (hlow : c.toNat < 128) (hc : isDigit c = false)
    (rest : Text) :
    readRun (Ascii.encode (writeDigits run ++ c :: rest)) =
      .ok ⟨run, if c = '-' then (writeDigits run).length + 1 else (writeDigits run).length,
        ()⟩ := by
  obtain ⟨hdigits, count, hcount, hread⟩ := readDigits_writeDigits run
  have hbyte : ∀ d : Char, d.toNat < 128 → byteChar (UInt8.ofNat d.toNat) = d := fun d hd =>
    byteChar_ofNat_toNat (by omega)
  have hminus : (UInt8.ofNat c.toNat = 0x2D) = (c = '-') := by
    refine propext ⟨fun h => ?_, fun h => by rw [h]; rfl⟩
    rw [← hbyte c hlow, h]
    rfl
  have htake : ((Ascii.encode (writeDigits run ++ c :: rest)).takeWhile
      fun b => isDigit (byteChar b)).map byteChar = writeDigits run := by
    rw [Ascii.encode, List.map_append, List.map_cons, List.takeWhile_append_of_pos ?_,
      List.takeWhile_cons, hbyte c hlow, hc, if_neg nofun, List.append_nil, List.map_map]
    · refine (List.map_congr_left fun d hd => ?_).trans (List.map_id _)
      exact hbyte d (toNat_lt_of_isDigit (hdigits d hd))
    · intro b hb
      obtain ⟨d, hd, rfl⟩ := List.mem_map.mp hb
      rw [hbyte d (toNat_lt_of_isDigit (hdigits d hd))]
      exact hdigits d hd
  have hdrop : (Ascii.encode (writeDigits run ++ c :: rest)).drop (writeDigits run).length =
      UInt8.ofNat c.toNat :: Ascii.encode rest := by
    rw [Ascii.encode, List.map_append, List.map_cons, List.drop_left' (List.length_map _)]
    rfl
  unfold readRun
  simp only [htake, hread, hdrop, hminus]
  rw [if_neg (by omega), if_neg (by simp)]
  rfl

theorem readRun_writeDigits (run : Text) {after : Text}
    (h : ∀ c ∈ after.head?, isDirect c = true) :
    readRun (Ascii.encode (writeDigits run ++ runEnd after ++ written after)) =
      .ok ⟨run, (writeDigits run ++ runEnd after).length, ()⟩ := by
  obtain hend | ⟨hend, c, rest, hafter, hdirect, hdigit, hminus⟩ := runEnd_cases h
  · rw [hend, List.append_assoc, List.singleton_append, readRun_digits (by decide) (by decide),
      if_pos rfl, List.length_append]
    rfl
  · rw [hend, hafter, List.append_nil, readRun_digits (toNat_lt_of_isDirect hdirect) hdigit,
      if_neg hminus]

/-! ### Texts -/

theorem readChunk_direct {c : Char} (h : isDirect c = true) :
    Reads readChunk () [UInt8.ofNat c.toNat] [c] () := by
  have hlow := toNat_lt_of_isDirect h
  refine ⟨_, [], rfl, fun rest => ?_⟩
  have hb := toNat_ofNat_of_lt (n := c.toNat) (by omega)
  have hplus : ¬UInt8.ofNat c.toNat = 0x2B := fun he => by
    have hc : c = '+' := by rw [← byteChar_ofNat_toNat (c := c) (by omega), he]; rfl
    rw [hc] at h
    exact absurd h (by decide)
  have hascii : UInt8.ofNat c.toNat < 0x80 := by
    rw [UInt8.lt_iff_toNat_lt, hb]
    exact hlow
  simp only [readChunk]
  rw [if_neg hplus, if_pos hascii, byteChar_ofNat_toNat (by omega)]
  rfl

/-- After a plus sign, digits begin a run. -/
theorem readChunk_run {run : Text} (hrun : run ≠ []) (rest : Text) :
    readChunk () 0x2B (Ascii.encode (writeDigits run ++ rest)) =
      readRun (Ascii.encode (writeDigits run ++ rest)) := by
  obtain ⟨hdigits, -⟩ := readDigits_writeDigits run
  obtain ⟨d, more, hd⟩ := List.exists_cons_of_ne_nil (writeDigits_ne_nil hrun)
  have hdigit := hdigits d (by rw [hd]; simp)
  have hchar := byteChar_ofNat_toNat (c := d) (by have := toNat_lt_of_isDigit hdigit; omega)
  have hminus : ¬UInt8.ofNat d.toNat = 0x2D := fun he => by
    have hd : d = '-' := by rw [← hchar, he]; rfl
    rw [hd] at hdigit
    exact absurd hdigit (by decide)
  rw [hd]
  simp only [readChunk, Ascii.encode, List.cons_append, List.map_cons, if_true]
  rw [if_neg hminus, hchar, if_pos hdigit]

theorem decodeFrom_written (t taken : Text) (offset : Nat) :
    decodeFrom readChunk () taken offset 0 (Ascii.encode (written t)) =
      .ok (taken.reverse ++ t) := by
  induction t using written.induct generalizing taken offset with
  | case1 => simp [written, Ascii.encode, decodeFrom_nil]
  | case2 c rest hdirect ih =>
    rw [written, if_pos hdirect]
    exact ((readChunk_direct hdirect).decodeFrom_append taken offset _).trans
      ((ih _ _).trans (by simp))
  | case3 rest hdirect ih =>
    rw [written, if_neg hdirect, if_pos rfl]
    have hplus : Reads readChunk () [0x2B, 0x2D] ['+'] () := ⟨_, _, rfl, fun rest => rfl⟩
    exact (hplus.decodeFrom_append taken offset _).trans ((ih _ _).trans (by simp))
  | case4 c rest hdirect hplus after ih =>
    obtain ⟨run, hrun⟩ : ∃ run, run = c :: rest.takeWhile (!isDirect ·) := ⟨_, rfl⟩
    have hafter : ∀ d ∈ after.head?, isDirect d = true := fun d hd => by
      have hfirst := List.head?_dropWhile_not (!isDirect ·) rest
      rw [show (rest.dropWhile (!isDirect ·)).head? = some d from hd] at hfirst
      simpa using hfirst
    have hread := readRun_writeDigits run hafter
    rw [List.append_assoc, ← readChunk_run (by rw [hrun]; exact List.cons_ne_nil _ _),
      ← List.append_assoc] at hread
    have hwritten : written (c :: rest) =
        '+' :: (writeDigits run ++ runEnd after ++ written after) := by
      rw [written, if_neg hdirect, if_neg hplus, hrun]
      rfl
    have hsplit : run ++ after = c :: rest := by
      rw [hrun, List.cons_append, List.takeWhile_append_dropWhile]
    calc decodeFrom readChunk () taken offset 0 (Ascii.encode (written (c :: rest)))
        = decodeFrom readChunk () taken offset 0
            (0x2B :: Ascii.encode (writeDigits run ++ runEnd after ++ written after)) := by
          rw [hwritten]
          rfl
      _ = decodeFrom readChunk () (run.reverse ++ taken) (offset + 1)
            (Ascii.encode (writeDigits run ++ runEnd after)).length
            (Ascii.encode (writeDigits run ++ runEnd after) ++ Ascii.encode (written after)) := by
          rw [decodeFrom_zero, hread, Ascii.encode, Ascii.encode, Ascii.encode,
            ← List.map_append, List.length_map]
      _ = .ok (taken.reverse ++ (c :: rest)) := by
          rw [decodeFrom_skip, ih, ← hsplit]
          simp

/-- Every text is read from what is written of it. -/
theorem decode_encode (t : Text) : decode (encode t) = .ok t := decodeFrom_written t [] 0

end SchemaMill.Charset.Utf7
