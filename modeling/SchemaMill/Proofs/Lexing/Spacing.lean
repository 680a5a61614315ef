import SchemaMill.Text.Blank
import SchemaMill.Text.Letter

/-!
# Words and single spaces

The words of a text are what stands between its blanks. Writing them with single spaces changes no
word (`words_collapseBlanks`), and capitals are made word by word (`words_upperCase`), so a text
in capitals with single spaces is the same before and after its blanks are collapsed
(`collapseBlanks_upperCase`).
-/

namespace SchemaMill

/-- A text without blanks that is not empty. -/
def IsSolid (t : Text) : Prop := t ≠ [] ∧ ∀ c ∈ t, isBlank c = false

/-- What stands in front of a text without a separator belongs to the first part. -/
theorem splitWhere_append {p : Char → Bool} {a t part : Text} {parts : List Text}
    (ha : ∀ c ∈ a, p c = false) (ht : splitWhere p t = part :: parts) :
    splitWhere p (a ++ t) = (a ++ part) :: parts := by
  induction a with
  | nil => exact ht
  | cons c a ih =>
    rw [List.cons_append, splitWhere, if_neg (by simp [ha c List.mem_cons_self]),
      ih fun d hd => ha d (List.mem_cons_of_mem _ hd)]
    rfl

theorem mem_splitWhere {p : Char → Bool} {t part : Text} (h : part ∈ splitWhere p t) :
    ∀ c ∈ part, p c = false := by
  induction t generalizing part with
  | nil => simp [splitWhere] at h; simp [h]
  | cons c t ih =>
    rw [splitWhere] at h
    split at h
    · rcases List.mem_cons.mp h with rfl | h
      · simp
      · exact ih h
    · next hc =>
      obtain ⟨first, parts, hsplit⟩ := List.exists_cons_of_ne_nil (splitWhere_ne_nil p t)
      rw [hsplit] at h ih
      rcases List.mem_cons.mp h with rfl | h
      · exact List.forall_mem_cons.mpr ⟨by simpa using hc, ih List.mem_cons_self⟩
      · exact ih (List.mem_cons_of_mem _ h)

theorem isSolid_of_mem_words {t w : Text} (h : w ∈ words t) : IsSolid w := by
  rw [words, List.mem_filter] at h
  exact ⟨by simpa using h.2, mem_splitWhere h.1⟩

theorem words_joinWith {ws : List Text} (h : ∀ w ∈ ws, IsSolid w) :
    words (joinWith " " ws) = ws := by
  induction ws with
  | nil => rfl
  | cons w ws ih =>
    obtain ⟨⟨hne, hw⟩, hws⟩ := List.forall_mem_cons.mp h
    cases ws with
    | nil =>
      have hsplit := splitWhere_append hw (t := []) rfl
      rw [List.append_nil] at hsplit
      simp [joinWith, words, hsplit, hne]
    | cons v ws =>
      have hjoin : joinWith " " (w :: v :: ws) = w ++ ' ' :: joinWith " " (v :: ws) := by
        simp [joinWith]
      rw [hjoin, words, splitWhere_append hw (t := ' ' :: _) rfl, List.append_nil, List.filter_cons,
        if_pos (by simpa using hne)]
      exact congrArg _ (ih hws)

/-- Collapsing the blanks of a text changes no word. -/
theorem words_collapseBlanks (t : Text) : words (collapseBlanks t) = words t :=
  words_joinWith fun _ => isSolid_of_mem_words

theorem collapseBlanks_joinWith {ws : List Text} (h : ∀ w ∈ ws, IsSolid w) :
    collapseBlanks (joinWith " " ws) = joinWith " " ws := by rw [collapseBlanks, words_joinWith h]

/-! ### Capitals -/

/-- The code points of the blank characters. -/
def blankCodes : List Nat :=
  [9, 10, 11, 12, 13, 28, 29, 30, 31, 32, 0x85, 0xA0, 0x1680, 0x2000, 0x2001, 0x2002, 0x2003,
    0x2004, 0x2005, 0x2006, 0x2007, 0x2008, 0x2009, 0x200A, 0x2028, 0x2029, 0x202F, 0x205F, 0x3000]

theorem isBlank_iff {c : Char} : isBlank c ↔ c.toNat ∈ blankCodes := by
  simp only [isBlank, blankCodes, Bool.or_eq_true, Bool.and_eq_true, decide_eq_true_eq, beq_iff_eq,
    List.mem_cons, List.not_mem_nil, or_false]
  omega

theorem mem_blankCodes_of_isBlank {n : Nat} (h : isBlank (Char.ofNat n)) : n ∈ blankCodes := by
  rw [isBlank_iff] at h
  by_cases hn : n.isValidChar
  · rwa [Char.ofNat, dif_pos hn] at h
  · rw [Char.ofNat, dif_neg hn] at h
    exact absurd h (by decide)

/-- In the tables of capitals, no run of letters leads to a blank, no letter is expanded to one or
to nothing, and blanks have no capitals. -/
theorem capitals_checked :
    (∀ r ∈ upperRuns, ∀ b ∈ blankCodes,
        (b : Int) < r.first + r.shift ∨ r.last + r.shift < (b : Int)) ∧
      (∀ e ∈ upperExpansions, e.2 ≠ [] ∧ ∀ m ∈ e.2, isBlank (Char.ofNat m) = false) ∧
      (∀ n ∈ blankCodes, upperChar (Char.ofNat n) = [Char.ofNat n]) ∧
      ∀ n < 128, isBlank (Char.ofNat n) = false → isBlank (Char.ofNat n).toUpper = false := by
  refine ⟨?_, ?_, ?_, ?_⟩ <;> decide +kernel

theorem not_mem_blankCodes_of_lookup {n m : Nat} (h : CaseRun.lookup upperRuns n = some m) :
    m ∉ blankCodes := by
  obtain ⟨hruns, -⟩ := capitals_checked
  intro hm
  obtain ⟨r, hr, rfl⟩ := Option.map_eq_some_iff.mp h
  have hrange := List.find?_some hr
  simp only [Bool.and_eq_true, decide_eq_true_eq] at hrange
  have hpos : ∀ b ∈ blankCodes, 0 < b := by decide
  have hmpos := hpos _ hm
  rcases hruns r (List.mem_of_find?_eq_some hr) _ hm with hlow | hhigh <;> omega

theorem isBlank_of_mem_expansion {n : Nat} {cs : List Nat}
    (h : upperExpansions.lookup n = some cs) :
    cs ≠ [] ∧ ∀ m ∈ cs, isBlank (Char.ofNat m) = false := by
  obtain ⟨-, hall, -⟩ := capitals_checked
  obtain ⟨before, after, heq, -⟩ := List.lookup_eq_some_iff.mp h
  exact hall (n, cs) (by simp [heq])

theorem upperChar_of_isBlank {c : Char} (h : isBlank c) : upperChar c = [c] := by
  obtain ⟨-, -, hall, -⟩ := capitals_checked
  simpa using hall _ (isBlank_iff.mp h)

theorem isSolid_upperChar {c : Char} (h : isBlank c = false) : IsSolid (upperChar c) := by
  rw [upperChar]
  split
  · next hc =>
    obtain ⟨-, -, -, hall⟩ := capitals_checked
    refine ⟨by simp, ?_⟩
    simpa using hall _ hc (by simpa using h)
  · split
    · next cs hcs =>
      obtain ⟨hne, hcs⟩ := isBlank_of_mem_expansion hcs
      exact ⟨by simpa using hne, by simpa using hcs⟩
    · refine ⟨by simp, ?_⟩
      cases hm : CaseRun.lookup upperRuns c.toNat with
      | none => simpa using h
      | some m =>
        have := mt mem_blankCodes_of_isBlank (not_mem_blankCodes_of_lookup hm)
        simpa using this

theorem isSolid_upperCase {t : Text} (h : IsSolid t) : IsSolid (upperCase t) := by
  obtain ⟨hne, ht⟩ := h
  obtain ⟨c, t, rfl⟩ := List.exists_cons_of_ne_nil hne
  refine ⟨?_, fun d hd => ?_⟩
  · simp [upperCase, (isSolid_upperChar (ht c List.mem_cons_self)).1]
  · obtain ⟨e, he, hd⟩ := List.mem_flatMap.mp hd
    exact (isSolid_upperChar (ht e he)).2 d hd

theorem splitWhere_upperCase (t : Text) :
    splitWhere isBlank (upperCase t) = (splitWhere isBlank t).map upperCase := by
  induction t with
  | nil => rfl
  | cons c t ih =>
    by_cases hc : isBlank c
    · rw [splitWhere, if_pos hc, List.map_cons, ← ih]
      simp [upperCase, upperChar_of_isBlank hc, splitWhere, hc]
    · have hsolid := isSolid_upperChar (by simpa using hc)
      obtain ⟨part, parts, hsplit⟩ := List.exists_cons_of_ne_nil (splitWhere_ne_nil isBlank t)
      rw [hsplit, List.map_cons] at ih
      rw [splitWhere, if_neg hc, hsplit]
      exact splitWhere_append hsolid.2 ih

theorem words_upperCase (t : Text) : words (upperCase t) = (words t).map upperCase := by
  rw [words, words, splitWhere_upperCase, List.filter_map]
  refine congrArg _ (List.filter_congr fun part hpart => ?_)
  cases part with
  | nil => rfl
  | cons c part =>
    have hsolid := isSolid_upperCase ⟨List.cons_ne_nil c part, mem_splitWhere hpart⟩
    simpa using hsolid.1

/-- The blanks of a text may be collapsed before or after it is written in capitals. -/
theorem collapseBlanks_upperCase (t : Text) :
    collapseBlanks (upperCase (collapseBlanks t)) = collapseBlanks (upperCase t) := by
  rw [collapseBlanks, words_upperCase, words_collapseBlanks, ← words_upperCase]
  rfl

end SchemaMill
