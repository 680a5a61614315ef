import SchemaMill.Proofs.Lexing.Spacing
import SchemaMill.Proofs.Lexing.Taking

/-!
# Phrases

Most keywords are phrases: words in any case with blanks between them, up to the end of the last
word. `Pattern.Phrases p phrases` says that whatever `p` takes spells one of `phrases`, and is
proved along the structure of a pattern. Two phrases that are spelled at the same place, up to the
end of a word, agree as far as both go (`overlap_of_spells`).
-/

namespace SchemaMill

theorem isWordChar_eq_false_of_isBlank {c : Char} (h : isBlank c) : isWordChar c = false := by
  have hall : ∀ n ∈ blankCodes, isWordChar (Char.ofNat n) = false := by decide +kernel
  simpa using hall _ (isBlank_iff.mp h)

theorem isBlank_eq_false_of_isWordChar {c : Char} (h : isWordChar c) : isBlank c = false := by
  rw [Bool.eq_false_iff]
  intro hb
  simp [isWordChar_eq_false_of_isBlank hb] at h

namespace Sql

/-! ### Words whose case does not matter -/

namespace Pattern

/-- The text with each character as the small letter that it counts as. -/
def plainText (t : Text) : Text := t.map plainLetter

theorem plainText_append (t u : Text) : plainText (t ++ u) = plainText t ++ plainText u :=
  List.map_append

theorem plainText_eq_nil_iff {t : Text} : plainText t = [] ↔ t = [] := List.map_eq_nil_iff

/-- A class of characters does not tell a letter from the one that it counts as, if it does not do
so in ASCII and for the four letters beyond. -/
theorem apply_plainLetter {f : Char → Bool}
    (hascii : ∀ n < 128, f (Char.ofNat n).toLower = f (Char.ofNat n))
    (hbeyond : f 'i' = f 'ı' ∧ f 'i' = f 'İ' ∧ f 's' = f 'ſ' ∧ f 'k' = f (Char.ofNat 0x212A))
    (c : Char) : f (plainLetter c) = f c := by
  obtain ⟨hdotless, hdotted, hlong, hkelvin⟩ := hbeyond
  rw [plainLetter]
  split
  · next h => rcases (by simpa using h) with rfl | rfl <;> assumption
  split
  · next h => rwa [beq_iff_eq.mp h]
  split
  · next h => rwa [← Char.ofNat_toNat c, beq_iff_eq.mp h]
  · by_cases hc : c.toNat < 128
    · simpa using hascii _ hc
    · have hu : ¬ (c.val ≥ 'A'.val ∧ c.val ≤ 'Z'.val) := fun hu =>
        hc (Nat.lt_of_le_of_lt (UInt32.le_iff_toNat_le.mp hu.2) (by decide))
      rw [Char.toLower, dif_neg hu]

theorem isWordChar_plainLetter (c : Char) : isWordChar (plainLetter c) = isWordChar c :=
  apply_plainLetter (by decide +kernel) (by decide +kernel) c

theorem isDecimalDigit_plainLetter (c : Char) :
    isDecimalDigit (plainLetter c) = isDecimalDigit c :=
  apply_plainLetter (by decide +kernel) (by decide +kernel) c

/-- Only a character itself counts as a sign that is no letter. -/
theorem eq_of_plainLetter_eq {c l : Char} (h : plainLetter c = l) (hl : l.isAlpha = false) :
    c = l := by
  have hupper : ∀ n < 128, (Char.ofNat n).isUpper → (Char.ofNat n).toLower.isAlpha := by
    decide +kernel
  subst h
  by_cases hspecial : plainLetter c = c.toLower
  · by_cases hc : c.isUpper
    · exfalso
      have hn : c.toNat < 128 := by
        simp only [Char.isUpper, decide_eq_true_eq] at hc
        exact Nat.lt_of_le_of_lt (UInt32.le_iff_toNat_le.mp hc.2) (by decide)
      have halpha : c.toLower.isAlpha := by simpa [hc] using hupper _ hn
      simp [hspecial, halpha] at hl
    · have hu : ¬ (c.val ≥ 'A'.val ∧ c.val ≤ 'Z'.val) := by simpa [Char.isUpper] using hc
      rw [hspecial, Char.toLower, dif_neg hu]
  · exfalso
    have : plainLetter c = 'i' ∨ plainLetter c = 's' ∨ plainLetter c = 'k' := by
      unfold plainLetter at hspecial ⊢
      split <;> simp_all
      split <;> simp_all
    rcases this with h | h | h <;> simp [h] at hl

theorem all_isWordChar_plainText (t : Text) :
    (plainText t).all isWordChar = t.all isWordChar := by
  simp only [plainText, List.all_map, Function.comp_def, isWordChar_plainLetter]

theorem all_isWordChar_of_plainText_eq {t u : Text} (h : plainText t = plainText u)
    (hu : u.all isWordChar) : t.all isWordChar := by
  rwa [← all_isWordChar_plainText, h, all_isWordChar_plainText]

end Pattern

/-- The first word of a text behind its blanks. -/
def nextWord (t : Text) : Text := (t.dropWhile isBlank).takeWhile isWordChar

/-- No word goes on at the start of a text. -/
def EndsWord (rest : Text) : Prop := ∀ c ∈ rest.head?, isWordChar c = false

theorem endsWord_append_of_isBlank {x rest : Text} (hx : x ≠ []) (hb : x.all isBlank) :
    EndsWord (x ++ rest) := by
  obtain ⟨c, x, rfl⟩ := List.exists_cons_of_ne_nil hx
  simp only [EndsWord, List.cons_append, List.head?_cons, Option.mem_def, Option.some.injEq]
  rintro _ rfl
  exact isWordChar_eq_false_of_isBlank (List.all_eq_true.mp hb c List.mem_cons_self)

/-- Two words with the same text around them are the same, if both end where they stop. -/
theorem eq_of_append_eq_append_of_endsWord {a b r s : Text} (ha : a.all isWordChar)
    (hb : b.all isWordChar) (hr : EndsWord r) (hs : EndsWord s) (h : a ++ r = b ++ s) :
    a = b ∧ r = s := by
  have htake : ∀ {a r : Text}, a.all isWordChar → EndsWord r →
      (a ++ r).takeWhile isWordChar = a := by
    intro a r ha hr
    rw [List.takeWhile_append_of_pos (List.all_eq_true.mp ha)]
    cases r with
    | nil => simp
    | cons c r => simp [hr c (by simp)]
  have heq : a = b := by rw [← htake ha hr, h, htake hb hs]
  subst heq
  exact ⟨rfl, List.append_cancel_left h⟩

/-- Two runs of blanks with the same text around them are the same, if none follows. -/
theorem eq_of_append_eq_append_of_blank {a b r t : Text} {c d : Char} (ha : a.all isBlank)
    (hb : b.all isBlank) (hc : isBlank c = false) (hd : isBlank d = false)
    (h : a ++ c :: r = b ++ d :: t) : a = b ∧ c :: r = d :: t := by
  have htake : ∀ {a r : Text} {c : Char}, a.all isBlank → isBlank c = false →
      (a ++ c :: r).takeWhile isBlank = a := by
    intro a r c ha hc
    rw [List.takeWhile_append_of_pos (List.all_eq_true.mp ha)]
    simp [hc]
  have heq : a = b := by rw [← htake ha hc, h, htake hb hd]
  subst heq
  exact ⟨rfl, List.append_cancel_left h⟩

theorem nextWord_append {x a rest : Text} (hx : x.all isBlank) (ha : a.all isWordChar)
    (hne : a ≠ []) (hrest : EndsWord rest) : nextWord (x ++ (a ++ rest)) = a := by
  have hdrop : (x ++ (a ++ rest)).dropWhile isBlank = a ++ rest := by
    rw [List.dropWhile_append_of_pos (List.all_eq_true.mp hx)]
    obtain ⟨c, a, rfl⟩ := List.exists_cons_of_ne_nil hne
    have hc : ¬ isBlank c := fun hc => by
      have := List.all_eq_true.mp ha c List.mem_cons_self
      simp [isWordChar_eq_false_of_isBlank hc] at this
    simp [hc]
  rw [nextWord, hdrop, List.takeWhile_append_of_pos (List.all_eq_true.mp ha)]
  cases rest with
  | nil => simp
  | cons c rest => simp [hrest c (by simp)]

/-! ### What patterns spell -/

/-- An item of a phrase. -/
inductive PhraseItem where
  /-- A word in any case. -/
  | word (w : String)
  /-- One or more blanks. -/
  | gap
  /-- Any text. -/
  | other
  deriving DecidableEq, Repr

/-- The texts that an item stands for. -/
def PhraseItem.Reads : PhraseItem → Text → Prop
  | word w, x => Pattern.plainText x = Pattern.plainText w.toList
  | gap, x => x ≠ [] ∧ x.all isBlank
  | other, _ => True

/-- The texts that a phrase stands for. -/
def Spells : List PhraseItem → Text → Prop
  | [], x => x = []
  | i :: phrase, x => ∃ y z, x = y ++ z ∧ i.Reads y ∧ Spells phrase z

theorem Spells.append {phrase more : List PhraseItem} {x y : Text} (hx : Spells phrase x)
    (hy : Spells more y) : Spells (phrase ++ more) (x ++ y) := by
  induction phrase generalizing x with
  | nil => cases hx; exact hy
  | cons i phrase ih =>
    obtain ⟨u, v, rfl, hu, hv⟩ := hx
    exact ⟨u, v ++ y, by simp, hu, ih hv⟩

theorem spells_singleton {i : PhraseItem} {x : Text} (h : i.Reads x) : Spells [i] x :=
  ⟨x, [], by simp, h, rfl⟩

namespace Pattern

/-- Whatever the pattern takes spells one of some phrases. -/
def Phrases (p : Pattern) (phrases : List (List PhraseItem)) : Prop :=
  ∀ c d x, p.Takes c d → c.rest = x ++ d.rest → ∃ phrase ∈ phrases, Spells phrase x

/-- Where the pattern stops behind a word character, the word ends. -/
def Stops (p : Pattern) : Prop :=
  ∀ c d, p.Takes c d → d.previous.any isWordChar → EndsWord d.rest

section Structure

variable {p a b : Pattern} {ps qs : List (List PhraseItem)}

theorem phrases_other (p : Pattern) : Phrases p [[.other]] :=
  fun _ _ _ _ _ => ⟨_, List.mem_singleton_self _, spells_singleton trivial⟩

theorem phrases_nothing : Phrases nothing [[]] := by
  rintro c d x rfl hx
  exact ⟨[], List.mem_singleton_self _, List.self_eq_append_left.mp hx⟩

theorem phrases_wordEdge : Phrases wordEdge [[]] := by
  rintro c d x ⟨rfl, _⟩ hx
  exact ⟨[], List.mem_singleton_self _, List.self_eq_append_left.mp hx⟩

theorem phrases_seq (ha : Phrases a ps) (hb : Phrases b qs) :
    Phrases (seq a b) (ps.flatMap fun phrase => qs.map (phrase ++ ·)) := by
  rintro c d x ⟨e, he, hd⟩ hx
  obtain ⟨y, hy, _⟩ := he.eq_advance
  obtain ⟨z, hz, _⟩ := hd.eq_advance
  obtain ⟨phrase, hphrase, hy'⟩ := ha c e y he hy
  obtain ⟨more, hmore, hz'⟩ := hb e d z hd hz
  rw [hy, hz, ← List.append_assoc] at hx
  refine ⟨phrase ++ more, ?_, List.append_cancel_right hx ▸ hy'.append hz'⟩
  exact List.mem_flatMap.mpr ⟨phrase, hphrase, List.mem_map_of_mem hmore⟩

theorem phrases_alt (ha : Phrases a ps) (hb : Phrases b qs) :
    Phrases (alt a b) (ps ++ qs) := by
  rintro c d x (h | h) hx
  · obtain ⟨phrase, hphrase, hs⟩ := ha c d x h hx
    exact ⟨phrase, List.mem_append_left _ hphrase, hs⟩
  · obtain ⟨phrase, hphrase, hs⟩ := hb c d x h hx
    exact ⟨phrase, List.mem_append_right _ hphrase, hs⟩

theorem phrases_opt (ha : Phrases a ps) : Phrases (opt a) (ps ++ [[]]) :=
  phrases_alt ha phrases_nothing

/-- Whatever the pattern takes is a word in any case. -/
def Letters (p : Pattern) (w : Text) : Prop :=
  ∀ c d x, p.Takes c d → c.rest = x ++ d.rest → plainText x = plainText w

theorem phrases_of_letters {w : String} (h : Letters p w.toList) : Phrases p [[.word w]] :=
  fun c d x ht hx => ⟨_, List.mem_singleton_self _, spells_singleton (h c d x ht hx)⟩

theorem letters_nothing : Letters nothing [] := by
  rintro c d x rfl hx
  rw [List.self_eq_append_left.mp hx]

theorem letters_notAhead : Letters (notAhead p) [] := by
  rintro c d x ⟨rfl, _⟩ hx
  rw [List.self_eq_append_left.mp hx]

theorem letters_one {f : Char → Bool} {l : Char}
    (h : ∀ c, f c = true → plainLetter c = plainLetter l) : Letters (one f) [l] := by
  rintro c d x ⟨ch, rest, hr, hch, rfl⟩ hx
  have hxy : x = [ch] := by
    rw [hr, Cursor.advance_rest, ← List.singleton_append] at hx
    exact (List.append_cancel_right hx).symm
  simp [hxy, plainText, h ch hch]

theorem letters_seq {v w : Text} (ha : Letters a v) (hb : Letters b w) :
    Letters (seq a b) (v ++ w) := by
  rintro c d x ⟨e, he, hd⟩ hx
  obtain ⟨y, hy, _⟩ := he.eq_advance
  obtain ⟨z, hz, _⟩ := hd.eq_advance
  rw [hy, hz, ← List.append_assoc] at hx
  rw [← List.append_cancel_right hx, plainText_append, plainText_append, ha c e y he hy,
    hb e d z hd hz]

theorem letters_word (w : String) : Letters (word w) w.toList := by
  have hone : ∀ l, Letters (one fun c => plainLetter c == plainLetter l) [l] :=
    fun l => letters_one fun c hc => by simpa using hc
  rw [word]
  induction w.toList with
  | nil => exact letters_nothing
  | cons l ls ih =>
    cases ls with
    | nil => exact hone l
    | cons l' ls => exact letters_seq (hone l) ih

theorem phrases_word (w : String) : Phrases (word w) [[.word w]] :=
  phrases_of_letters (letters_word w)

theorem takes_many_one {p : Char → Bool} {c d : Cursor} {x : Text}
    (ht : (many (one p)).Takes c d) (hx : c.rest = x ++ d.rest) : x.all p := by
  induction ht using Relation.ReflTransGen.head_induction_on generalizing x with
  | refl => rw [List.self_eq_append_left.mp hx]; rfl
  | @head c e hc ht ih =>
    obtain ⟨ch, rest, hr, hch, rfl⟩ := hc
    obtain ⟨y, hy, _⟩ := Takes.eq_advance (p := many (one p)) ht
    rw [Cursor.advance_rest] at hy
    have hxy : x = ch :: y := by
      rw [hr, hy, ← List.cons_append] at hx
      exact (List.append_cancel_right hx).symm
    simp [hxy, hch, ih hy]

theorem takes_some1_one {p : Char → Bool} {c d : Cursor} {x : Text}
    (ht : (some1 (one p)).Takes c d) (hx : c.rest = x ++ d.rest) : x ≠ [] ∧ x.all p := by
  obtain ⟨e, ⟨ch, rest, hr, hch, rfl⟩, ht⟩ := ht
  obtain ⟨y, hy, _⟩ := Takes.eq_advance (p := many (one p)) ht
  rw [Cursor.advance_rest] at hy
  have hxy : x = ch :: y := by
    rw [hr, hy, ← List.cons_append] at hx
    exact (List.append_cancel_right hx).symm
  simp [hxy, hch, takes_many_one ht hy]

theorem phrases_blanks : Phrases blanks [[.gap]] := fun _ _ _ ht hx =>
  ⟨_, List.mem_singleton_self _, spells_singleton (takes_some1_one ht hx)⟩

theorem phrases_blank : Phrases blank [[.gap]] := by
  rintro c d x ⟨ch, rest, hr, hch, rfl⟩ hx
  refine ⟨_, List.mem_singleton_self _, spells_singleton ?_⟩
  have hxy : x = [ch] := by
    rw [hr, Cursor.advance_rest, ← List.singleton_append] at hx
    exact (List.append_cancel_right hx).symm
  simp [hxy, PhraseItem.Reads, hch]

theorem phrases_oneOf (ws : List String) : Phrases (oneOf ws) (ws.map fun w => [.word w]) := by
  induction ws with
  | nil => rintro c d x ⟨_, _, _, h, _⟩; cases h
  | cons w ws ih =>
    cases ws with
    | nil => exact phrases_word w
    | cons v ws => exact phrases_alt (phrases_word w) ih

theorem phrases_spaced (ws : List String) :
    Phrases (spaced ws) (ws.map fun w => [.word w, .gap]) := by
  induction ws with
  | nil => rintro c d x ⟨_, _, _, h, _⟩; cases h
  | cons w ws ih =>
    cases ws with
    | nil => exact phrases_seq (phrases_word w) phrases_blanks
    | cons v ws => exact phrases_alt (phrases_seq (phrases_word w) phrases_blanks) ih

theorem phrases_gapped (ws : List String) :
    Phrases (any (ws.map fun w => seq blanks (word w))) (ws.map fun w => [.gap, .word w]) := by
  induction ws with
  | nil => rintro c d x ⟨_, _, _, h, _⟩; cases h
  | cons w ws ih =>
    cases ws with
    | nil => exact phrases_seq phrases_blanks (phrases_word w)
    | cons v ws => exact phrases_alt (phrases_seq phrases_blanks (phrases_word w)) ih

theorem all_cons {ps : List Pattern} (h : ps ≠ []) : all (p :: ps) = seq p (all ps) := by
  cases ps with
  | nil => exact absurd rfl h
  | cons q qs => rfl

theorem phrase_cons (w v : String) (ws : List String) :
    phrase (w :: v :: ws) = seq (word w) (seq blanks (phrase (v :: ws))) := by
  have hne : (word v :: ws.map word).intersperse blanks ≠ [] := by
    cases ws <;> simp
  rw [phrase, List.map_cons, List.map_cons, List.intersperse_cons_cons, all, all_cons hne]
  · rfl
  · simp

theorem phrases_phrase (ws : List String) :
    Phrases (phrase ws) [(ws.map PhraseItem.word).intersperse .gap] := by
  induction ws with
  | nil => exact phrases_nothing
  | cons w ws ih =>
    cases ws with
    | nil => exact phrases_word w
    | cons v ws =>
      rw [phrase_cons]
      simpa using phrases_seq (phrases_word w) (phrases_seq phrases_blanks ih)

theorem stops_wordEdge : Stops wordEdge := by
  rintro c d ⟨rfl, he⟩ hp ch hch
  rw [Option.mem_def] at hch
  simpa [atWordEdge, hp, hch] using he

theorem stops_notAhead : Stops (notAhead (one isWordPart)) := by
  rintro c d ⟨rfl, hrun⟩ - ch hch
  rw [run] at hrun
  split at hrun
  · next hr => simp [hr] at hch
  · next ch' rest hr =>
    rw [hr, Option.mem_def, List.head?_cons, Option.some.injEq] at hch
    subst hch
    split at hrun
    · cases hrun
    · next hp =>
      rw [Bool.not_eq_true, isWordPart, Bool.or_eq_false_iff] at hp
      exact hp.2

theorem stops_seq (hb : Stops b) : Stops (seq a b) := by
  rintro c d ⟨e, _, hd⟩
  exact hb e d hd

/-- A pattern whose last character is no part of a word stops. -/
theorem stops_one {p : Char → Bool} (h : ∀ c, p c = true → isWordChar c = false) :
    Stops (one p) := by
  rintro c d ⟨ch, rest, _, hch, rfl⟩ hp
  simp [Cursor.advance, Cursor.previous, h ch hch] at hp

end Structure

end Pattern

/-! ### Phrases of words -/

open Pattern

/-- Whether a keyword consists of word characters. -/
def isPhraseWord (w : String) : Bool := !w.toList.isEmpty && w.toList.all isWordChar

/-- The phrase of several words. -/
def phraseOf (ws : List String) : List PhraseItem := (ws.map PhraseItem.word).intersperse .gap

/-- Whether a phrase is made of words with gaps between them, and perhaps any text behind a gap. -/
def alternates : List PhraseItem → Bool
  | [.word w] => isPhraseWord w
  | [.word w, .gap, .other] => isPhraseWord w
  | .word w :: .gap :: .word v :: more => isPhraseWord w && alternates (.word v :: more)
  | _ => false

/-- Whether two phrases agree as far as both go. -/
def overlap : List PhraseItem → List PhraseItem → Bool
  | .word w :: phrase, .word v :: other =>
    plainText w.toList == plainText v.toList && overlap phrase other
  | .gap :: phrase, .gap :: other => overlap phrase other
  | .other :: _, _ => true
  | [], _ => true
  | _, [] => true
  | _, _ => false

section Words

variable {phrase : List PhraseItem} {v x rest s : Text}

theorem ne_nil_of_reads {w : String} (hw : isPhraseWord w) (h : (PhraseItem.word w).Reads x) :
    x ≠ [] := by
  rintro rfl
  have : w.toList = [] := plainText_eq_nil_iff.mp h.symm
  simp [isPhraseWord, this] at hw

theorem all_isWordChar_of_reads {w : String} (hw : isPhraseWord w)
    (h : (PhraseItem.word w).Reads x) : x.all isWordChar := by
  rw [isPhraseWord, Bool.and_eq_true] at hw
  exact all_isWordChar_of_plainText_eq h hw.2

theorem phraseOf_cons (w u : String) (ws : List String) :
    phraseOf (w :: u :: ws) = .word w :: .gap :: phraseOf (u :: ws) := rfl

theorem Spells.exists_cons {w : String} {more : List PhraseItem} (hw : isPhraseWord w)
    (h : Spells (.word w :: more) x) : ∃ c t, x = c :: t ∧ isWordChar c := by
  obtain ⟨y, z, rfl, hy, _⟩ := h
  obtain ⟨c, t, rfl⟩ := List.exists_cons_of_ne_nil (ne_nil_of_reads hw hy)
  exact ⟨c, t ++ z, rfl, List.all_eq_true.mp (all_isWordChar_of_reads hw hy) c List.mem_cons_self⟩

/-- A spelled phrase begins with its first word, which ends behind it. -/
theorem Spells.first_word (rest : Text) {w : String} {more : List PhraseItem} (hw : isPhraseWord w)
    (hmore : more.head?.all (· == .gap)) (hrest : more = [] → EndsWord rest)
    (h : Spells (.word w :: more) x) : ∃ y z, x = y ++ z ∧ plainText y = plainText w.toList ∧
      y.all isWordChar ∧ EndsWord (z ++ rest) ∧ Spells more z := by
  obtain ⟨y, z, rfl, hy, hz⟩ := h
  refine ⟨y, z, rfl, hy, all_isWordChar_of_reads hw hy, ?_, hz⟩
  cases more with
  | nil => cases hz; exact hrest rfl
  | cons i more =>
    cases (by simpa using hmore : i = .gap)
    obtain ⟨g, t, rfl, ⟨hgne, hg⟩, -⟩ := hz
    rw [List.append_assoc]
    exact endsWord_append_of_isBlank hgne hg

theorem alternates_word {w : String} {more : List PhraseItem}
    (h : alternates (.word w :: more)) : isPhraseWord w ∧ more.head?.all (· == .gap) := by
  match more, h with
  | [], h => exact ⟨h, rfl⟩
  | [.gap, .other], h => exact ⟨h, rfl⟩
  | .gap :: .word _ :: _, h =>
    rw [alternates, Bool.and_eq_true] at h
    exact ⟨h.1, rfl⟩

/-- What a phrase that ends with a word spells ends with a word. -/
theorem Spells.suffix_word (h : alternates phrase) (hother : .other ∉ phrase)
    (hx : Spells phrase x) : ∃ y, y <:+ x ∧ y ≠ [] ∧ y.all isWordChar := by
  fun_induction alternates phrase generalizing x with
  | case1 w =>
    obtain ⟨y, z, rfl, hy, rfl⟩ := hx
    exact ⟨y, by simp, ne_nil_of_reads h hy, all_isWordChar_of_reads h hy⟩
  | case2 w => simp at hother
  | case3 w v more ih =>
    obtain ⟨y, _, rfl, hy, g, z, rfl, _, hz⟩ := hx
    rw [Bool.and_eq_true] at h
    obtain ⟨u, hu, hne, hword⟩ := ih h.2 (by simp_all) hz
    exact ⟨u, hu.trans ⟨y ++ g, by simp⟩, hne, hword⟩
  | case4 => cases h

/-- The phrase of several words is its first word and, behind a gap, the phrase of the others. -/
theorem exists_phraseOf {ws : List String} (h : ws ≠ []) : ∃ u us more, ws = u :: us ∧
    phraseOf ws = .word u :: more ∧ more.head?.all (· == .gap) ∧
      (more = [] ∨ us ≠ [] ∧ more = .gap :: phraseOf us) := by
  match ws, h with
  | [u], _ => exact ⟨u, [], [], rfl, rfl, rfl, .inl rfl⟩
  | u :: u' :: us, _ => exact ⟨u, u' :: us, _, rfl, phraseOf_cons u u' us, rfl, .inr ⟨by simp, rfl⟩⟩

/-- Two phrases that are spelled at the same place begin with the same word, and what follows it in
each of them is spelled at the same place again. -/
theorem Spells.same_first_word {w u : String} {more others : List PhraseItem}
    (hu : isPhraseWord u) (hw : isPhraseWord w) (hmore : more.head?.all (· == .gap))
    (hothers : others.head?.all (· == .gap)) (hv : Spells (.word u :: more) v)
    (hx : Spells (.word w :: others) x) (heq : v ++ rest = x ++ s)
    (hrest : more = [] → EndsWord rest) (hs : others = [] → EndsWord s) :
    plainText w.toList = plainText u.toList ∧
      ∃ y z t, v = y ++ z ∧ x = y ++ t ∧ Spells more z ∧ Spells others t ∧ z ++ rest = t ++ s := by
  obtain ⟨y, z, rfl, hy, hyword, hyends, hz⟩ := hv.first_word rest hu hmore hrest
  obtain ⟨y', t, rfl, hy', hyword', hyends', ht⟩ := hx.first_word s hw hothers hs
  rw [List.append_assoc, List.append_assoc] at heq
  obtain ⟨rfl, htail⟩ := eq_of_append_eq_append_of_endsWord hyword hyword' hyends hyends' heq
  exact ⟨hy'.symm.trans hy, y, z, t, rfl, rfl, hz, ht, htail⟩

/-- Two gaps at the same place are the same one if a word begins behind each of them. -/
theorem Spells.same_gap {w u : String} {more others : List PhraseItem} (hu : isPhraseWord u)
    (hw : isPhraseWord w) (hv : Spells (.gap :: .word u :: more) v)
    (hx : Spells (.gap :: .word w :: others) x) (heq : v ++ rest = x ++ s) :
    ∃ g z t, v = g ++ z ∧ x = g ++ t ∧ Spells (.word u :: more) z ∧ Spells (.word w :: others) t ∧
      z ++ rest = t ++ s := by
  obtain ⟨g, z, rfl, ⟨-, hg⟩, hz⟩ := hv
  obtain ⟨g', t, rfl, ⟨-, hg'⟩, ht⟩ := hx
  obtain ⟨c, r, rfl, hc⟩ := hz.exists_cons hu
  obtain ⟨c', r', rfl, hc'⟩ := ht.exists_cons hw
  simp only [List.append_assoc, List.cons_append] at heq
  obtain ⟨rfl, htail⟩ := eq_of_append_eq_append_of_blank hg hg'
    (isBlank_eq_false_of_isWordChar hc) (isBlank_eq_false_of_isWordChar hc') heq
  exact ⟨g, c :: r, c' :: r', rfl, rfl, hz, ht, htail⟩

/-- Two phrases that are spelled at the same place agree as far as both go. -/
theorem overlap_of_spells {ws : List String} (h : alternates phrase)
    (hws : ∀ w ∈ ws, isPhraseWord w) (hne : ws ≠ []) (hv : Spells (phraseOf ws) v)
    (hx : Spells phrase x) (heq : v ++ rest = x ++ s) (hrest : EndsWord rest)
    (hs : .other ∉ phrase → EndsWord s) :
    overlap phrase (phraseOf ws) ∧
      (phrase.length = (phraseOf ws).length → .other ∉ phrase → x = v) := by
  fun_induction alternates phrase generalizing ws v x with
  | case1 w =>
    obtain ⟨u, us, more, rfl, hmore, hhead, -⟩ := exists_phraseOf hne
    rw [hmore] at hv ⊢
    obtain ⟨hsame, y, z, t, rfl, rfl, hz, rfl, -⟩ := hv.same_first_word
      (hws u List.mem_cons_self) h hhead rfl hx heq (fun _ => hrest) fun _ => hs (by simp)
    refine ⟨by simp [overlap, hsame], fun hlen _ => ?_⟩
    cases (by simpa using hlen : more = [])
    rw [hz]
  | case2 w =>
    obtain ⟨u, us, more, rfl, hmore, hhead, -⟩ := exists_phraseOf hne
    rw [hmore] at hv ⊢
    obtain ⟨hsame, -⟩ := hv.same_first_word (hws u List.mem_cons_self) h hhead rfl hx heq
      (fun _ => hrest) (by simp)
    refine ⟨?_, by simp⟩
    cases more with
    | nil => simp [overlap, hsame]
    | cons i more =>
      cases (by simpa using hhead : i = .gap)
      cases more <;> simp [overlap, hsame]
  | case3 w w' others ih =>
    rw [Bool.and_eq_true] at h
    obtain ⟨u, us, more, rfl, hmore, hhead, hrec⟩ := exists_phraseOf hne
    rw [hmore] at hv ⊢
    obtain ⟨hsame, y, z, t, rfl, rfl, hz, ht, htail⟩ := hv.same_first_word
      (hws u List.mem_cons_self) h.1 hhead rfl hx heq (fun _ => hrest) (by simp)
    rcases hrec with rfl | ⟨husne, rfl⟩
    · exact ⟨by simp [overlap, hsame], by simp⟩
    · -- both go on behind a gap, and behind each gap a word begins
      obtain ⟨u', us', more', rfl, hmore', -, -⟩ := exists_phraseOf husne
      rw [hmore'] at hz
      obtain ⟨g, z, t, rfl, rfl, hz, ht, htail⟩ :=
        hz.same_gap (hws u' (by simp)) (alternates_word h.2).1 ht htail
      rw [← hmore'] at hz
      obtain ⟨hover, hagree⟩ := ih h.2 (fun w hw => hws w (List.mem_cons_of_mem _ hw)) husne hz ht
        htail fun hother => hs (by simpa using hother)
      refine ⟨by simpa [overlap, hsame] using hover, fun hlen hother => ?_⟩
      rw [hagree (by simpa using hlen) (by simpa using hother)]
  | case4 => cases h

end Words

namespace Pattern

variable {p : Pattern} {phrases : List PhraseItem} {c d : Cursor} {x : Text}

theorem Stops.endsWord (hs : Stops p) (ht : p.Takes c d) (hx : c.rest = x ++ d.rest)
    {y : Text} (hy : y.all isWordChar) (hne : y ≠ []) (hsuffix : y <:+ x) : EndsWord d.rest := by
  obtain ⟨z, rfl⟩ := hsuffix
  obtain ⟨x', hx', hd⟩ := ht.eq_advance
  rw [hx'] at hx
  rw [List.append_cancel_right hx] at hd
  refine hs c d ht ?_
  rw [hd, Cursor.previous_advance _ _ (by simp [hne]), List.getLast?_append,
    List.getLast?_eq_some_getLast hne, Option.some_or, Option.any_some]
  exact List.all_eq_true.mp hy _ (List.getLast_mem hne)

end Pattern

end Sql

end SchemaMill
