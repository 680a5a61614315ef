import SchemaMill.Proofs.Lexing.Quotes
import SchemaMill.Proofs.Lexing.Words
import SchemaMill.Proofs.Text.Numerals

/-!
# Numbers

A number in decimal digits, with or without a minus sign and a fraction, is one lexeme if neither a
word nor a dot follows (`lexesAs_number`). Of the four rules for numbers the ones for hexadecimal
digits and for exponents find nothing at it, and of the other two the one that fits. Hexadecimal
numbers end with their digits (`lexesAs_hexadecimal`).
-/

namespace SchemaMill.Sql

open Pattern

/-- The first lexeme at a character is found by the rules that begin with it. -/
theorem lexesAs_of_filter {before : Option Char} {c : Char} {t rest : Text} {kind : LexemeKind}
    (rules : List (Pattern × LexemeKind))
    (hfilter : (lexicalRules.filter fun rule => rule.1.begins c) = rules) (hc : c ≠ '$')
    (hcomment : c = '/' → (t ++ rest).head? ≠ some '*')
    (h : firstRule? before (c :: (t ++ rest)) rules = some (⟨kind, c :: t⟩, rest)) :
    LexesAs before (c :: t) rest kind := by
  refine lexesAs_of_firstRule? hc hcomment ?_
  rw [firstRule?_filter canBeEmpty_lexicalRules, hfilter, h]

theorem firstRule?_of_match? {before : Option Char} {t x rest : Text} {p : Pattern}
    {kind : LexemeKind} {rules : List (Pattern × LexemeKind)}
    (h : p.match? before t = some (x, rest)) :
    firstRule? before t ((p, kind) :: rules) = some (⟨kind, x⟩, rest) := by
  rw [firstRule?, h]

theorem firstRule?_of_none {before : Option Char} {t : Text} {p : Pattern}
    {kind : LexemeKind} {rules : List (Pattern × LexemeKind)} (h : p.match? before t = none) :
    firstRule? before t ((p, kind) :: rules) = firstRule? before t rules := by
  rw [firstRule?, h]

namespace Pattern

variable {before : Option Char} {c found : Cursor} {next : Cursor → Option Cursor}
  {d f x r rest t : Text} {p q : Pattern}

theorem match?_of_run_none (h : p.run ⟨before, [], t⟩ some = none) : p.match? before t = none := by
  simp [match?, h]

theorem match?_one {f : Char → Bool} {ch : Char} (h : f ch) :
    (one f).match? before (ch :: rest) = some ([ch], rest) :=
  match?_of_run (run_one rfl h)

theorem match?_some1_one {f : Char → Bool} (hne : x ≠ []) (hx : x.all f)
    (hr : ∀ ch ∈ rest.head?, f ch = false) :
    (some1 (one f)).match? before (x ++ rest) = some (x, rest) :=
  match?_of_run (run_some1_one rfl hne hx hr rfl)

theorem run_notAhead {f : Char → Bool} (h : ∀ ch ∈ c.rest.head?, f ch = false) :
    (notAhead (one f)).run c next = next c := by
  rw [run, run_one_eq_none h]
  rfl

/-! ### Decimal digits -/

theorem takes_digits {e : Cursor} (hc : c.rest = d ++ r)
    (hr : ∀ ch ∈ r.head?, isDecimalDigit ch = false) (hd : d.all isDecimalDigit)
    (ht : digits.Takes c e) : ∃ d', e.rest = d' ++ r ∧ d'.all isDecimalDigit := by
  obtain ⟨y, hy, -⟩ := ht.eq_advance
  obtain ⟨-, hyd⟩ := takes_some1_one ht hy
  rcases List.append_eq_append_iff.mp (hc.symm.trans hy) with ⟨z, rfl, hz⟩ | ⟨z, rfl, hz⟩
  · cases z with
    | nil => exact ⟨[], by simpa using hz.symm, rfl⟩
    | cons ch z =>
      rw [List.all_append, Bool.and_eq_true, List.all_cons, Bool.and_eq_true] at hyd
      simp [hr ch (by simp [hz])] at hyd
  · rw [List.all_append, Bool.and_eq_true] at hd
    exact ⟨z, hz, hd.2⟩

/-- Behind a minus sign, which may be there, come the digits; if the sign is there and is not taken,
it is what follows. -/
theorem takes_minus {e : Cursor} {s : Text} (hs : s = [] ∨ s = ['-']) (hc : c.rest = s ++ r)
    (hr : ∀ ch ∈ r.head?, isDecimalDigit ch) (ht : minus.Takes c e) :
    e.rest = r ∨ e.rest.head? = some '-' := by
  rcases ht with ⟨ch, rest, hrest, hch, rfl⟩ | rfl
  · cases (by simpa using hch : ch = '-')
    rcases hs with rfl | rfl
    · have hdash := hr '-' (by rw [← List.nil_append r, ← hc, hrest]; rfl)
      exact absurd hdash (by decide)
    · rw [hc, List.singleton_append, List.cons.injEq] at hrest
      exact .inl hrest.2.symm
  · rcases hs with rfl | rfl
    · exact .inl (by simpa using hc)
    · exact .inr (by simp [hc])

theorem digits_not_takes_minus {e : Cursor} (h : c.rest.head? = some '-') :
    ¬ digits.Takes c e := by
  rintro ⟨g, ⟨ch, rest, hrest, hch, -⟩, -⟩
  rw [hrest, List.head?_cons, Option.some.injEq] at h
  subst h
  exact absurd hch (by decide)

/-- What follows a number: nothing that makes it go on as a name, as a number or with a dot. -/
structure EndsNumber (rest : Text) : Prop where
  noDigit : ∀ ch ∈ rest.head?, isDecimalDigit ch = false
  noWord : EndsWord rest
  noName : ∀ ch ∈ rest.head?, isNameStart ch = false
  noDot : ∀ ch ∈ rest.head?, ch ≠ '.'

theorem EndsNumber.noNameStart (hr : EndsNumber r) :
    ∀ ch ∈ r.head?, ch ≠ '_' ∧ isNameStart ch = false := by
  refine fun ch hch => ⟨?_, hr.noName ch hch⟩
  rintro rfl
  exact absurd (hr.noWord _ hch) (by decide)

theorem run_noName (hr : ∀ ch ∈ c.rest.head?, ch ≠ '_' ∧ isNameStart ch = false) :
    noName.run c next = next c :=
  run_notAhead fun ch hch => by simp [hr ch hch]

theorem startsNumber {s : Text} (hs : s = [] ∨ s = ['-']) (hne : d ≠ [])
    (hname : ∀ ch ∈ d.head?, ch ≠ '_' ∧ isNameStart ch = false) :
    ∀ ch ∈ (s ++ (d ++ r)).head?, ch ≠ '_' ∧ isNameStart ch = false := by
  obtain ⟨ch, d, rfl⟩ := List.exists_cons_of_ne_nil hne
  rcases hs with rfl | rfl
  · exact hname
  · rintro _ ⟨⟩; decide

theorem not_takes_letter {l : Char} (hword : isWordChar (plainLetter l))
    (hdigit : isDecimalDigit (plainLetter l) = false) (hc : c.rest = d ++ r)
    (hd : d.all isDecimalDigit) (hr : EndsWord r) {e : Cursor} :
    ¬ (one fun ch => plainLetter ch == plainLetter l).Takes c e := by
  rintro ⟨ch, rest, hrest, hch, -⟩
  rw [beq_iff_eq] at hch
  rw [← hch, isWordChar_plainLetter] at hword
  rw [← hch, isDecimalDigit_plainLetter] at hdigit
  rw [hrest] at hc
  cases d with
  | nil => simp [hr ch (by rw [← List.nil_append r, ← hc]; rfl)] at hword
  | cons ch' d =>
    cases hc
    rw [List.all_cons, Bool.and_eq_true] at hd
    simp [hd.1] at hdigit

theorem takes_dot {e : Cursor} (hc : c.rest = d ++ r) (hd : d.all isDecimalDigit)
    (ht : (char '.').Takes c e) : r = '.' :: e.rest := by
  obtain ⟨ch, rest, hrest, hch, rfl⟩ := ht
  cases (by simpa using hch : ch = '.')
  rw [hrest] at hc
  cases d with
  | nil => exact hc.symm
  | cons ch' d =>
    cases hc
    exact absurd (List.all_eq_true.mp hd '.' List.mem_cons_self) (by decide)

section Number

variable {s : Text} (hs : s = [] ∨ s = ['-']) (hne : d ≠ []) (hd : d.all isDecimalDigit)

include hs hne hd

/-- Behind the sign and digits of a number come digits and what follows the digits. -/
theorem takes_number {e g : Cursor} (hc : c.rest = s ++ (d ++ r))
    (hr : ∀ ch ∈ r.head?, isDecimalDigit ch = false) (hm : minus.Takes c e)
    (ht : digits.Takes e g) : ∃ d', g.rest = d' ++ r ∧ d'.all isDecimalDigit := by
  have hhead : ∀ ch ∈ (d ++ r).head?, isDecimalDigit ch := by
    obtain ⟨ch, d, rfl⟩ := List.exists_cons_of_ne_nil hne
    rintro _ ⟨⟩
    exact List.all_eq_true.mp hd ch List.mem_cons_self
  rcases takes_minus hs hc hhead hm with he | he
  · exact takes_digits he hr hd ht
  · exact absurd ht (digits_not_takes_minus he)

theorem match?_exponent (hr : EndsNumber r)
    (ht : t = r ∨ ∃ f, f.all isDecimalDigit ∧ t = '.' :: (f ++ r)) {tail : Pattern} :
    (seq minus (seq digits (seq (opt (seq (char '.') digits)) (seq (word "E") tail)))).match? before
      (s ++ (d ++ t)) = none := by
  have hletter : ∀ {c e : Cursor} {d : Text}, c.rest = d ++ r → d.all isDecimalDigit →
      ¬ (word "E").Takes c e := fun hc hd =>
    not_takes_letter (by decide) (by decide) hc hd hr.noWord
  have hdigit : ∀ ch ∈ t.head?, isDecimalDigit ch = false := by
    rcases ht with rfl | ⟨f, -, rfl⟩
    · exact hr.noDigit
    · rintro _ ⟨⟩; decide
  refine match?_of_run_none (run_eq_none ?_)
  rintro g ⟨e, hm, i, hi, k, hopt, l, hE, -⟩
  obtain ⟨d', hi, hd'⟩ := takes_number hs hne hd rfl hdigit hm hi
  rcases hopt with ⟨m, hdot, hk⟩ | rfl
  · have hm := takes_dot hi hd' hdot
    rcases ht with rfl | ⟨f, hf, rfl⟩
    · exact hr.noDot '.' (by rw [hm]; rfl) rfl
    · rw [List.cons.injEq] at hm
      obtain ⟨f', hk, hf'⟩ := takes_digits hm.2.symm hr.noDigit hf hk
      exact hletter hk hf' hE
  · rcases ht with rfl | ⟨f, hf, rfl⟩
    · exact hletter hi hd' hE
    · refine not_takes_letter (by decide) (by decide) hi hd' ?_ hE
      rintro _ ⟨⟩; decide

theorem match?_hexadecimal (ht : EndsWord t) {tail : Pattern} :
    (seq minus (seq (word "0x") tail)).match? before (s ++ (d ++ t)) = none := by
  refine match?_of_run_none (run_eq_none ?_)
  rintro g ⟨e, hm, i, ⟨k, ⟨ch, rest, hrest, hch, rfl⟩, hx⟩, -⟩
  have hhead : ∀ ch ∈ (d ++ t).head?, isDecimalDigit ch := by
    obtain ⟨ch, d, rfl⟩ := List.exists_cons_of_ne_nil hne
    rintro _ ⟨⟩
    exact List.all_eq_true.mp hd ch List.mem_cons_self
  rcases takes_minus hs rfl hhead hm with he | he
  · obtain ⟨ch', d, rfl⟩ := List.exists_cons_of_ne_nil hne
    rw [hrest] at he
    cases he
    rw [List.all_cons, Bool.and_eq_true] at hd
    exact not_takes_letter (l := 'x') (by decide) (by decide) rfl hd.2 ht hx
  · rw [hrest, List.head?_cons, Option.some.injEq] at he
    subst he
    exact absurd hch (by decide)

theorem run_seq_minus (hc : c.rest = s ++ (d ++ r))
    (h : q.run (c.advance s (d ++ r)) next = some found) :
    (seq minus q).run c next = some found := by
  rw [run]
  rcases hs with rfl | rfl
  · obtain ⟨ch, d, rfl⟩ := List.exists_cons_of_ne_nil hne
    rw [minus, run_opt_of_none (run_char_eq_none ?_)]
    · rwa [← Cursor.advance_nil c, hc] 
    · rw [hc]
      rintro ⟨⟩
      exact absurd (List.all_eq_true.mp hd '-' List.mem_cons_self) (by decide)
  · refine run_alt_of_some ?_
    rwa [run_char hc]

theorem match?_fraction_of_whole (hr : EndsNumber r) :
    (all [noName, minus, alt (all [digits, char '.', opt digits]) (seq (char '.') digits),
      noName]).match? before (s ++ (d ++ r)) = none := by
  refine match?_of_run_none (run_eq_none ?_)
  rintro g ⟨_, ⟨rfl, -⟩, e, hm, i, hi, -⟩
  have hhead : ∀ ch ∈ (d ++ r).head?, isDecimalDigit ch := by
    obtain ⟨ch, d, rfl⟩ := List.exists_cons_of_ne_nil hne
    rintro _ ⟨⟩
    exact List.all_eq_true.mp hd ch List.mem_cons_self
  rcases hi with ⟨k, hk, l, hdot, -⟩ | ⟨k, hdot, -⟩
  · obtain ⟨d', hk, hd'⟩ := takes_number hs hne hd rfl hr.noDigit hm hk
    exact hr.noDot '.' (by rw [takes_dot hk hd' hdot]; rfl) rfl
  · rcases takes_minus hs rfl hhead hm with he | he
    · exact hr.noDot '.' (by rw [takes_dot he hd hdot]; rfl) rfl
    · obtain ⟨ch, rest, hrest, hch, -⟩ := hdot
      rw [hrest, List.head?_cons, Option.some.injEq] at he
      subst he
      exact absurd hch (by decide)

theorem match?_fraction (hname : ∀ ch ∈ d.head?, ch ≠ '_' ∧ isNameStart ch = false)
    (hfne : f ≠ []) (hf : f.all isDecimalDigit) (hr : EndsNumber r) :
    (all [noName, minus, alt (all [digits, char '.', opt digits]) (seq (char '.') digits),
      noName]).match? before (s ++ (d ++ '.' :: (f ++ r))) = some (s ++ (d ++ '.' :: f), r) := by
  refine match?_of_run ?_
  simp only [all]
  rw [run, run_noName (startsNumber hs hne hname)]
  refine run_seq_minus hs hne hd rfl ?_
  rw [run]
  refine run_alt_of_some ?_
  rw [run]
  refine run_some1_one rfl hne hd (by rintro _ ⟨⟩; decide) ?_
  rw [run, run_char rfl]
  refine run_alt_of_some ?_
  refine run_some1_one rfl hfne hf hr.noDigit ?_
  rw [run_noName hr.noNameStart]
  simp only [Cursor.advance_advance, List.append_assoc]
  rfl

theorem match?_whole (hname : ∀ ch ∈ d.head?, ch ≠ '_' ∧ isNameStart ch = false)
    (hr : EndsNumber r) :
    (all [noName, minus, digits, noName]).match? before (s ++ (d ++ r)) = some (s ++ d, r) := by
  refine match?_of_run ?_
  simp only [all]
  rw [run, run_noName (startsNumber hs hne hname)]
  refine run_seq_minus hs hne hd rfl ?_
  rw [run]
  refine run_some1_one rfl hne hd hr.noDigit ?_
  rw [run_noName hr.noNameStart, Cursor.advance_advance]

end Number

end Pattern

/-! ### Numbers -/

/-- Whether a text is made of decimal digits. -/
def isDigits (t : Text) : Bool := !t.isEmpty && t.all Char.isDigit

/-- A number without its sign. -/
def unsigned : Text → Text
  | '-' :: t => t
  | t => t

/-- Whether a text is a number in decimal digits, with or without a minus sign and a fraction. -/
def isNumberText (v : Text) : Bool :=
  isDigits ((unsigned v).takeWhile Char.isDigit) &&
    match (unsigned v).dropWhile Char.isDigit with
    | [] => true
    | c :: f => c == '.' && isDigits f

/-- Whether a number is told apart from the text behind it. -/
def endsNumber (rest : Text) : Bool :=
  rest.head?.all fun c => !isDecimalDigit c && !isWordChar c && !isNameStart c && c != '.'

theorem endsNumber_iff {rest : Text} : EndsNumber rest ↔ endsNumber rest := by
  cases rest with
  | nil => exact ⟨fun _ => rfl, fun _ => ⟨by simp, by simp [EndsWord], by simp, by simp⟩⟩
  | cons c rest =>
    simp only [endsNumber, List.head?_cons, Option.all_some, Bool.and_eq_true, Bool.not_eq_true',
      bne_iff_ne]
    constructor
    · rintro ⟨h1, h2, h3, h4⟩
      exact ⟨⟨⟨h1 c rfl, h2 c rfl⟩, h3 c rfl⟩, h4 c rfl⟩
    · rintro ⟨⟨⟨h1, h2⟩, h3⟩, h4⟩
      exact ⟨by rintro _ ⟨⟩; exact h1, by rintro _ ⟨⟩; exact h2, by rintro _ ⟨⟩; exact h3,
        by rintro _ ⟨⟩; exact h4⟩

theorem exists_number {v : Text} (h : isNumberText v) : ∃ s d : Text, (s = [] ∨ s = ['-']) ∧
    isDigits d ∧ (v = s ++ d ∨ ∃ f, isDigits f ∧ v = s ++ (d ++ '.' :: f)) := by
  obtain ⟨s, hs, hv⟩ : ∃ s : Text, (s = [] ∨ s = ['-']) ∧ v = s ++ unsigned v := by
    unfold unsigned
    split
    · exact ⟨['-'], .inr rfl, rfl⟩
    · exact ⟨[], .inl rfl, rfl⟩
  simp only [isNumberText, Bool.and_eq_true] at h
  refine ⟨s, _, hs, h.1, ?_⟩
  have hsplit := (List.takeWhile_append_dropWhile (p := Char.isDigit) (l := unsigned v)).symm
  have hrest := h.2
  split at hrest
  · next hnil =>
    rw [hnil, List.append_nil] at hsplit
    exact .inl (hsplit ▸ hv)
  · next c f hcons =>
    rw [Bool.and_eq_true, beq_iff_eq] at hrest
    obtain ⟨rfl, hf⟩ := hrest
    rw [hcons] at hsplit
    exact .inr ⟨f, hf, hsplit ▸ hv⟩

theorem all_isDecimalDigit_of_isDigits {d : Text} (h : isDigits d) :
    d ≠ [] ∧ d.all isDecimalDigit ∧ ∀ ch ∈ d.head?, ch ≠ '_' ∧ isNameStart ch = false := by
  have hall : ∀ c ∈ ['0', '1', '2', '3', '4', '5', '6', '7', '8', '9'],
      c ≠ '_' ∧ isNameStart c = false := by decide
  simp only [isDigits, Bool.and_eq_true, Bool.not_eq_true', List.isEmpty_eq_false_iff] at h
  refine ⟨h.1, List.all_eq_true.mpr fun c hc => isDecimalDigit_of_isDigit
    (List.all_eq_true.mp h.2 c hc), fun c hc => hall c (mem_of_isDigit ?_)⟩
  exact List.all_eq_true.mp h.2 c (List.mem_of_mem_head? hc)

theorem firstRule?_eq_none {before : Option Char} {c : Char} {t : Text}
    {rules : List (Pattern × LexemeKind)}
    (h : rules.all fun rule => !rule.1.canBeEmpty && !rule.1.begins c) :
    firstRule? before (c :: t) rules = none := by
  induction rules with
  | nil => rfl
  | cons rule rules ih =>
    simp only [List.all_cons, Bool.and_eq_true, Bool.not_eq_true'] at h
    rw [firstRule?, match?_eq_none h.1.1 h.1.2]
    exact ih (by simpa using h.2)

theorem match?_comment_minus {before : Option Char} {t : Text} (ht : t.head? ≠ some '-') :
    (all [alt (literal "--") (literal "# "), shortLine, alt lineBreak textEnd]).match? before
      ('-' :: t) = none := by
  refine match?_of_run_none (run_eq_none ?_)
  rintro g ⟨e, h | h, -⟩
  · obtain ⟨i, ⟨_, _, ⟨⟩, -, rfl⟩, ch, r, hr, hch, -⟩ := h
    rw [show t = ch :: r from hr] at ht
    exact ht (congrArg some (beq_iff_eq.mp hch))
  · obtain ⟨i, ⟨_, _, ⟨⟩, hch, rfl⟩, -⟩ := h
    exact absurd hch (by decide)

theorem firstRule?_before_numbers {before : Option Char} {s d t : Text} (hs : s = [] ∨ s = ['-'])
    (hd : isDigits d) : firstRule? before (s ++ (d ++ t)) (lexicalRules.take 17) = none := by
  have hdigits : ∀ c ∈ ['0', '1', '2', '3', '4', '5', '6', '7', '8', '9'],
      (lexicalRules.take 17).all (fun rule => !rule.1.canBeEmpty && !rule.1.begins c) := by decide
  simp only [isDigits, Bool.and_eq_true, Bool.not_eq_true', List.isEmpty_eq_false_iff] at hd
  obtain ⟨c, d, rfl⟩ := List.exists_cons_of_ne_nil hd.1
  have hc := mem_of_isDigit (List.all_eq_true.mp hd.2 c List.mem_cons_self)
  rcases hs with rfl | rfl
  · exact firstRule?_eq_none (hdigits c hc)
  · have hrules : lexicalRules.take 17 =
        (all [alt (literal "--") (literal "# "), shortLine, alt lineBreak textEnd], .comment) ::
          (lexicalRules.drop 1).take 16 := rfl
    have hminus : ∀ c ∈ ['0', '1', '2', '3', '4', '5', '6', '7', '8', '9'], c ≠ '-' := by decide
    rw [hrules]
    exact (firstRule?_of_none (match?_comment_minus (by simpa using hminus c hc))).trans
      (firstRule?_eq_none (by decide))

/-- A number in decimal digits is one lexeme. -/
theorem lexesAs_number {before : Option Char} {v rest : Text} (hv : isNumberText v)
    (hrest : endsNumber rest) : LexesAs before v rest .number := by
  have hend := endsNumber_iff.mpr hrest
  obtain ⟨s, d, hs, hd, hv⟩ := exists_number hv
  obtain ⟨hne, hdigits, hname⟩ := all_isDecimalDigit_of_isDigits hd
  obtain ⟨t, ht, hfound⟩ : ∃ t, v ++ rest = s ++ (d ++ t) ∧
      firstRule? before (v ++ rest) (lexicalRules.drop 17) = some (⟨.number, v⟩, rest) := by
    have hrules : lexicalRules.drop 17 =
        (all [minus, word "0x", some1 (one fun c => isDecimalDigit c ||
          ('a' ≤ plainLetter c && plainLetter c ≤ 'f'))], .number) ::
        (all [minus, digits, opt (seq (char '.') digits), word "E", minus, digits], .number) ::
        (all [noName, minus, alt (all [digits, char '.', opt digits]) (seq (char '.') digits),
          noName], .number) ::
        (all [noName, minus, digits, noName], .number) :: lexicalRules.drop 21 := rfl
    rw [hrules]
    rcases hv with rfl | ⟨f, hf, rfl⟩
    · refine ⟨rest, by simp, ?_⟩
      rw [List.append_assoc]
      refine (firstRule?_of_none (match?_hexadecimal hs hne hdigits hend.noWord)).trans ?_
      refine (firstRule?_of_none (match?_exponent hs hne hdigits hend (.inl rfl))).trans ?_
      refine (firstRule?_of_none (match?_fraction_of_whole hs hne hdigits hend)).trans ?_
      exact firstRule?_of_match? (match?_whole hs hne hdigits hname hend)
    · obtain ⟨hfne, hfdigits, -⟩ := all_isDecimalDigit_of_isDigits hf
      refine ⟨'.' :: (f ++ rest), by simp, ?_⟩
      have htext : s ++ (d ++ '.' :: f) ++ rest = s ++ (d ++ '.' :: (f ++ rest)) := by simp
      rw [htext]
      refine (firstRule?_of_none (match?_hexadecimal hs hne hdigits ?_)).trans ?_
      · rintro _ ⟨⟩; decide
      refine (firstRule?_of_none (match?_exponent hs hne hdigits hend
        (.inr ⟨f, hfdigits, rfl⟩))).trans ?_
      exact firstRule?_of_match? (match?_fraction hs hne hdigits hname hfne hfdigits hend)
  have hfirst : firstRule? before (v ++ rest) lexicalRules = some (⟨.number, v⟩, rest) := by
    rw [← List.take_append_drop 17 lexicalRules, firstRule?_append_rules, hfound, ht,
      firstRule?_before_numbers hs hd, Option.none_or]
  have hstart : ∃ c u, v = c :: u ∧
      c ∈ ['-', '0', '1', '2', '3', '4', '5', '6', '7', '8', '9'] := by
    obtain ⟨c, d, rfl⟩ := List.exists_cons_of_ne_nil hne
    simp only [isDigits, Bool.and_eq_true] at hd
    have hc := mem_of_isDigit (List.all_eq_true.mp hd.2 c List.mem_cons_self)
    rcases hs with rfl | rfl
    · rcases hv with rfl | ⟨f, -, rfl⟩
      · exact ⟨c, d, rfl, List.mem_cons_of_mem _ hc⟩
      · exact ⟨c, _, rfl, List.mem_cons_of_mem _ hc⟩
    · rcases hv with rfl | ⟨f, -, rfl⟩
      · exact ⟨'-', _, rfl, List.mem_cons_self⟩
      · exact ⟨'-', _, rfl, List.mem_cons_self⟩
  obtain ⟨c, u, rfl, hc⟩ := hstart
  have hne : ∀ c ∈ ['-', '0', '1', '2', '3', '4', '5', '6', '7', '8', '9'], c ≠ '$' ∧ c ≠ '/' := by
    decide
  exact lexesAs_of_firstRule? (hne c hc).1 (fun h => absurd h (hne c hc).2) hfirst

/-! ### Hexadecimal numbers -/

/-- Whether a character is a digit of a hexadecimal number. -/
def isHexDigit (c : Char) : Bool :=
  isDecimalDigit c || ('a' ≤ plainLetter c && plainLetter c ≤ 'f')

/-- Whether a text is a hexadecimal number that is told apart from the text behind it. -/
def isHexadecimalApart (rest : Text) : Text → Bool
  | '0' :: x :: ds => plainLetter x == plainLetter 'x' && !ds.isEmpty && ds.all isHexDigit &&
    rest.head?.all (!isHexDigit ·)
  | _ => false

/-- A hexadecimal number is one lexeme. -/
theorem lexesAs_hexadecimal {before : Option Char} {v rest : Text}
    (h : isHexadecimalApart rest v) : LexesAs before v rest .number := by
  unfold isHexadecimalApart at h
  split at h
  · next x ds =>
    simp only [Bool.and_eq_true, beq_iff_eq, Bool.not_eq_true', List.isEmpty_eq_false_iff] at h
    obtain ⟨⟨⟨hx, hne⟩, hds⟩, hends⟩ := h
    have hmatch : (all [minus, word "0x", some1 (one isHexDigit)]).match? before
        ('0' :: x :: (ds ++ rest)) = some ('0' :: x :: ds, rest) := by
      refine match?_of_run ?_
      simp only [all]
      rw [run, minus, run_opt_of_none (run_char_eq_none (by simp)), run]
      change (seq (one (plainLetter · == plainLetter '0'))
        (one (plainLetter · == plainLetter 'x'))).run _ _ = _
      rw [run, run_one rfl (by rfl), run_one rfl (by simp [hx])]
      refine run_some1_one rfl hne hds (fun c hc => ?_) ?_
      · simpa [Option.mem_def.mp hc] using hends
      · simp [Cursor.advance_advance]
    have hfirst : firstRule? before ('0' :: x :: (ds ++ rest)) lexicalRules =
        some (⟨.number, '0' :: x :: ds⟩, rest) := by
      have hbefore : firstRule? before ('0' :: x :: (ds ++ rest)) (lexicalRules.take 17) = none :=
        firstRule?_before_numbers (s := []) (d := ['0']) (.inl rfl) rfl
      rw [← List.take_append_drop 17 lexicalRules, firstRule?_append_rules, hbefore, Option.none_or]
      exact firstRule?_of_match? hmatch
    exact lexesAs_of_firstRule? (by decide) (fun hslash => absurd hslash (by decide)) hfirst
  · cases h

end SchemaMill.Sql
