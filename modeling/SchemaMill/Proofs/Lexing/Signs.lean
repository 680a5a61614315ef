import SchemaMill.Proofs.Lexing.Numbers

/-!
# Signs

The signs of table definitions are one lexeme each, if the character that follows does not make them
another one (`lexesAs_sign`).
-/

namespace SchemaMill.Sql

open Pattern

/-- The signs of comparisons, of which several may make one operator. -/
def comparisonSigns : List Char := ['<', '>', '=', '~', '!']

/-- The signs that join to operators. -/
def joiningSigns : List Char := ['+', '/', '@', '#', '%', '^', '&', '|', '-']

/-- The rule for arrows and for the minus sign. -/
def arrows : Pattern :=
  any [seq (literal "->") (opt (char '>')), seq (literal "#>") (opt (char '>')), literal "@>",
    literal "<@", seq (char '?') (opt (char '|')), literal "?&", char '-', literal "#-"]

/-- The kind of lexeme that a sign is, if it is told apart from the text behind it. -/
def signKind? (rest : Text) : Text → Option LexemeKind
  | ['('] | [')'] | [','] | [';'] => some .punctuation
  | ['*'] => some .mark
  | ['.'] => if rest.head?.any isDecimalDigit then none else some .punctuation
  | ['-'] =>
    if rest.head?.any fun c => ['-', '>', '.'].contains c || isDecimalDigit c then none
    else some .operator
  | ['-', '>'] => if rest.head? == some '>' then none else some .operator
  | ['-', '>', '>'] => some .operator
  | [':', ':'] => some .punctuation
  | ['+'] | ['/'] =>
    if rest.head?.any fun c => c == '*' || joiningSigns.contains c then none else some .operator
  | t =>
    if t.isEmpty || !t.all comparisonSigns.contains ||
      rest.head?.any fun c => c == '@' || comparisonSigns.contains c then none
    else some .operator

variable {before : Option Char} {c : Char} {t rest : Text}

theorem lexesAs_punctuation {kind : LexemeKind} {f : Char → Bool}
    (hfilter : (lexicalRules.filter fun rule => rule.1.begins c) = [(one f, kind)]) (hc : c ≠ '$')
    (hslash : c ≠ '/') (hf : f c) : LexesAs before [c] rest kind :=
  lexesAs_of_filter _ hfilter hc (fun h => absurd h hslash) (firstRule?_of_match? (match?_one hf))

/-- A dot in front of no digit begins no number. -/
theorem match?_fraction_dot (h : ∀ c ∈ rest.head?, isDecimalDigit c = false) {tail : Pattern} :
    (all [noName, minus, alt (all [digits, char '.', tail]) (seq (char '.') digits),
      noName]).match? before ('.' :: rest) = none := by
  refine match?_of_run_none (run_eq_none ?_)
  rintro g ⟨_, ⟨rfl, -⟩, e, hm, i, hi, -⟩
  have he : e.rest = '.' :: rest := by
    rcases hm with ⟨_, _, ⟨⟩, hdash, -⟩ | rfl
    · exact absurd hdash (by decide)
    · rfl
  rcases hi with ⟨k, ⟨l, ⟨ch, r, hr, hch, -⟩, -⟩, -⟩ |
    ⟨k, ⟨ch, r, hr, -, rfl⟩, l, ⟨d, s, hs, hd, -⟩, -⟩
  · cases he.symm.trans hr
    exact absurd hch (by decide)
  · cases he.symm.trans hr
    simp only [Cursor.advance_rest] at hs
    simp [h d (by simp [hs])] at hd

theorem lexesAs_dot (h : ∀ c ∈ rest.head?, isDecimalDigit c = false) :
    LexesAs before ['.'] rest .punctuation := by
  have hfilter : (lexicalRules.filter fun rule => rule.1.begins '.') =
      [(all [noName, minus, alt (all [digits, char '.', opt digits]) (seq (char '.') digits),
        noName], .number), (one (";:()[],.".toList.contains ·), .punctuation)] := rfl
  refine lexesAs_of_filter _ hfilter (by decide) (fun h => absurd h (by decide)) ?_
  exact (firstRule?_of_none (match?_fraction_dot h)).trans
    (firstRule?_of_match? (match?_one (by decide)))

theorem match?_arrow_comparison (h : ∀ c ∈ t.head?, c ≠ '@') :
    arrows.match? before ('<' :: t) = none := by
  refine match?_of_run_none (run_eq_none ?_)
  rintro g (⟨_, ⟨_, ⟨_, _, hr, hch, -⟩, -⟩, -⟩ | ⟨_, ⟨_, ⟨_, _, hr, hch, -⟩, -⟩, -⟩ |
    ⟨_, ⟨_, _, hr, hch, -⟩, -⟩ | ⟨_, ⟨_, _, hr, hch, rfl⟩, _, _, hs, hat, -⟩ |
    ⟨_, ⟨_, _, hr, hch, -⟩, -⟩ | ⟨_, ⟨_, _, hr, hch, -⟩, -⟩ | ⟨_, _, hr, hch, -⟩ |
    ⟨_, ⟨_, _, hr, hch, -⟩, -⟩)
  case inr.inr.inr.inl =>
    cases hr
    cases hs
    exact h _ rfl (beq_iff_eq.mp hat)
  all_goals cases hr; exact absurd hch (by decide)

theorem lexesAs_comparison {v : Text} (hne : v ≠ []) (hv : v.all comparisonSigns.contains)
    (hrest : ∀ c ∈ rest.head?, c ≠ '@' ∧ comparisonSigns.contains c = false) :
    LexesAs before v rest .operator := by
  obtain ⟨c, t, rfl⟩ := List.exists_cons_of_ne_nil hne
  have hmatch : (some1 (one ("<>=~!".toList.contains ·))).match? before (c :: (t ++ rest)) =
      some (c :: t, rest) :=
    match?_some1_one (x := c :: t) (by simp) hv fun c hc => (hrest c hc).2
  have hfirst : firstRule? before (c :: (t ++ rest))
      [(some1 (one ("<>=~!".toList.contains ·)), .operator)] =
        some (⟨.operator, c :: t⟩, rest) := firstRule?_of_match? hmatch
  rw [List.all_cons, Bool.and_eq_true, List.contains_iff_mem] at hv
  have hc := hv.1
  simp only [comparisonSigns, List.mem_cons, List.not_mem_nil, or_false] at hc
  rcases hc with rfl | hc
  · have hfilter : (lexicalRules.filter fun rule => rule.1.begins '<') =
        [(arrows, .operator), (some1 (one ("<>=~!".toList.contains ·)), .operator)] := rfl
    refine lexesAs_of_filter _ hfilter (by decide) (fun h => absurd h (by decide)) ?_
    refine (firstRule?_of_none (match?_arrow_comparison fun c hc => ?_)).trans hfirst
    cases t with
    | nil => exact (hrest c hc).1
    | cons d t =>
      cases hc
      rintro rfl
      exact absurd hv.2 (by simp [comparisonSigns])
  · rcases hc with rfl | rfl | rfl | rfl <;>
      exact lexesAs_of_filter _ rfl (by decide) (fun h => absurd h (by decide)) hfirst

theorem lexesAs_joining (hc : c = '+' ∨ c = '/')
    (hrest : ∀ c ∈ rest.head?, c ≠ '*' ∧ joiningSigns.contains c = false) :
    LexesAs before [c] rest .operator := by
  have hfirst : firstRule? before (c :: ([] ++ rest))
      [(some1 (one ("+/@#%^&|-".toList.contains ·)), .operator)] =
        some (⟨.operator, [c]⟩, rest) := by
    refine firstRule?_of_match?
      (match?_some1_one (x := [c]) (by simp) ?_ fun c hc => (hrest c hc).2)
    rcases hc with rfl | rfl <;> rfl
  have hcomment : ([] ++ rest).head? ≠ some '*' := fun h => (hrest '*' h).1 rfl
  rcases hc with rfl | rfl
  · exact lexesAs_of_filter _ rfl (by decide) (fun _ => hcomment) hfirst
  · exact lexesAs_of_filter _ rfl (by decide) (fun _ => hcomment) hfirst

/-- Behind a minus sign stands nothing that a pattern can begin with. -/
theorem not_takes_seq_minus {q : Pattern} {c g : Cursor} (hc : c.rest = '-' :: rest)
    (hempty : q.canBeEmpty = false) (hdash : q.begins '-' = false)
    (hrest : ∀ ch ∈ rest.head?, q.begins ch = false) : ¬ (seq minus q).Takes c g := by
  rintro ⟨e, hm, hq⟩
  rcases hq.empty_or_begins with ⟨-, he⟩ | ⟨ch, r, hr, hb⟩
  · simp [hempty] at he
  · rcases hm with ⟨d, s, hs, -, rfl⟩ | rfl
    · cases hc.symm.trans hs
      have hhead : rest.head? = some ch := congrArg List.head? hr
      simp [hrest ch hhead] at hb
    · cases hc.symm.trans hr
      simp [hdash] at hb

theorem firstRule?_numbers_minus
    (h : ∀ c ∈ rest.head?, c ≠ '.' ∧ isDecimalDigit c = false) :
    firstRule? before ('-' :: rest) ((lexicalRules.drop 17).take 4) = none := by
  have hnone : ∀ {q : Pattern}, q.canBeEmpty = false → q.begins '-' = false →
      (∀ c, c ≠ '.' → isDecimalDigit c = false → q.begins c = false) →
      ∀ {c g}, c.rest = '-' :: rest → ¬ (seq minus q).Takes c g := fun hempty hdash hq _ _ hc =>
    not_takes_seq_minus hc hempty hdash fun c hc => hq c (h c hc).1 (h c hc).2
  have hzero : ∀ c, isDecimalDigit c = false → plainLetter c ≠ plainLetter '0' := by
    rintro c hc hzero
    cases eq_of_plainLetter_eq hzero (by decide)
    exact absurd hc (by decide)
  refine (firstRule?_of_none (match?_of_run_none (run_eq_none fun g => ?_))).trans ?_
  · refine hnone rfl (by decide) (fun c _ hc => ?_) rfl
    simpa [begins, all, canBeEmpty, word] using hzero c hc
  refine (firstRule?_of_none (match?_of_run_none (run_eq_none fun g => ?_))).trans ?_
  · refine hnone rfl (by decide) (fun c _ hc => ?_) rfl
    simpa [begins, all, canBeEmpty, digits, some1] using hc
  refine (firstRule?_of_none (match?_of_run_none (run_eq_none ?_))).trans ?_
  · rintro g ⟨_, ⟨rfl, -⟩, hq⟩
    refine hnone rfl (by decide) (fun c hdot hc => ?_) rfl hq
    simpa [begins, all, canBeEmpty, digits, some1, char, hc] using hdot
  refine (firstRule?_of_none (match?_of_run_none (run_eq_none ?_))).trans rfl
  rintro g ⟨_, ⟨rfl, -⟩, hq⟩
  refine hnone rfl (by decide) (fun c _ hc => ?_) rfl hq
  simpa [begins, all, canBeEmpty, digits, some1] using hc

theorem match?_arrows_minus (h : rest.head? ≠ some '>') :
    arrows.match? before ('-' :: rest) = some (['-'], rest) := by
  have hnone : ∀ {q : Pattern}, q.canBeEmpty = false → q.begins '-' = false →
      q.run ⟨before, [], '-' :: rest⟩ some = none := fun hempty hdash =>
    run_eq_none_of_begins hempty (by rintro _ ⟨⟩; exact hdash)
  have harrow :
      (seq (literal "->") (opt (char '>'))).run ⟨before, [], '-' :: rest⟩ some = none := by
    refine run_eq_none ?_
    rintro g ⟨_, ⟨_, ⟨_, _, hr, -, rfl⟩, ch, r, hs, hch, -⟩, -⟩
    cases hr
    cases hs
    exact h (congrArg some (beq_iff_eq.mp hch))
  refine match?_of_run ?_
  simp only [arrows, any]
  rw [run_alt_of_none harrow, run_alt_of_none (hnone rfl (by decide)),
    run_alt_of_none (hnone rfl (by decide)), run_alt_of_none (hnone rfl (by decide)),
    run_alt_of_none (hnone rfl (by decide)), run_alt_of_none (hnone rfl (by decide))]
  exact run_alt_of_some (run_char rfl)

theorem match?_arrows_arrow {u : Text} (h : u = ['>'] ∧ rest.head? ≠ some '>' ∨ u = ['>', '>']) :
    arrows.match? before ('-' :: (u ++ rest)) = some ('-' :: u, rest) := by
  refine match?_of_run ?_
  simp only [arrows, any]
  refine run_alt_of_some ?_
  rw [run]
  rcases h with ⟨rfl, hrest⟩ | rfl
  · refine (run_pair (r := rest) rfl).trans ?_
    rw [run_opt_of_none (run_char_eq_none hrest)]
    rfl
  · refine (run_pair (r := '>' :: rest) rfl).trans ?_
    exact run_alt_of_some (run_char rfl)

/-- What the rule for arrows finds at a minus sign in front of neither a digit nor a dot is one
lexeme, if it begins no comment. -/
theorem lexesAs_arrows {u : Text}
    (h : ∀ c ∈ (u ++ rest).head?, c ≠ '-' ∧ c ≠ '.' ∧ isDecimalDigit c = false)
    (hmatch : arrows.match? before ('-' :: (u ++ rest)) = some ('-' :: u, rest)) :
    LexesAs before ('-' :: u) rest .operator := by
  have hfilter : (lexicalRules.filter fun rule => rule.1.begins '-') = lexicalRules.take 1 ++
      ((lexicalRules.drop 17).take 4 ++
        ((lexicalRules.drop 46).take 1 ++ (lexicalRules.drop 48).take 1)) := rfl
  refine lexesAs_of_filter _ hfilter (by decide) (fun h => absurd h (by decide)) ?_
  refine (firstRule?_of_none (match?_comment_minus fun hdash => (h '-' hdash).1 rfl)).trans ?_
  change firstRule? before ('-' :: (u ++ rest)) ((lexicalRules.drop 17).take 4 ++ _) = _
  rw [firstRule?_append_rules, firstRule?_numbers_minus fun c hc => (h c hc).2, Option.none_or]
  exact firstRule?_of_match? hmatch

theorem lexesAs_colons : LexesAs before [':', ':'] rest .punctuation := by
  have hfilter : (lexicalRules.filter fun rule => rule.1.begins ':') =
      (literal ":=", .mark) :: (literal "::", .punctuation) ::
        (lexicalRules.filter fun rule => rule.1.begins ':').drop 2 := rfl
  refine lexesAs_of_filter _ hfilter (by decide) (fun h => absurd h (by decide)) ?_
  refine (firstRule?_of_none (match?_of_run_none (run_eq_none ?_))).trans ?_
  · rintro g ⟨_, ⟨_, _, hr, -, rfl⟩, _, _, hs, hch, -⟩
    cases hr
    cases hs
    exact absurd hch (by decide)
  · exact firstRule?_of_match? (match?_of_run (run_pair rfl))

/-- A sign is one lexeme. -/
theorem lexesAs_sign {v : Text} {kind : LexemeKind} (h : signKind? rest v = some kind) :
    LexesAs before v rest kind := by
  unfold signKind? at h
  split at h
  · cases h; exact lexesAs_punctuation rfl (by decide) (by decide) (by decide)
  · cases h; exact lexesAs_punctuation rfl (by decide) (by decide) (by decide)
  · cases h; exact lexesAs_punctuation rfl (by decide) (by decide) (by decide)
  · cases h; exact lexesAs_punctuation rfl (by decide) (by decide) (by decide)
  · cases h; exact lexesAs_punctuation rfl (by decide) (by decide) (by decide)
  · split at h
    · cases h
    · next hdigit =>
      cases h
      exact lexesAs_dot (by simpa [Option.any_eq_false] using hdigit)
  · split at h
    · cases h
    · next hnext =>
      cases h
      have hnext : ∀ c ∈ rest.head?, c ≠ '-' ∧ c ≠ '>' ∧ c ≠ '.' ∧ isDecimalDigit c = false := by
        simpa [Option.any_eq_false, and_assoc] using hnext
      refine lexesAs_arrows (u := []) (fun c hc => ?_) (match?_arrows_minus fun harrow => ?_)
      · exact ⟨(hnext c hc).1, (hnext c hc).2.2⟩
      · exact (hnext _ harrow).2.1 rfl
  · split at h
    · cases h
    · next hrest =>
      cases h
      exact lexesAs_arrows (by rintro _ ⟨⟩; decide)
        (match?_arrows_arrow (.inl ⟨rfl, by simpa using hrest⟩))
  · cases h
    exact lexesAs_arrows (by rintro _ ⟨⟩; decide) (match?_arrows_arrow (.inr rfl))
  · cases h; exact lexesAs_colons
  · split at h
    · cases h
    · next hnext =>
      cases h
      exact lexesAs_joining (.inl rfl) (by simpa [Option.any_eq_false] using hnext)
  · split at h
    · cases h
    · next hnext =>
      cases h
      exact lexesAs_joining (.inr rfl) (by simpa [Option.any_eq_false] using hnext)
  · split at h
    · cases h
    · next hcond =>
      cases h
      simp only [Bool.or_eq_true, not_or] at hcond
      exact lexesAs_comparison (by simpa using hcond.1.1) (by simpa using hcond.1.2)
        (by simpa [Option.any_eq_false] using hcond.2)

end SchemaMill.Sql
