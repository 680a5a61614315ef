import SchemaMill.Proofs.Lexing.Rules
import SchemaMill.Proofs.Lexing.Running

/-!
# Single words

The rules before the one for words find nothing at a word but what they spell there, or the word as
a name (`WholeWord.findsOnly`). At a word that does not begin a phrase they spell the word and
nothing else (`SingleWord.spellsOnly`). So a plain word, which is no operator, is one lexeme, a
keyword or a name (`PlainWord.lexesAs`).
-/

namespace SchemaMill.Sql

open Pattern

/-- Whether the text behind a word may make it the beginning of a phrase. -/
def startsPhrase (a rest : Text) : Bool :=
  rest.head?.any isBlank && phraseStarts.any fun (first, seconds) =>
    plainText a == plainText first.toList && (seconds.isEmpty ||
      seconds.any fun v => plainText (nextWord rest) == plainText v.toList)

/-- Whether a text is a plain word. -/
def isPlainWord (a : Text) : Bool :=
  !a.isEmpty && a.all isWordChar && !a.head?.any isDecimalDigit && !isOperatorWord a

/-- Whether a plain word is told apart from the text behind it. -/
def endsPlainWord (a rest : Text) : Bool :=
  rest.head?.all (!isWordPart ·) && !startsPhrase a rest &&
    !(plainText a == plainText "WITH".toList && rest.head? == some '\'')

/-- Whether a word between `before` and `rest` is taken for a name. -/
def isNamed (before : Option Char) (rest : Text) : Bool :=
  before == some '.' || (rest.dropWhile isBlank).head? == some '.' || rest.head? == some '('

/-- What a rule finds in front of `rest` is the text `v`, as a lexeme of one of some kinds. -/
def FindsOnly (kinds : List LexemeKind) (before : Option Char) (v rest : Text)
    (rule : Pattern × LexemeKind) : Prop :=
  ∀ x s, rule.1.match? before (v ++ rest) = some (x, s) → x = v ∧ s = rest ∧ kinds.contains rule.2

theorem findsOnly_of_eq_none {kinds : List LexemeKind} {before : Option Char} {v rest : Text}
    {p : Pattern} {kind : LexemeKind} (h : p.match? before (v ++ rest) = none) :
    FindsOnly kinds before v rest (p, kind) := by
  intro x s hm
  rw [h] at hm
  cases hm

theorem firstRule?_append_rules (before : Option Char) (t : Text)
    (rules more : List (Pattern × LexemeKind)) : firstRule? before t (rules ++ more) =
      (firstRule? before t rules).or (firstRule? before t more) := by
  induction rules with
  | nil => rfl
  | cons rule rules ih =>
    rw [List.cons_append, firstRule?, firstRule?, ih]
    split <;> rfl

/-- If rules find only `v` in front of `rest`, then so does the first that finds anything. -/
theorem firstRule?_of_findsOnly {kinds : List LexemeKind} {before : Option Char} {v rest : Text}
    {rules : List (Pattern × LexemeKind)} (h : ∀ rule ∈ rules, FindsOnly kinds before v rest rule) :
    firstRule? before (v ++ rest) rules = none ∧
        (∀ rule ∈ rules, rule.1.match? before (v ++ rest) = none) ∨
      ∃ kind, kinds.contains kind ∧
        firstRule? before (v ++ rest) rules = some (⟨kind, v⟩, rest) := by
  induction rules with
  | nil => exact .inl ⟨rfl, by simp⟩
  | cons rule rules ih =>
    obtain ⟨p, kind⟩ := rule
    cases hm : p.match? before (v ++ rest) with
    | some found =>
      obtain ⟨x, s⟩ := found
      obtain ⟨rfl, rfl, hkind⟩ := h _ List.mem_cons_self x s hm
      exact .inr ⟨kind, hkind, by simp only [firstRule?, hm]⟩
    | none =>
      rw [firstRule?, hm]
      rcases ih fun rule hrule => h rule (List.mem_cons_of_mem _ hrule) with ⟨hnone, hall⟩ | found
      · exact .inl ⟨hnone, List.forall_mem_cons.mpr ⟨hm, hall⟩⟩
      · exact .inr found

/-! ### The beginning of a word -/

/-- A word in front of a text with which it does not go on. -/
structure WholeWord (a rest : Text) : Prop where
  ne_nil : a ≠ []
  all_word : a.all isWordChar
  noDigit : ∀ c ∈ a.head?, isDecimalDigit c = false
  ends : EndsWord rest
  /-- The word does not begin the choice of a time zone. -/
  noZone : plainText a = plainText "WITH".toList → rest.head? ≠ some '\''

namespace WholeWord

variable {a rest x s : Text} {before : Option Char} {p q : Pattern}

theorem exists_cons (h : WholeWord a rest) : ∃ c t, a = c :: t ∧ WordStart c := by
  obtain ⟨c, t, rfl⟩ := List.exists_cons_of_ne_nil h.ne_nil
  exact ⟨c, t, rfl, List.all_eq_true.mp h.all_word c List.mem_cons_self, h.noDigit c rfl⟩

theorem match?_signs (h : WholeWord a rest) (hempty : p.canBeEmpty = false)
    (hbegins : ∀ c, WordStart c → p.begins c = false) : p.match? before (a ++ rest) = none := by
  obtain ⟨c, t, rfl, hc⟩ := h.exists_cons
  exact match?_eq_none hempty (hbegins c hc)

/-- A name in front of something that is no word is the whole word. -/
theorem match?_ahead (h : WholeWord a rest) (hq : ∀ c d, q.Takes c d → EndsWord c.rest)
    (hm : (seq plainName (ahead q)).match? before (a ++ rest) = some (x, s)) :
    x = a ∧ s = rest ∧ ∃ c d, q.Takes c d ∧ c.rest = rest := by
  obtain ⟨hx, e, ⟨f, ⟨ch, r, hr, hch, rfl⟩, hname⟩, rfl, g, hg⟩ := match?_takes hm
  have hs : EndsWord s := hq _ _ hg
  obtain ⟨y, hy, _⟩ := Takes.eq_advance (p := many (one isWordChar)) hname
  have hyword := takes_many_one hname hy
  simp only [Cursor.advance_rest] at hy hr
  have hxy : x = ch :: y := by
    rw [hr, hy, ← List.cons_append] at hx
    exact (List.append_cancel_right hx).symm
  have hword : x.all isWordChar := by
    obtain ⟨c, t, rfl, hc⟩ := h.exists_cons
    rw [List.cons_append, List.cons.injEq] at hr
    rw [hxy, List.all_cons, hyword, ← hr.1, hc.isWordChar]
    rfl
  obtain ⟨rfl, rfl⟩ := eq_of_append_eq_append_of_endsWord h.all_word hword h.ends hs hx
  exact ⟨rfl, rfl, _, _, hg, rfl⟩

/-- The choice of a time zone at a word begins with the word `AT`. -/
theorem takes_zone (h : WholeWord a rest) {c d : Cursor} (hc : c.rest = a ++ rest)
    (ht : (seq (oneOf ["AT", "WITH'"]) q).Takes c d) : (seq (word "AT") q).Takes c d := by
  obtain ⟨e, he | he, hd⟩ := ht
  · exact ⟨e, he, hd⟩
  · exfalso
    obtain ⟨y, hy, -⟩ := he.eq_advance
    have hletters := letters_word _ _ _ _ he hy
    obtain ⟨z, q', rfl⟩ := List.eq_nil_or_concat y |>.resolve_left (by rintro rfl; cases hletters)
    have hsplit : plainText "WITH'".toList = plainText "WITH".toList ++ ['\''] := by decide
    rw [List.concat_eq_append, plainText_append, hsplit] at hletters
    obtain ⟨hz, hq'⟩ := List.append_inj' hletters rfl
    have hquote : q' = '\'' := eq_of_plainLetter_eq (by simpa [plainText] using hq') (by decide)
    subst hquote
    obtain ⟨rfl, rfl⟩ := eq_of_append_eq_append_of_endsWord (b := z) (s := '\'' :: e.rest)
      h.all_word (all_isWordChar_of_plainText_eq hz (by decide)) h.ends
      (by rintro c ⟨⟩; decide) (by simpa [hc] using hy)
    exact h.noZone hz rfl

end WholeWord

theorem endsWord_of_begins {q : Pattern} (hempty : q.canBeEmpty = false)
    (hbegins : ∀ c, q.begins c → isWordChar c = false) {c d : Cursor} (h : q.Takes c d) :
    EndsWord c.rest := by
  rcases h.empty_or_begins with ⟨_, he⟩ | ⟨ch, t, ht, hch⟩
  · simp [hempty] at he
  · intro ch' hch'
    rw [ht, Option.mem_def, List.head?_cons, Option.some.injEq] at hch'
    exact hch' ▸ hbegins ch hch

theorem endsWord_of_dotted {q : Pattern} {c d : Cursor}
    (h : (seq (many blank) (seq (char '.') q)).Takes c d) : EndsWord c.rest := by
  refine endsWord_of_begins (by rfl) (fun c hc => ?_) h
  have hc : isBlank c = true ∨ c = '.' := by
    simpa [begins, blank, char, canBeEmpty] using hc
  rcases hc with hc | rfl
  · exact isWordChar_eq_false_of_isBlank hc
  · decide

theorem endsWord_of_called {c d : Cursor} (h : (char '(').Takes c d) : EndsWord c.rest := by
  refine endsWord_of_begins (by rfl) (fun c hc => ?_) h
  cases (by simpa [begins, char] using hc : c = '(')
  decide

/-! ### What early rules find at a word -/

/-- A phrase of an early rule that is spelled in front of `rest` is the text `v`, as a lexeme of one
of some kinds. -/
def SpellsOnly (kinds : List LexemeKind) (v rest : Text) : Prop :=
  ∀ (kind : LexemeKind) (phrase : List PhraseItem) (x s : Text), isPhrase kind phrase →
    Spells phrase x → v ++ rest = x ++ s → (.other ∉ phrase → EndsWord s) →
      x = v ∧ kinds.contains kind

theorem SpellsOnly.of_takes {kinds : List LexemeKind} {kind : LexemeKind} {v rest x : Text}
    (h : SpellsOnly kinds v rest) {p : Pattern} {phrases : List (List PhraseItem)}
    (hp : Phrases p phrases) (hs : Stops p) (hphrases : phrases.all (isPhrase kind))
    {c d : Cursor} (hc : c.rest = v ++ rest) (hx : c.rest = x ++ d.rest) (ht : p.Takes c d) :
    x = v ∧ kinds.contains kind := by
  obtain ⟨phrase, hmem, hspells⟩ := hp c d x ht hx
  have hphrase := List.all_eq_true.mp hphrases phrase hmem
  refine h kind phrase x d.rest hphrase hspells (hc.symm.trans hx) fun hother => ?_
  simp only [isPhrase, Bool.and_eq_true] at hphrase
  obtain ⟨y, hsuffix, hne, hword⟩ := hspells.suffix_word hphrase.1.1.1 hother
  exact hs.endsWord ht hx hword hne hsuffix

namespace WholeWord

variable {a u v rest : Text} {before : Option Char} {kinds : List LexemeKind}

theorem plainName_run (h : WholeWord a u) (c : Cursor) (hc : c.rest = a ++ u) :
    plainName.run c some = none ∨ plainName.run c some = some (c.advance a u) := by
  obtain ⟨ch, t, rfl⟩ := List.exists_cons_of_ne_nil h.ne_nil
  have hword := h.all_word
  simp only [List.all_cons, Bool.and_eq_true] at hword
  rw [plainName, run]
  by_cases hch : isNameStart ch
  · refine .inr ?_
    rw [run_one (r := t ++ u) hc hch]
    exact run_many_one rfl hword.2 h.ends (by rw [Cursor.advance_advance]; rfl)
  · refine .inl (run_one_eq_none ?_)
    rw [hc]
    rintro c' ⟨⟩
    simpa using hch

section Names

variable {x s : Text}

/-- What a rule for names finds at a word is the word, and it is taken for a name. -/
theorem match?_dotted (h : WholeWord a u) {q : Pattern}
    (hm : (seq plainName (ahead (seq (many blank) (seq (char '.') q)))).match? before (a ++ u) =
      some (x, s)) : isNamed before u ∧ x = a ∧ s = u := by
  obtain ⟨rfl, rfl, c, d, ⟨e, hblanks, f, ⟨ch, r, hr, hch, -⟩, -⟩, hc⟩ :=
    h.match?_ahead (fun _ _ => endsWord_of_dotted) hm
  refine ⟨?_, rfl, rfl⟩
  obtain ⟨y, hy, -⟩ := Takes.eq_advance (p := many blank) hblanks
  have hyblank := takes_many_one hblanks hy
  have hdot : (s.dropWhile isBlank).head? = some '.' := by
    rw [← hc, hy, List.dropWhile_append_of_pos (List.all_eq_true.mp hyblank), hr]
    cases (by simpa using hch : ch = '.')
    rfl
  simp [isNamed, hdot]

theorem match?_called (h : WholeWord a u)
    (hm : (seq plainName (ahead (char '('))).match? before (a ++ u) = some (x, s)) :
    isNamed before u ∧ x = a ∧ s = u := by
  obtain ⟨rfl, rfl, c, d, ⟨ch, r, hr, hch, -⟩, hc⟩ :=
    h.match?_ahead (fun _ _ => endsWord_of_called) hm
  refine ⟨?_, rfl, rfl⟩
  cases (by simpa using hch : ch = '(')
  simp [isNamed, ← hc, hr]

theorem match?_member (h : WholeWord a u)
    (hm : (seq (after (· == '.')) plainName).match? before (a ++ u) = some (x, s)) :
    isNamed before u ∧ x = a ∧ s = u := by
  obtain ⟨d, hd, hx⟩ := Option.map_eq_some_iff.mp hm
  rw [run, run] at hd
  split at hd
  · next hbefore =>
    have hdot : before = some '.' := by
      cases before with
      | none => cases hbefore
      | some c => exact congrArg some (by simpa [Cursor.previous] using hbefore)
    rcases h.plainName_run ⟨before, [], a ++ u⟩ rfl with hrun | hrun
    · rw [hrun] at hd; cases hd
    · rw [hrun, Option.some.injEq] at hd
      subst hd
      cases hx
      exact ⟨by simp [isNamed, hdot], by simp [Cursor.advance], by simp [Cursor.advance]⟩
  · cases hd

end Names

/-- Early rules find nothing but `v` at a word with which `v` begins, if they spell nothing else
there and the word is not taken for a name, unless it is all of `v`. -/
theorem findsOnly (h : WholeWord a u) (htext : v ++ rest = a ++ u)
    (hspells : SpellsOnly kinds v rest)
    (hname : isNamed before u → v = a ∧ kinds.contains .name) :
    ∀ rule ∈ earlyRules, FindsOnly kinds before v rest rule := by
  have hnamed {x s : Text} (hm : isNamed before u ∧ x = a ∧ s = u) :
      x = v ∧ s = rest ∧ kinds.contains .name := by
    obtain ⟨hu, rfl, rfl⟩ := hm
    obtain ⟨rfl, hkind⟩ := hname hu
    exact ⟨rfl, (List.append_cancel_left htext).symm, hkind⟩
  intro rule hrule
  cases ruleShape_earlyRules rule hrule with
  | signs hempty hbegins => exact findsOnly_of_eq_none (htext ▸ h.match?_signs hempty hbegins)
  | phrases hp hs hphrases =>
    intro x s hm
    obtain ⟨hx, ht⟩ := match?_takes hm
    obtain ⟨rfl, hkind⟩ := hspells.of_takes hp hs hphrases rfl hx ht
    exact ⟨rfl, (List.append_cancel_left hx).symm, hkind⟩
  | zone hq =>
    intro x s hm
    obtain ⟨hx, ht⟩ := match?_takes hm
    obtain ⟨phrases, hp, hs, hphrases⟩ := phrases_zone hq
    obtain ⟨rfl, hkind⟩ := hspells.of_takes hp hs hphrases rfl hx (h.takes_zone htext ht)
    exact ⟨rfl, (List.append_cancel_left hx).symm, hkind⟩
  | dotted => exact fun x s hm => hnamed (h.match?_dotted (htext ▸ hm))
  | called => exact fun x s hm => hnamed (h.match?_called (htext ▸ hm))
  | member => exact fun x s hm => hnamed (h.match?_member (htext ▸ hm))

end WholeWord

/-! ### Words that begin no phrase -/

/-- A word that does not begin a phrase. -/
structure SingleWord (a rest : Text) : Prop extends WholeWord a rest where
  noPhrase : startsPhrase a rest = false

theorem wordKinds_congr {a b : Text} (h : plainText a = plainText b) :
    wordKinds a = wordKinds b := by
  have hoperator : isOperatorWord a = isOperatorWord b := by simp only [isOperatorWord, h]
  rw [wordKinds, wordKinds, hoperator]

theorem startsPhrase_append {a : Text} {w : String} {seconds : List String} {g z : Text}
    (hw : (w, seconds) ∈ phraseStarts) (ha : plainText a = plainText w.toList) (hne : g ≠ [])
    (hg : g.all isBlank) (hz : seconds ≠ [] → ∃ v ∈ seconds, plainText (nextWord (g ++ z)) =
      plainText v.toList) : startsPhrase a (g ++ z) := by
  have hhead : (g ++ z).head?.any isBlank := by
    obtain ⟨b, g, rfl⟩ := List.exists_cons_of_ne_nil hne
    simpa using List.all_eq_true.mp hg b List.mem_cons_self
  rw [startsPhrase, hhead, Bool.true_and, List.any_eq_true]
  refine ⟨_, hw, ?_⟩
  simp only [ha, beq_self_eq_true, Bool.true_and, Bool.or_eq_true, List.isEmpty_iff,
    List.any_eq_true, beq_iff_eq]
  exact Decidable.or_iff_not_imp_left.mpr hz

namespace SingleWord

variable {a rest : Text} {before : Option Char}

/-- A phrase that is spelled at the word is the word. -/
theorem spellsOnly (h : SingleWord a rest) : SpellsOnly (wordKinds a) a rest := by
  intro kind phrase x s hphrase hx heq hs
  have hfirst : ∀ {y z : Text}, y.all isWordChar → EndsWord z → a ++ rest = y ++ z →
      y = a ∧ z = rest := fun hy hz h' =>
    eq_of_append_eq_append_of_endsWord hy h.all_word hz h.ends h'.symm
  simp only [isPhrase, Bool.and_eq_true] at hphrase
  obtain ⟨⟨⟨halternates, hlisted⟩, hnames⟩, -⟩ := hphrase
  unfold alternates at halternates
  split at halternates
  · next w =>
    obtain ⟨y, _, rfl, hy, hyword, hends, rfl⟩ :=
      hx.first_word s halternates rfl fun _ => hs (by simp)
    rw [List.append_nil] at heq ⊢
    obtain ⟨rfl, -⟩ := hfirst hyword hends heq
    exact ⟨rfl, wordKinds_congr hy ▸ hnames⟩
  · next w =>
    exfalso
    obtain ⟨y, z, rfl, hy, hyword, hends, g, t, rfl, ⟨hgne, hg⟩, -⟩ :=
      hx.first_word s halternates rfl (by simp)
    rw [List.append_assoc] at heq
    obtain ⟨rfl, rfl⟩ := hfirst hyword hends heq
    have := startsPhrase_append (z := t ++ s) (List.contains_iff_mem.mp hlisted) hy hgne hg
      fun h => absurd rfl h
    simp [← List.append_assoc, h.noPhrase] at this
  · next w v more =>
    -- the text goes on with a second word, so the word begins a phrase
    exfalso
    rw [Bool.and_eq_true] at halternates
    obtain ⟨hw, hmore⟩ := halternates
    obtain ⟨y, z, rfl, hy, hyword, hends, g, t, rfl, ⟨hgne, hg⟩, ht⟩ :=
      hx.first_word s hw rfl (by simp)
    rw [List.append_assoc] at heq
    obtain ⟨rfl, rfl⟩ := hfirst hyword hends heq
    obtain ⟨hv, hhead⟩ := alternates_word hmore
    obtain ⟨u, r, rfl, hu, huword, huends, -⟩ :=
      ht.first_word s hv hhead (by rintro rfl; exact hs (by simp))
    obtain ⟨⟨first, seconds⟩, hmem, hseconds⟩ := List.any_eq_true.mp hlisted
    simp only [Bool.and_eq_true, beq_iff_eq, List.contains_iff_mem] at hseconds
    obtain ⟨rfl, hseconds⟩ := hseconds
    have hune : u ≠ [] := ne_nil_of_reads hv hu
    have := startsPhrase_append (z := u ++ (r ++ s)) hmem hy hgne hg fun _ =>
      ⟨v, hseconds, by rw [nextWord_append hg huword hune huends]; exact hu⟩
    rw [← List.append_assoc u, ← List.append_assoc g, h.noPhrase] at this
    cases this
  · cases halternates

/-- Whatever an early rule finds at the word is the word. -/
theorem findsOnly (h : SingleWord a rest)
    (hname : isNamed before rest → (wordKinds a).contains .name) :
    ∀ rule ∈ earlyRules, FindsOnly (wordKinds a) before a rest rule :=
  h.toWholeWord.findsOnly rfl h.spellsOnly fun hnamed => ⟨rfl, hname hnamed⟩

end SingleWord

/-! ### Plain words -/

/-- A plain word in front of a text from which it is told apart. -/
structure PlainWord (a rest : Text) : Prop extends SingleWord a rest where
  noOperator : isOperatorWord a = false
  /-- The word does not go on with a sign that may be part of a name. -/
  noPart : ∀ c ∈ rest.head?, isWordPart c = false

theorem endsWord_of_noPart {rest : Text} (h : ∀ c ∈ rest.head?, isWordPart c = false) :
    EndsWord rest := fun c hc => by
  have := h c hc
  rw [isWordPart, Bool.or_eq_false_iff] at this
  exact this.2

theorem plainWord_iff {a rest : Text} :
    PlainWord a rest ↔ isPlainWord a ∧ endsPlainWord a rest := by
  simp only [isPlainWord, endsPlainWord, Bool.and_eq_true, Bool.not_eq_true', Option.all_eq_true,
    List.isEmpty_eq_false_iff, Option.any_eq_false, beq_iff_eq, Bool.and_eq_false_imp,
    beq_eq_false_iff_ne]
  constructor
  · rintro ⟨⟨⟨hne, hword, hdigit, -, hzone⟩, hphrase⟩, hoperator, hpart⟩
    exact ⟨⟨⟨⟨hne, hword⟩, by simpa using hdigit⟩, hoperator⟩, ⟨by simpa using hpart, hphrase⟩,
      hzone⟩
  · rintro ⟨⟨⟨⟨hne, hword⟩, hdigit⟩, hoperator⟩, ⟨hpart, hphrase⟩, hzone⟩
    exact ⟨⟨⟨hne, hword, by simpa using hdigit, endsWord_of_noPart (by simpa using hpart), hzone⟩,
      hphrase⟩, hoperator, by simpa using hpart⟩

namespace PlainWord

variable {a rest : Text}

theorem match?_word (h : PlainWord a rest) (before : Option Char) :
    (seq (one isWordChar) (many (one isWordPart))).match? before (a ++ rest) = some (a, rest) := by
  obtain ⟨c, t, rfl⟩ := List.exists_cons_of_ne_nil h.ne_nil
  have hword := h.all_word
  simp only [List.all_cons, Bool.and_eq_true] at hword
  refine match?_of_run ?_
  rw [run, run_one (r := t ++ rest) rfl hword.1]
  refine run_many_one rfl ?_ h.noPart (by rw [Cursor.advance_advance]; rfl)
  exact List.all_eq_true.mpr fun c hc => by simp [isWordPart, List.all_eq_true.mp hword.2 c hc]

/-- A plain word is one lexeme, a keyword or a name. -/
theorem lexesAs (h : PlainWord a rest) (before : Option Char) :
    ∃ kind, [.keyword, .name].contains kind ∧ LexesAs before a rest kind := by
  have hkinds : wordKinds a = [.keyword, .name] := by simp [wordKinds, h.noOperator]
  have hfinds : ∀ rule ∈ earlyRules, FindsOnly [.keyword, .name] before a rest rule :=
    hkinds ▸ h.findsOnly fun _ => by rw [hkinds]; rfl
  obtain ⟨kind, hkind, hfirst⟩ : ∃ kind, [.keyword, .name].contains kind ∧
      firstRule? before (a ++ rest) lexicalRules = some (⟨kind, a⟩, rest) := by
    rw [lexicalRules_eq, firstRule?_append_rules]
    rcases firstRule?_of_findsOnly hfinds with ⟨hnone, -⟩ | ⟨kind, hkind, hfound⟩
    · exact ⟨.name, rfl, by rw [hnone, Option.none_or, firstRule?, h.match?_word]⟩
    · exact ⟨kind, hkind, by rw [hfound, Option.some_or]⟩
  obtain ⟨c, t, rfl, hc⟩ := h.exists_cons
  refine ⟨kind, hkind, lexesAs_of_firstRule? (hc.ne_of_sign (by decide)) ?_ hfirst⟩
  exact fun hslash => absurd hslash (hc.ne_of_sign (by decide))

end PlainWord

end SchemaMill.Sql
