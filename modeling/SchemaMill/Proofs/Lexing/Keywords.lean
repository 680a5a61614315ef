import SchemaMill.Proofs.Lexing.Words

/-!
# Keywords of several words, and `LIKE`

The keywords of several words that stand in table definitions are one lexeme each, if they do not
follow a dot and end where the text behind them begins (`PhraseText.lexesAs`). As for plain words,
an early rule finds nothing else there (`PhraseText.findsOnly`), and one of them finds it. The
operator `LIKE` is one lexeme where it is not taken for a name (`LikeText.lexesAs`).
-/

namespace SchemaMill.Sql

open Pattern

/-- Whether a text is a keyword of several words with single spaces. -/
def isPhraseText (v : Text) : Bool :=
  keywordPhrases.any fun ws => plainText v == plainText (joinWith " " (ws.map String.toList))

/-- A keyword of several words in front of a text. -/
structure PhraseText (ws : List String) (v rest : Text) : Prop where
  /-- The keyword is one of those in table definitions. -/
  mem : ws ∈ keywordPhrases
  spells : Spells (phraseOf ws) v
  ends : EndsWord rest

/-- A text that counts as several words with single spaces is made of words that count as them. -/
theorem exists_words {ws : List String} {v : Text}
    (h : plainText v = plainText (joinWith " " (ws.map String.toList))) :
    ∃ vs, v = joinWith " " vs ∧ vs.map plainText = ws.map fun w => plainText w.toList := by
  induction ws generalizing v with
  | nil => exact ⟨[], plainText_eq_nil_iff.mp h, rfl⟩
  | cons w ws ih =>
    cases ws with
    | nil => exact ⟨[v], rfl, by rw [List.map_singleton, h]; rfl⟩
    | cons u ws =>
      have hjoin : joinWith " " ((w :: u :: ws).map String.toList) =
          w.toList ++ (' ' :: joinWith " " ((u :: ws).map String.toList)) := by simp [joinWith]
      rw [hjoin, plainText_append] at h
      obtain ⟨y, z, rfl, hy, hz⟩ := List.map_eq_append_iff.mp h
      obtain ⟨b, t, rfl, hb, ht⟩ := List.map_eq_cons_iff.mp hz
      cases eq_of_plainLetter_eq hb (by decide)
      obtain ⟨vs, rfl, hvs⟩ := ih ht
      refine ⟨y :: vs, ?_, by rw [List.map_cons, List.map_cons, ← hvs, ← hy]; rfl⟩
      obtain ⟨v, vs, rfl⟩ := List.exists_cons_of_ne_nil (l := vs) (by rintro rfl; cases hvs)
      simp [joinWith, show plainLetter ' ' = ' ' from rfl]

theorem spells_phraseOf {ws : List String} (hne : ws ≠ []) {vs : List Text}
    (h : vs.map plainText = ws.map fun w => plainText w.toList) :
    Spells (phraseOf ws) (joinWith " " vs) := by
  induction ws generalizing vs with
  | nil => exact absurd rfl hne
  | cons w ws ih =>
    obtain ⟨v, vs, rfl, hv, hvs⟩ := List.map_eq_cons_iff.mp h
    cases ws with
    | nil =>
      cases List.map_eq_nil_iff.mp hvs
      exact spells_singleton hv
    | cons u ws =>
      obtain ⟨v', vs', rfl⟩ := List.exists_cons_of_ne_nil (l := vs) (by rintro rfl; cases hvs)
      refine ⟨v, ' ' :: joinWith " " (v' :: vs'), by simp [joinWith], hv, [' '], _, rfl,
        ⟨by simp, by decide⟩, ih (by simp) hvs⟩

theorem phraseText_of_isPhraseText {v rest : Text} (hv : isPhraseText v) (hrest : EndsWord rest) :
    ∃ ws, PhraseText ws v rest := by
  obtain ⟨ws, hmem, heq⟩ := List.any_eq_true.mp hv
  have hne : ∀ ws ∈ keywordPhrases, ws ≠ [] := by decide
  obtain ⟨vs, rfl, hvs⟩ := exists_words (by simpa using heq)
  exact ⟨ws, hmem, spells_phraseOf (hne ws hmem) hvs, hrest⟩

theorem collapseBlanks_of_isPhraseText {v : Text} (hv : isPhraseText v) :
    collapseBlanks v = v := by
  obtain ⟨ws, hmem, heq⟩ := List.any_eq_true.mp hv
  have hwords : ∀ ws ∈ keywordPhrases, ∀ w ∈ ws, isPhraseWord w := by decide
  obtain ⟨vs, rfl, hvs⟩ := exists_words (by simpa using heq)
  refine collapseBlanks_joinWith fun v hv => ?_
  obtain ⟨w, hw, hread⟩ := List.mem_map.mp (hvs ▸ List.mem_map_of_mem (f := plainText) hv)
  have hw := hwords ws hmem w hw
  refine ⟨ne_nil_of_reads hw hread.symm, fun c hc => isBlank_eq_false_of_isWordChar ?_⟩
  exact List.all_eq_true.mp (all_isWordChar_of_reads hw hread.symm) c hc

/-- The words of the listed keywords: at least two, none a digit, the first no choice of a time
zone. -/
theorem keywordPhrases_words : ∀ ws ∈ keywordPhrases, ∃ w u us, ws = w :: u :: us ∧
    (∀ w ∈ ws, isPhraseWord w) ∧ (∀ c ∈ (plainText w.toList).head?, isDecimalDigit c = false) ∧
      plainText w.toList ≠ plainText "WITH".toList := by
  simp only [keywordPhrases, List.forall_mem_cons]
  refine ⟨⟨_, _, _, rfl, ?_⟩, ⟨_, _, _, rfl, ?_⟩, ⟨_, _, _, rfl, ?_⟩, ⟨_, _, _, rfl, ?_⟩,
    ⟨_, _, _, rfl, ?_⟩, ⟨_, _, _, rfl, ?_⟩, ⟨_, _, _, rfl, ?_⟩,
    fun _ h => absurd h List.not_mem_nil⟩
  all_goals decide

namespace PhraseText

variable {ws : List String} {v rest : Text}

/-- The keyword is its first word and, behind a gap, a further word. -/
theorem first_word (h : PhraseText ws v rest) : ∃ a g c t, v = a ++ (g ++ c :: t) ∧ g ≠ [] ∧
    g.all isBlank ∧ isWordChar c ∧ WholeWord a (g ++ c :: t ++ rest) := by
  obtain ⟨w, u, us, rfl, hwords, hdigit, hzone⟩ := keywordPhrases_words ws h.mem
  have hspells := h.spells
  rw [phraseOf_cons] at hspells
  obtain ⟨a, z, rfl, ha, haword, hends, g, t, rfl, ⟨hgne, hg⟩, ht⟩ :=
    hspells.first_word rest (hwords w (by simp)) rfl (by simp)
  obtain ⟨u', us', more, hu', hmore, -⟩ := exists_phraseOf (List.cons_ne_nil u us)
  cases hu'
  obtain ⟨c, t, rfl, hc⟩ := Spells.exists_cons (hwords u (by simp)) (hmore ▸ ht)
  refine ⟨a, g, c, t, rfl, hgne, hg, hc, ne_nil_of_reads (hwords w (by simp)) ha, haword, ?_, hends,
    fun h => absurd (ha.symm.trans h) hzone⟩
  intro c' hc'
  rw [← isDecimalDigit_plainLetter]
  refine hdigit _ ?_
  rw [← ha, plainText, List.head?_map, Option.mem_def.mp hc']
  rfl

/-- A phrase that is spelled at the keyword is the keyword. -/
theorem spellsOnly (h : PhraseText ws v rest) : SpellsOnly [.keyword, .name] v rest := by
  intro kind phrase x s hphrase hx heq hs
  obtain ⟨w, u, us, hws, hwords, -⟩ := keywordPhrases_words ws h.mem
  simp only [isPhrase, Bool.and_eq_true] at hphrase
  obtain ⟨⟨⟨halternates, -⟩, -⟩, hsettles⟩ := hphrase
  obtain ⟨hoverlap, hsame⟩ :=
    overlap_of_spells halternates hwords (by simp [hws]) h.spells hx heq h.ends hs
  have hsettles := List.all_eq_true.mp hsettles ws h.mem
  simp only [settles, hoverlap, Bool.not_true, Bool.false_or, Bool.and_eq_true, beq_iff_eq,
    Bool.not_eq_true'] at hsettles
  exact ⟨hsame hsettles.1.1 (by simpa using hsettles.1.2), hsettles.2⟩

/-- Whatever an early rule finds at the keyword is the keyword, if it does not follow a dot. -/
theorem findsOnly (h : PhraseText ws v rest) {before : Option Char} (hbefore : before ≠ some '.') :
    ∀ rule ∈ earlyRules, FindsOnly [.keyword, .name] before v rest rule := by
  obtain ⟨a, g, c, t, hv, hgne, hg, hc, hfirst⟩ := h.first_word
  refine hfirst.findsOnly (by simp [hv]) h.spellsOnly fun hnamed => ?_
  -- behind the first word stand blanks, and behind them no dot
  exfalso
  have hdrop : ((g ++ c :: t ++ rest).dropWhile isBlank).head? = some c := by
    rw [List.append_assoc, List.dropWhile_append_of_pos (List.all_eq_true.mp hg), List.cons_append,
      List.dropWhile_cons_of_neg (by simp [isBlank_eq_false_of_isWordChar hc])]
    rfl
  have hhead : (g ++ c :: t ++ rest).head? ≠ some '(' := by
    obtain ⟨b, g, rfl⟩ := List.exists_cons_of_ne_nil hgne
    rintro ⟨⟩
    exact absurd (List.all_eq_true.mp hg '(' List.mem_cons_self) (by decide)
  simp only [isNamed, hdrop, Bool.or_eq_true, beq_iff_eq, Option.some.injEq, hbefore, false_or,
    hhead, or_false] at hnamed
  cases hnamed
  exact absurd hc (by decide)

end PhraseText

/-! ### Finding a phrase -/

namespace Pattern

variable {c found : Cursor} {next : Cursor → Option Cursor} {x r v : Text}

theorem run_word {w : String} (hc : c.rest = x ++ r) (hx : plainText x = plainText w.toList) :
    (word w).run c next = next (c.advance x r) := by
  rw [word]
  generalize w.toList = ls at hx ⊢
  induction ls generalizing c x with
  | nil =>
    cases plainText_eq_nil_iff.mp hx
    rw [← Cursor.advance_nil c, hc]
    rfl
  | cons l ls ih =>
    obtain ⟨ch, y, rfl, hch, hls⟩ := List.map_eq_cons_iff.mp hx
    have hletter : (plainLetter ch == plainLetter l) = true := by simp [hch]
    cases ls with
    | nil =>
      cases plainText_eq_nil_iff.mp hls
      exact run_one (p := fun c => plainLetter c == plainLetter l) hc hletter
    | cons l' ls =>
      have hrest := ih (c := c.advance [ch] (y ++ r)) rfl hls
      rw [Cursor.advance_advance] at hrest
      rw [List.map_cons, List.map_cons, all, run, run_one (r := y ++ r) hc hletter]
      · exact hrest
      · simp

theorem run_blanks (hc : c.rest = x ++ r) (hne : x ≠ []) (hx : x.all isBlank)
    (hr : ∀ ch ∈ r.head?, isBlank ch = false) (hnext : next (c.advance x r) = some found) :
    blanks.run c next = some found :=
  run_some1_one hc hne hx hr hnext

theorem head?_isBlank_of_spells {w : String} {more : List PhraseItem} (hw : isPhraseWord w)
    (h : Spells (.word w :: more) v) : ∀ ch ∈ (v ++ r).head?, isBlank ch = false := by
  obtain ⟨c, t, rfl, hc⟩ := Spells.exists_cons hw h
  rintro _ ⟨⟩
  exact isBlank_eq_false_of_isWordChar hc

theorem run_phrase {ws : List String} (hne : ws ≠ []) (hws : ∀ w ∈ ws, isPhraseWord w)
    (hv : Spells (phraseOf ws) v) (hc : c.rest = v ++ r)
    (hnext : next (c.advance v r) = some found) : (phrase ws).run c next = some found := by
  induction ws generalizing c v with
  | nil => exact absurd rfl hne
  | cons w ws ih =>
    cases ws with
    | nil =>
      obtain ⟨y, _, rfl, hy, rfl⟩ := hv
      rw [List.append_nil] at hc hnext
      exact (run_word hc hy).trans hnext
    | cons u ws =>
      rw [phraseOf_cons] at hv
      obtain ⟨y, _, rfl, hy, g, z, rfl, ⟨hgne, hg⟩, hz⟩ := hv
      rw [phrase_cons, run, run_word (r := g ++ (z ++ r)) (by simpa using hc) hy, run]
      obtain ⟨u', us', more, hu', hmore, -⟩ := exists_phraseOf (List.cons_ne_nil u ws)
      cases hu'
      refine run_blanks rfl hgne hg (head?_isBlank_of_spells (hws u (by simp)) (hmore ▸ hz)) ?_
      refine ih (by simp) (fun w hw => hws w (List.mem_cons_of_mem _ hw)) hz rfl ?_
      simpa only [Cursor.advance_advance, List.append_assoc] using hnext

theorem run_wordEdge (hne : x ≠ []) (hx : x.all isWordChar) (hsuffix : x <:+ v) (hr : EndsWord r) :
    wordEdge.run (c.advance v r) some = some (c.advance v r) := by
  have hprevious : (c.advance v r).previous.any isWordChar := by
    obtain ⟨y, rfl⟩ := hsuffix
    rw [Cursor.previous_advance _ _ (by simp [hne]), List.getLast?_append,
      List.getLast?_eq_some_getLast hne, Option.some_or, Option.any_some]
    exact List.all_eq_true.mp hx _ (List.getLast_mem hne)
  have hnext : r.head?.any isWordChar = false := by
    rw [Option.any_eq_false]
    intro ch hch
    simp [hr ch hch]
  simp [run, atWordEdge, hprevious, hnext]

end Pattern

namespace PhraseText

variable {ws : List String} {v rest : Text}

theorem alternates_phraseOf : ∀ ws ∈ keywordPhrases,
    alternates (phraseOf ws) ∧ .other ∉ phraseOf ws := by decide

/-- Behind the keyword a word ends. -/
theorem run_edge (h : PhraseText ws v rest) (c : Cursor) :
    wordEdge.run (c.advance v rest) some = some (c.advance v rest) := by
  obtain ⟨halternates, hother⟩ := alternates_phraseOf ws h.mem
  obtain ⟨x, hsuffix, hne, hx⟩ := h.spells.suffix_word halternates hother
  exact run_wordEdge hne hx hsuffix h.ends

theorem match?_phrase (h : PhraseText ws v rest) (before : Option Char) :
    (seq (phrase ws) wordEdge).match? before (v ++ rest) = some (v, rest) := by
  obtain ⟨w, u, us, hws, hwords, -⟩ := keywordPhrases_words ws h.mem
  refine match?_of_run ?_
  rw [run]
  exact run_phrase (by simp [hws]) hwords h.spells rfl (h.run_edge _)

theorem match?_ifNotExists (h : PhraseText ["IF", "NOT", "EXISTS"] v rest)
    (before : Option Char) : (all [word "IF", blanks, opt (spaced ["NOT"]), word "EXISTS",
      wordEdge]).match? before (v ++ rest) = some (v, rest) := by
  have hedge := h.run_edge ⟨before, [], v ++ rest⟩
  have hnot : isPhraseWord "NOT" := by decide
  obtain ⟨a, _, rfl, ha, g, _, rfl, ⟨hgne, hg⟩, hb⟩ := h.spells
  have hbhead := fun r => head?_isBlank_of_spells (r := r) hnot hb
  obtain ⟨b, _, rfl, hb, k, e, rfl, ⟨hkne, hk⟩, he⟩ := hb
  have hehead := fun r => head?_isBlank_of_spells (r := r) (w := "EXISTS") (by decide) he
  obtain ⟨e, _, rfl, he, rfl⟩ := he
  refine match?_of_run ?_
  simp only [List.append_nil, List.append_assoc] at hedge hbhead ⊢
  simp only [all]
  rw [run, run_word rfl ha, run]
  refine run_blanks rfl hgne hg (by simpa using hbhead rest) ?_
  rw [run]
  refine run_alt_of_some ?_
  change (seq (word "NOT") blanks).run _ _ = _
  rw [run, run_word rfl hb]
  refine run_blanks rfl hkne hk (by simpa using hehead rest) ?_
  rw [run, run_word rfl he]
  simpa only [Cursor.advance_advance, List.append_assoc] using hedge

theorem exists_match? (h : PhraseText ws v rest) (before : Option Char) :
    ∃ rule ∈ earlyRules, rule.1.match? before (v ++ rest) = some (v, rest) := by
  have hrule : ∀ {i : Nat} {p : Pattern} {kind : LexemeKind}, earlyRules[i]? = some (p, kind) →
      p.match? before (v ++ rest) = some (v, rest) →
        ∃ rule ∈ earlyRules, rule.1.match? before (v ++ rest) = some (v, rest) :=
    fun hi hm => ⟨_, List.mem_of_getElem? hi, hm⟩
  have hmem := h.mem
  simp only [keywordPhrases, List.mem_cons, List.not_mem_nil, or_false] at hmem
  rcases hmem with rfl | rfl | rfl | rfl | rfl | rfl | rfl
  · exact hrule (i := 28) rfl (h.match?_phrase before)
  · exact hrule (i := 36) rfl (h.match?_phrase before)
  · exact hrule (i := 27) rfl (h.match?_ifNotExists before)
  · exact hrule (i := 33) rfl (h.match?_phrase before)
  · exact hrule (i := 31) rfl (h.match?_phrase before)
  · exact hrule (i := 34) rfl (h.match?_phrase before)
  · exact hrule (i := 35) rfl (h.match?_phrase before)

/-- A keyword of several words that does not follow a dot is one lexeme. -/
theorem lexesAs (h : PhraseText ws v rest) {before : Option Char} (hbefore : before ≠ some '.') :
    ∃ kind, [.keyword, .name].contains kind ∧ LexesAs before v rest kind := by
  obtain ⟨kind, hkind, hfirst⟩ : ∃ kind, [.keyword, .name].contains kind ∧
      firstRule? before (v ++ rest) lexicalRules = some (⟨kind, v⟩, rest) := by
    rcases firstRule?_of_findsOnly (h.findsOnly hbefore) with ⟨-, hnone⟩ |
      ⟨kind, hkind, hfound⟩
    · obtain ⟨rule, hrule, hm⟩ := h.exists_match? before
      rw [hnone rule hrule] at hm
      cases hm
    · refine ⟨kind, hkind, ?_⟩
      rw [lexicalRules_eq, firstRule?_append_rules, hfound, Option.some_or]
  obtain ⟨a, g, c, t, rfl, -, -, -, hfirstWord⟩ := h.first_word
  obtain ⟨ch, a, rfl, hch⟩ := hfirstWord.exists_cons
  refine ⟨kind, hkind, lexesAs_of_firstRule? (hch.ne_of_sign (by decide)) ?_ hfirst⟩
  exact fun hslash => absurd hslash (hch.ne_of_sign (by decide))

end PhraseText

/-! ### The operator `LIKE` -/

/-- Whether a text is the operator `LIKE` and is told apart from the text around it. -/
def isLikeApart (before : Option Char) (rest v : Text) : Bool :=
  plainText v == plainText "LIKE".toList && rest.head?.all (!isWordChar ·) && !isNamed before rest

/-- The operator `LIKE` in front of a text. -/
structure LikeText (v rest : Text) : Prop where
  spells : plainText v = plainText "LIKE".toList
  ends : EndsWord rest

namespace LikeText

variable {v rest : Text} {before : Option Char}

theorem all_isWordChar (h : LikeText v rest) : v.all isWordChar :=
  all_isWordChar_of_plainText_eq h.spells (by decide)

theorem exists_cons (h : LikeText v rest) :
    ∃ c t, v = c :: t ∧ plainLetter c = plainLetter 'L' := by
  obtain ⟨c, t, rfl, hc, -⟩ := List.map_eq_cons_iff.mp h.spells
  exact ⟨c, t, rfl, hc⟩

theorem singleWord (h : LikeText v rest) : SingleWord v rest := by
  obtain ⟨c, t, rfl, hc⟩ := h.exists_cons
  refine ⟨⟨by simp, h.all_isWordChar, ?_, h.ends, ?_⟩, ?_⟩
  · rintro _ ⟨⟩
    rw [← isDecimalDigit_plainLetter, hc]
    decide
  · rw [h.spells]
    exact fun hwith => absurd hwith (by decide)
  · have hfirst : ∀ start ∈ phraseStarts, plainText "LIKE".toList ≠ plainText start.1.toList := by
      decide
    rw [startsPhrase, h.spells, Bool.and_eq_false_iff, List.any_eq_false]
    refine .inr fun start hstart hlike => hfirst start hstart ?_
    simp only [Bool.and_eq_true, beq_iff_eq] at hlike
    exact hlike.1

theorem match?_like (h : LikeText v rest) (before : Option Char) :
    (all [opt (spaced ["NOT"]), oneOf ["LIKE", "ILIKE", "RLIKE"], wordEdge]).match? before
      (v ++ rest) = some (v, rest) := by
  obtain ⟨c, t, hv, hc⟩ := h.exists_cons
  have hnot : ∀ next, (spaced ["NOT"]).run ⟨before, [], v ++ rest⟩ next = none := fun next => by
    refine run_eq_none_of_begins rfl ?_
    rw [hv]
    rintro _ ⟨⟩
    have hletter : plainLetter 'L' ≠ plainLetter 'N' := by decide
    simpa [spaced, any, begins, Pattern.word, all, canBeEmpty, hc] using hletter
  refine match?_of_run ?_
  simp only [all, oneOf, any, List.map_cons, List.map_nil]
  rw [run, run_opt_of_none (hnot _), run]
  refine run_alt_of_some ?_
  rw [run_word rfl h.spells]
  exact run_wordEdge (by simp [hv]) h.all_isWordChar List.suffix_rfl h.ends

/-- The operator is one lexeme, if it is not taken for a name. -/
theorem lexesAs (h : LikeText v rest) (hname : isNamed before rest = false) :
    LexesAs before v rest .operator := by
  have hkinds : wordKinds v = [.operator] := by
    rw [wordKinds_congr h.spells]
    decide
  have hfinds : ∀ rule ∈ earlyRules, FindsOnly [.operator] before v rest rule :=
    hkinds ▸ h.singleWord.findsOnly fun hnamed => by simp [hname] at hnamed
  have hfirst : firstRule? before (v ++ rest) lexicalRules = some (⟨.operator, v⟩, rest) := by
    rw [lexicalRules_eq, firstRule?_append_rules]
    rcases firstRule?_of_findsOnly hfinds with ⟨-, hnone⟩ | ⟨kind, hkind, hfound⟩
    · have hrule : earlyRules[41]? = some (all [opt (spaced ["NOT"]),
        oneOf ["LIKE", "ILIKE", "RLIKE"], wordEdge], .operator) := rfl
      have := hnone _ (List.mem_of_getElem? hrule)
      rw [h.match?_like] at this
      cases this
    · cases (by simpa using hkind : kind = .operator)
      rw [hfound, Option.some_or]
  obtain ⟨c, t, rfl, hc⟩ := h.singleWord.exists_cons
  refine lexesAs_of_firstRule? (hc.ne_of_sign (by decide)) ?_ hfirst
  exact fun hslash => absurd hslash (hc.ne_of_sign (by decide))

end LikeText

theorem lexesAs_of_isLikeApart {before : Option Char} {rest v : Text}
    (h : isLikeApart before rest v) : LexesAs before v rest .operator := by
  simp only [isLikeApart, Bool.and_eq_true, beq_iff_eq, Bool.not_eq_true'] at h
  have hends : EndsWord rest := fun c hc => by simpa [Option.mem_def.mp hc] using h.1.2
  exact LikeText.lexesAs ⟨h.1.1, hends⟩ h.2

end SchemaMill.Sql
