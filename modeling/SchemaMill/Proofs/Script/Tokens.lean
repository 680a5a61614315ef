import SchemaMill.Proofs.Lexing.Layout
import SchemaMill.Proofs.Lexing.Yielding
import SchemaMill.Proofs.Script.Statements

/-!
# Tokens of a statement

A token begins with a character that is no blank, and it is never the start of a comment; if a line
feed stands in it, it ends in a character that is neither a blank nor a minus sign (`Firm`). The
first and the last characters are read off the lexical rules (`begins`, `endsFirm`), so they are
checked once for the whole list of rules.

What is said of the lines of a statement is then true of each of its tokens on its own
(`fits_of_tokenize`).
-/

namespace SchemaMill.Sql

open Schema

/-- Each rule for tokens begins with no blank, and avoids line feeds or ends in a character after
which it does not matter what follows. -/
theorem firm_lexicalRules : ∀ rule ∈ lexicalRules, rule.2.isKept →
    (∀ n ∈ blankCodes, rule.1.begins (Char.ofNat n) = false) ∧
      (rule.1.avoidsFeed ∨ rule.1.endsFirm) := by
  decide +kernel

/-! ### Lexemes -/

/-- A text that is told apart from what stands around it on a line. -/
structure Firm (v : Text) : Prop where
  head : ∃ c, v.head? = some c ∧ isBlank c = false
  /-- If it goes over several lines, then what follows its end does not matter. -/
  last : '\n' ∈ v → ∃ c, v.getLast? = some c ∧ isBlank c = false ∧ c ≠ '-'
  noComment : ∀ r, v ≠ '-' :: '-' :: r

variable {before : Option Char} {t rest v : Text}

theorem firm_of_yields {p : Pattern} (h : p.Yields v) (hne : v ≠ [])
    (hbegins : ∀ n ∈ blankCodes, p.begins (Char.ofNat n) = false)
    (hends : p.avoidsFeed ∨ p.endsFirm) :
    (∃ c, v.head? = some c ∧ isBlank c = false) ∧
      ('\n' ∈ v → ∃ c, v.getLast? = some c ∧ isBlank c = false ∧ c ≠ '-') := by
  constructor
  · obtain ⟨c, w, rfl⟩ := List.exists_cons_of_ne_nil hne
    refine ⟨c, rfl, Bool.eq_false_iff.mpr fun hblank => ?_⟩
    have hno := hbegins c.toNat (isBlank_iff.mp hblank)
    rw [Char.ofNat_toNat] at hno
    simp [h.begins c rfl] at hno
  · intro hfeed
    obtain ⟨c, hc⟩ := Option.ne_none_iff_exists'.mp (mt List.getLast?_eq_none_iff.mp hne)
    have hloose := h.endsFirm (hends.resolve_left fun ha => h.avoidsFeed ha hfeed) c hc
    rw [Pattern.mem_looseSigns, not_or] at hloose
    exact ⟨c, hc, by simpa using hloose.2, hloose.1⟩

theorem exists_rule_of_firstRule? {rules : List (Pattern × LexemeKind)} {l : Lexeme}
    (h : firstRule? before t rules = some (l, rest)) :
    ∃ p, (p, l.kind) ∈ rules ∧ p.Yields l.value := by
  induction rules with
  | nil => cases h
  | cons rule rules ih =>
    rw [firstRule?] at h
    split at h
    · next hm =>
      cases h
      exact ⟨_, List.mem_cons_self, Pattern.yields_of_match? hm⟩
    · obtain ⟨p, hp, hv⟩ := ih h
      exact ⟨p, List.mem_cons_of_mem _ hp, hv⟩

theorem throughMark_suffix {mark inside : Text} (h : throughMark mark t = some (inside, rest)) :
    mark <:+ inside := by
  induction t generalizing inside with
  | nil =>
    rw [throughMark] at h
    split at h
    · cases h
      rename_i hmark
      simpa using hmark
    · cases h
  | cons c t ih =>
    rw [throughMark] at h
    split at h
    · cases h
      exact List.suffix_rfl
    · obtain ⟨⟨i, r⟩, hr, h⟩ := Option.map_eq_some_iff.mp h
      cases h
      exact (ih hr).trans (List.suffix_cons c i)

theorem firm_of_span? {l : Lexeme} (h : span? before t = some (l, rest))
    (hkind : l.kind ≠ .comment) : Firm l.value := by
  rw [span?] at h
  split at h
  · obtain ⟨⟨body, r⟩, -, h⟩ := Option.map_eq_some_iff.mp h
    cases h
    exact absurd rfl hkind
  · split at h
    · cases h
    · simp only [bind, pure, Option.bind_eq_some_iff] at h
      obtain ⟨⟨mark, inside⟩, hm, ⟨body, r⟩, hb, h⟩ := h
      cases h
      obtain ⟨front, rfl⟩ := throughMark_suffix hb
      have hmark := Pattern.yields_of_match? hm
      have hne := hmark.ne_nil rfl
      obtain ⟨⟨c, hhead, hc⟩, -⟩ := firm_of_yields hmark hne (by decide) (.inr rfl)
      obtain ⟨e, he⟩ := Option.ne_none_iff_exists'.mp (mt List.getLast?_eq_none_iff.mp hne)
      have hlast := hmark.endsFirm rfl e he
      rw [Pattern.mem_looseSigns, not_or] at hlast
      obtain ⟨w, rfl⟩ := List.head?_eq_some_iff.mp hhead
      refine ⟨⟨c, rfl, hc⟩, fun _ => ⟨e, ?_, by simpa using hlast.2, hlast.1⟩, ?_⟩
      · rw [List.getLast?_append, List.getLast?_append, he]
        rfl
      · rintro r h
        cases (List.cons.inj h).1
        exact absurd (hmark.begins '-' rfl) (by decide)

theorem run_alt_ne_none {a b : Pattern} {c : Cursor} {next : Cursor → Option Cursor}
    (h : a.run c next ≠ none ∨ b.run c next ≠ none) : (Pattern.alt a b).run c next ≠ none := by
  rw [Pattern.run]
  split
  · simp
  · next hnone => exact h.resolve_left fun ha => ha hnone

theorem run_shortLine_ne_none (c : Cursor) :
    (Pattern.seq .shortLine (.alt .lineBreak .textEnd)).run c some ≠ none := by
  show Pattern.iterateFew _ c.rest c _ ≠ none
  generalize hfuel : c.rest = fuel
  induction fuel generalizing c with
  | nil => exact run_alt_ne_none (.inr (by simp [Pattern.run, hfuel]))
  | cons ch fuel ih =>
    rw [Pattern.iterateFew, Ne, Option.or_eq_none_iff]
    by_cases hch : ch = '\n'
    · have hfeed : (Pattern.char '\n').run c some ≠ none := by
        rw [Pattern.run_char (hch ▸ hfuel)]
        simp
      have hbreak : Pattern.lineBreak.run c some ≠ none :=
        run_alt_ne_none (.inr (run_alt_ne_none (.inr hfeed)))
      exact fun h => run_alt_ne_none (.inl hbreak) h.1
    · intro h
      rw [Pattern.run_one hfuel (by simpa using hch)] at h
      exact ih _ rfl h.2

theorem nextLexeme_comment (before : Option Char) (t : Text) :
    (nextLexeme before '-' ('-' :: t)).1.kind = .comment := by
  let comment := Pattern.all [.alt (.literal "--") (.literal "# "), .shortLine,
    .alt .lineBreak .textEnd]
  have hrules : lexicalRules = (comment, .comment) :: lexicalRules.tail := rfl
  have hmatch : comment.match? before ('-' :: '-' :: t) ≠ none := by
    rw [Pattern.match?, Ne, Option.map_eq_none_iff]
    refine run_alt_ne_none (.inl ?_)
    show (Pattern.seq (.char '-') (.char '-')).run _ _ ≠ none
    rw [Pattern.run_pair rfl]
    exact run_shortLine_ne_none _
  obtain ⟨⟨v, r⟩, hv⟩ := Option.ne_none_iff_exists'.mp hmatch
  have hne : v ≠ [] := (Pattern.yields_of_match? hv).ne_nil rfl
  rw [nextLexeme, span?_eq_none (by decide) (fun h => absurd h (by decide)), Option.none_or, hrules,
    firstRule?, hv]
  simp [hne]

/-- Every lexeme that becomes a token is told apart from what stands around it. -/
theorem firm_nextLexeme {c : Char} (h : (nextLexeme before c t).1.kind.isKept) :
    Firm (nextLexeme before c t).1.value := by
  have happend := nextLexeme_append before c t
  have hcomment : ∀ r, (nextLexeme before c t).1.value ≠ '-' :: '-' :: r := by
    intro r hr
    rw [hr] at happend
    obtain ⟨rfl, ht⟩ := List.cons.inj happend
    rw [← ht, List.append_eq, List.cons_append, nextLexeme_comment] at h
    cases h
  cases hl : (span? before (c :: t)).or (firstRule? before (c :: t) lexicalRules) with
  | none =>
    have hstray : nextLexeme before c t = (⟨.stray, [c]⟩, t) := by rw [nextLexeme, hl]
    rw [hstray] at h
    cases h
  | some found =>
    obtain ⟨l, rest⟩ := found
    have hnext : nextLexeme before c t =
        if l.value.isEmpty then (⟨.stray, [c]⟩, t) else (l, rest) := by rw [nextLexeme, hl]
    by_cases hne : l.value.isEmpty
    · rw [hnext, if_pos hne] at h
      cases h
    · rw [hnext, if_neg hne] at h hcomment ⊢
      rcases Option.or_eq_some_iff.mp hl with hspan | ⟨-, hrule⟩
      · refine firm_of_span? hspan fun hkind => ?_
        rw [hkind] at h
        cases h
      · obtain ⟨p, hp, hv⟩ := exists_rule_of_firstRule? hrule
        obtain ⟨hbegins, hends⟩ := firm_lexicalRules _ hp h
        obtain ⟨hhead, hlast⟩ := firm_of_yields hv (by simpa using hne) hbegins hends
        exact ⟨hhead, hlast, hcomment⟩

theorem firm_of_mem_lexemesFrom {l : Lexeme} (h : l ∈ lexemesFrom before t)
    (hkind : l.kind.isKept) : Firm l.value := by
  fun_induction lexemesFrom before t with
  | case1 => simp at h
  | case2 before c t ih =>
    rcases List.mem_cons.mp h with rfl | h
    · exact firm_nextLexeme hkind
    · exact ih h

/-! ### Tokens -/

/-- A token that can be written anywhere on the lines of a statement. -/
structure Token.Fits (t : Token) : Prop where
  /-- It is told apart from what stands around it. -/
  firm : Firm t.value
  /-- Behind its line feeds are lines of a statement. -/
  steady : Steady [] t.value
  /-- In front of its line feeds no statement ends. -/
  runsOn : RunsOn [] t.value

theorem exists_lexeme_of_tokensOf {b : Bool} {ls : List Lexeme} {ts : List Token}
    (h : tokensOf b ls = .ok ts) : ∀ t ∈ ts, ∃ l ∈ ls, l.kind.isKept ∧ t.value = l.value := by
  induction ls generalizing b ts with
  | nil => cases h; simp
  | cons l rest ih =>
    have hmore {b : Bool} {us : List Token} (hus : tokensOf b rest = .ok us) :
        ∀ t ∈ us, ∃ k ∈ l :: rest, k.kind.isKept ∧ t.value = k.value := fun t ht => by
      obtain ⟨k, hk, hkept⟩ := ih hus t ht
      exact ⟨k, List.mem_cons_of_mem _ hk, hkept⟩
    rw [tokensOf] at h
    split at h
    · exact hmore h
    · exact hmore h
    · cases h
    · next hblank hcomment hstray =>
      cases hus : tokensOf false rest with
      | error e => rw [hus] at h; cases h
      | ok us =>
        rw [hus] at h
        cases h
        have hkept : l.kind.isKept := by
          revert hblank hcomment hstray
          cases l.kind <;> simp [LexemeKind.isKept]
        exact List.forall_mem_cons.mpr ⟨⟨l, List.mem_cons_self, hkept, rfl⟩, hmore hus⟩

/-- The tokens of a text with the lines of a statement can be written anywhere on such lines. -/
theorem fits_of_tokenize {ts : List Token} (hsteady : Steady [] t) (hopen : RunsOn [] t)
    (h : tokenize t = .ok ts) : ∀ u ∈ ts, u.Fits := by
  intro u hu
  obtain ⟨l, hl, hkept, hvalue⟩ := exists_lexeme_of_tokensOf h u hu
  have hfirm := firm_of_mem_lexemesFrom hl hkept
  obtain ⟨x, y, hxy⟩ := List.append_of_mem hl
  -- the token is a piece of the statement
  have ht : t = (x.map (·.value)).flatten ++ (l.value ++ (y.map (·.value)).flatten) := by
    have hflatten := lexemes_flatten t
    rw [hxy] at hflatten
    simpa using hflatten.symm
  rw [ht] at hsteady hopen
  have hpiece := (steady_append_iff.mp (steady_append_iff.mp hsteady).2).1
  rw [← hvalue] at hpiece hfirm
  refine ⟨hfirm, ?_, ?_⟩
  · by_cases hfeed : '\n' ∈ u.value
    · obtain ⟨c, hc, hblank, hminus⟩ := hfirm.last hfeed
      exact hpiece.replace hc hblank fun h => absurd h hminus
    · refine steady_of_unbroken (fun c hc => Bool.eq_false_iff.mpr fun hb => hfeed ?_) []
      exact hpiece.lined c hc hb ▸ hc
  · rw [hvalue]
    exact (runsOn_append_iff.mp (runsOn_append_iff.mp hopen).2).1.alone

end SchemaMill.Sql
