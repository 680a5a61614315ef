import SchemaMill.Proofs.Script.Tokens

/-!
# Gaps between tokens

A text is read lexeme by lexeme as long as one starts at the position that is reached (`LexesTo`).
If this leads to the end of the text, the text consists of its tokens and of the gaps in front of
them, between them and behind them, in which there are blanks and comments only (`Gapped`). If it
leads to a character that starts no lexeme, the text is refused for that character. One of the two
comes about (`exists_lexesTo`), since no lexeme is empty; so `tokenize_iff` says of every text what
is read from it.
-/

namespace SchemaMill.Sql

/-! ### Lexemes one after the other -/

/-- The lexeme at the start of a text, with what is left: a span, or what the first rule finds that
matches. -/
def lexeme? (before : Option Char) (t : Text) : Option (Lexeme × Text) :=
  (span? before t).or (firstRule? before t lexicalRules)

/-- No lexeme starts a text: no span does, and none that a rule describes. -/
def StartsNone (before : Option Char) (t : Text) : Prop :=
  span? before t = none ∧ ∀ rule ∈ lexicalRules, rule.1.match? before t = none

/-- The lexemes of a text from its start to the position in front of `rest`. -/
inductive LexesTo : (before : Option Char) → (t : Text) → List Lexeme → (before' : Option Char) →
    (rest : Text) → Prop where
  | here {before t} : LexesTo before t [] before t
  | lexeme {before t l more ls before' rest} (h : lexeme? before t = some (l, more))
    (hmore : LexesTo l.value.getLast? more ls before' rest) :
    LexesTo before t (l :: ls) before' rest

variable {before before' : Option Char} {t rest : Text} {l : Lexeme} {ls : List Lexeme}
  {ts : List Token} {c : Char} {b : Bool}

theorem firstRule?_eq_none_iff {rules : List (Pattern × LexemeKind)} :
    firstRule? before t rules = none ↔ ∀ rule ∈ rules, rule.1.match? before t = none := by
  induction rules with
  | nil => simp [firstRule?]
  | cons rule rules ih =>
    rw [firstRule?, List.forall_mem_cons, ← ih]
    cases rule.1.match? before t <;> simp

theorem lexeme?_eq_none_iff : lexeme? before t = none ↔ StartsNone before t := by
  rw [lexeme?, Option.or_eq_none_iff, firstRule?_eq_none_iff, StartsNone]

theorem append_of_lexeme? (h : lexeme? before t = some (l, rest)) : l.value ++ rest = t := by
  rcases Option.or_eq_some_iff.mp h with hspan | ⟨-, hrule⟩
  · exact span?_append hspan
  · exact firstRule?_append hrule

/-- A span is a comment, or a body behind a dollar quote. -/
theorem span?_cases (h : span? before t = some (l, rest)) :
    (l.kind = .comment ∧ ∃ body, l.value = "/*".toList ++ body) ∨
      (l.kind = .mark ∧ ∃ mark body, dollarQuote.Yields mark ∧ l.value = mark ++ body) := by
  rw [span?] at h
  split at h
  · obtain ⟨⟨body, r⟩, -, h⟩ := Option.map_eq_some_iff.mp h
    cases h
    exact .inl ⟨rfl, body, rfl⟩
  · split at h
    · cases h
    · simp only [bind, pure, Option.bind_eq_some_iff] at h
      obtain ⟨⟨mark, inside⟩, hmark, ⟨body, r⟩, -, h⟩ := h
      cases h
      exact .inr ⟨rfl, mark, body, Pattern.yields_of_match? hmark, rfl⟩

theorem head?_of_span? (h : span? before t = some (l, rest)) :
    l.value.head? = some '/' ∨ l.value.head? = some '$' := by
  rcases span?_cases h with ⟨-, body, hvalue⟩ | ⟨-, mark, body, hmark, hvalue⟩
  · exact .inl (by rw [hvalue]; rfl)
  · obtain ⟨c, mark, rfl⟩ := List.exists_cons_of_ne_nil (hmark.ne_nil rfl)
    have hc : dollarQuote.begins c := hmark.begins c rfl
    right
    rw [hvalue]
    simpa [dollarQuote, Pattern.begins, Pattern.all, Pattern.char, Pattern.canBeEmpty] using hc

/-- A lexeme that does not begin as spans do is described by a rule that begins with its first
character. -/
theorem exists_rule_of_lexeme? (h : lexeme? before t = some (l, rest))
    (hl : l.value.head? = some c) (hc : c ≠ '/' ∧ c ≠ '$') :
    ∃ p, (p, l.kind) ∈ lexicalRules ∧ p.begins c := by
  rcases Option.or_eq_some_iff.mp h with hspan | ⟨-, hrule⟩
  · rcases head?_of_span? hspan with hhead | hhead
    · exact absurd (Option.some.inj (hl.symm.trans hhead)) hc.1
    · exact absurd (Option.some.inj (hl.symm.trans hhead)) hc.2
  · obtain ⟨p, hp, hyields⟩ := exists_rule_of_firstRule? hrule
    exact ⟨p, hp, hyields.begins c hl⟩

theorem of_lexeme? (h : lexeme? before t = some (l, rest)) : l.value ≠ [] ∧ l.kind ≠ .stray := by
  rcases Option.or_eq_some_iff.mp h with hspan | ⟨-, hrule⟩
  · rcases span?_cases hspan with ⟨hkind, body, hvalue⟩ | ⟨hkind, mark, body, hmark, hvalue⟩
    all_goals rw [hkind, hvalue]
    · constructor <;> simp
    · have hne : mark ≠ [] := hmark.ne_nil rfl
      constructor <;> simp [hne]
  · have hkinds : ∀ rule ∈ lexicalRules, rule.2 ≠ .stray := by decide
    obtain ⟨p, hp, hyields⟩ := exists_rule_of_firstRule? hrule
    exact ⟨hyields.ne_nil (canBeEmpty_lexicalRules _ hp), hkinds _ hp⟩

/-- The next lexeme is the one that starts the text, or a stray character if none does. -/
theorem nextLexeme_eq (before : Option Char) (c : Char) (t : Text) :
    nextLexeme before c t = (lexeme? before (c :: t)).getD (⟨.stray, [c]⟩, t) := by
  rw [nextLexeme, ← lexeme?]
  cases hl : lexeme? before (c :: t) with
  | none => rfl
  | some found =>
    obtain ⟨l, rest⟩ := found
    have hne : l.value.isEmpty = false := by simpa using (of_lexeme? hl).1
    simp [hne]

theorem lexemesFrom_of_lexeme? (h : lexeme? before t = some (l, rest)) :
    lexemesFrom before t = l :: lexemesFrom l.value.getLast? rest := by
  cases t with
  | nil => exact absurd (List.append_eq_nil_iff.mp (append_of_lexeme? h)).1 (of_lexeme? h).1
  | cons c t => rw [lexemesFrom, nextLexeme_eq, h, Option.getD_some]

theorem tokensOf_append_stray (h : ∀ l ∈ ls, l.kind ≠ .stray) (c : Char) (more : List Lexeme) :
    tokensOf b (ls ++ ⟨.stray, [c]⟩ :: more) = .error c := by
  induction ls generalizing b with
  | nil => rfl
  | cons l ls ih =>
    rw [List.forall_mem_cons] at h
    rw [List.cons_append, tokensOf]
    split
    · exact ih h.2
    · exact ih h.2
    · next hstray => exact absurd hstray h.1
    · rw [ih h.2]; rfl

namespace LexesTo

theorem lexemesFrom_eq (h : LexesTo before t ls before' rest) :
    lexemesFrom before t = ls ++ lexemesFrom before' rest := by
  induction h with
  | here => rfl
  | lexeme h _ ih => rw [lexemesFrom_of_lexeme? h, ih, List.cons_append]

theorem exists_lexeme? (h : LexesTo before t ls before' rest) :
    ∀ l ∈ ls, ∃ before t rest, lexeme? before t = some (l, rest) := by
  induction h with
  | here => simp
  | lexeme h _ ih => exact List.forall_mem_cons.mpr ⟨⟨_, _, _, h⟩, ih⟩

theorem of_mem (h : LexesTo before t ls before' rest) :
    ∀ l ∈ ls, l.value ≠ [] ∧ l.kind ≠ .stray := by
  intro l hl
  obtain ⟨_, _, _, hlexeme⟩ := h.exists_lexeme? l hl
  exact of_lexeme? hlexeme

theorem lexemes_eq (h : LexesTo none t ls before []) : lexemes t = ls := by
  rw [lexemes, h.lexemesFrom_eq, lexemesFrom, List.append_nil]

theorem tokenize_eq_error (h : LexesTo none t ls before (c :: rest))
    (hnone : StartsNone before (c :: rest)) : tokenize t = .error c := by
  rw [tokenize, lexemes, h.lexemesFrom_eq, lexemesFrom, nextLexeme_eq,
    lexeme?_eq_none_iff.mpr hnone]
  exact tokensOf_append_stray (fun l hl => (h.of_mem l hl).2) c _

end LexesTo

/-- Reading lexemes leads to the end of a text, or to a character that starts none. -/
theorem exists_lexesTo (before : Option Char) (t : Text) : ∃ ls before' rest,
    LexesTo before t ls before' rest ∧ ∀ c more, rest = c :: more → StartsNone before' rest := by
  match t with
  | [] => exact ⟨[], before, [], .here, fun _ _ h => by cases h⟩
  | c :: t =>
    cases hl : lexeme? before (c :: t) with
    | none => exact ⟨[], before, c :: t, .here, fun _ _ _ => lexeme?_eq_none_iff.mp hl⟩
    | some found =>
      obtain ⟨l, more⟩ := found
      have hlength : more.length ≤ t.length := by
        have happend := congrArg List.length (append_of_lexeme? hl)
        have hpos := List.length_pos_iff.mpr (of_lexeme? hl).1
        rw [List.length_append, List.length_cons] at happend
        omega
      obtain ⟨ls, before', rest, hls, hrest⟩ := exists_lexesTo l.value.getLast? more
      exact ⟨l :: ls, before', rest, .lexeme hl hls, hrest⟩
termination_by t.length

/-! ### Tokens and gaps -/

/-- The text of some lexemes. -/
def textOf (ls : List Lexeme) : Text := (ls.map (·.value)).flatten

/-- Lexemes of a gap: blanks and comments. -/
def AreGap (ls : List Lexeme) : Prop := ∀ l ∈ ls, l.kind = .blank ∨ l.kind = .comment

/-- A text with its lexemes, and the tokens that are left when each gap is dropped. A token is
spaced if the gap in front of it is not empty. -/
inductive Gapped : Text → List Lexeme → List Token → Prop where
  | last {gap : List Lexeme} (hgap : AreGap gap) : Gapped (textOf gap) gap []
  | token {gap ls : List Lexeme} {u : Token} {x : Text} {ts : List Token} (hgap : AreGap gap)
    (hkept : u.kind.isKept) (hspaced : u.spaced = true ↔ textOf gap ≠ [])
    (hrest : Gapped x ls ts) :
    Gapped (textOf gap ++ (u.value ++ x)) (gap ++ ⟨u.kind, u.value⟩ :: ls) (u :: ts)

theorem textOf_append (ls more : List Lexeme) : textOf (ls ++ more) = textOf ls ++ textOf more := by
  simp [textOf]

theorem textOf_cons (l : Lexeme) (ls : List Lexeme) : textOf (l :: ls) = l.value ++ textOf ls := rfl

theorem tokensOf_append_gap {gap : List Lexeme} (hgap : AreGap gap) (b : Bool) (ls : List Lexeme) :
    tokensOf b (gap ++ ls) = tokensOf (b || !gap.isEmpty) ls := by
  induction gap generalizing b with
  | nil => simp
  | cons l gap ih =>
    obtain ⟨hl, hgap⟩ := List.forall_mem_cons.mp hgap
    have hstep : tokensOf b (l :: (gap ++ ls)) = tokensOf true (gap ++ ls) := by
      rcases hl with hl | hl <;> rw [tokensOf, hl]
    rw [List.cons_append, hstep, ih hgap]
    simp

theorem exists_tokensOf (h : ∀ l ∈ ls, l.kind ≠ .stray) : ∃ ts, tokensOf b ls = .ok ts := by
  induction ls generalizing b with
  | nil => exact ⟨[], rfl⟩
  | cons l ls ih =>
    rw [List.forall_mem_cons] at h
    rw [tokensOf]
    split
    · exact ih h.2
    · exact ih h.2
    · next hstray => exact absurd hstray h.1
    · obtain ⟨ts, hts⟩ := ih (b := false) h.2
      exact ⟨_, by rw [hts]; rfl⟩

/-- What is read from lexemes behind a part of a gap are the tokens between the gaps. -/
theorem gapped_of_tokensOf (gap : List Lexeme) (hls : ∀ l ∈ ls, l.value ≠ [])
    (hgap : AreGap gap) (hb : b = true ↔ textOf gap ≠ []) (h : tokensOf b ls = .ok ts) :
    Gapped (textOf (gap ++ ls)) (gap ++ ls) ts := by
  induction ls generalizing b gap ts with
  | nil =>
    cases h
    rw [List.append_nil]
    exact .last hgap
  | cons l ls ih =>
    obtain ⟨hl, hls⟩ := List.forall_mem_cons.mp hls
    have hlonger (hkind : l.kind = .blank ∨ l.kind = .comment) (h : tokensOf true ls = .ok ts) :
        Gapped (textOf (gap ++ l :: ls)) (gap ++ l :: ls) ts := by
      have hmore : AreGap (gap ++ [l]) := by
        intro k hk
        rcases List.mem_append.mp hk with hk | hk
        · exact hgap k hk
        · rw [List.mem_singleton.mp hk]; exact hkind
      have hne : textOf (gap ++ [l]) ≠ [] := by simp [textOf_append, textOf_cons, hl]
      have hlonger := ih _ hls hmore (by simp [hne]) h
      rwa [List.append_assoc] at hlonger
    rw [tokensOf] at h
    split at h
    · next hkind => exact hlonger (.inl hkind) h
    · next hkind => exact hlonger (.inr hkind) h
    · cases h
    · next hblank hcomment hstray =>
      cases hts : tokensOf false ls with
      | error e => rw [hts] at h; cases h
      | ok us =>
        rw [hts] at h
        cases h
        have hkept : l.kind.isKept := by
          revert hblank hcomment hstray
          cases l.kind <;> simp [LexemeKind.isKept]
        have hrest := ih [] (b := false) hls (by simp [AreGap]) (by simp [textOf]) hts
        rw [textOf_append, textOf_cons]
        exact .token (u := ⟨l.kind, l.value, b⟩) hgap hkept hb hrest

theorem Gapped.tokensOf_eq {x : Text} (h : Gapped x ls ts) (hls : ∀ l ∈ ls, l.value ≠ []) :
    tokensOf false ls = .ok ts := by
  induction h with
  | last hgap =>
    have hnone := tokensOf_append_gap hgap false []
    rw [List.append_nil] at hnone
    exact hnone
  | @token gap ls u x ts hgap hkept hspaced _ ih =>
    have hrest := ih fun l hl => hls l (List.mem_append_right _ (List.mem_cons_of_mem _ hl))
    have hempty : textOf gap = [] ↔ gap = [] := by
      refine ⟨fun hnil => ?_, fun hnil => by rw [hnil]; rfl⟩
      cases gap with
      | nil => rfl
      | cons l gap =>
        exact absurd (List.append_eq_nil_iff.mp hnil).1 (hls l List.mem_cons_self)
    have hflag : u.spaced = !gap.isEmpty := by
      rw [Bool.eq_iff_iff, hspaced, ne_eq, hempty]
      simp
    rw [tokensOf_append_gap hgap, Bool.false_or, ← hflag, tokensOf_cons hkept, hrest]
    rfl

theorem Gapped.mem_of_mem {x : Text} (h : Gapped x ls ts) :
    ∀ u ∈ ts, (⟨u.kind, u.value⟩ : Lexeme) ∈ ls := by
  induction h with
  | last => simp
  | token _ _ _ _ ih =>
    refine List.forall_mem_cons.mpr ⟨by simp, fun u hu => ?_⟩
    exact List.mem_append_right _ (List.mem_cons_of_mem _ (ih u hu))

/-- The tokens that are read from a text are those between its gaps. -/
theorem exists_gapped_of_tokenize (h : tokenize t = .ok ts) :
    ∃ ls before, LexesTo none t ls before [] ∧ Gapped t ls ts := by
  obtain ⟨ls, before, rest, hls, hrest⟩ := exists_lexesTo none t
  cases rest with
  | cons c rest => rw [hls.tokenize_eq_error (hrest c rest rfl)] at h; cases h
  | nil =>
    rw [tokenize, hls.lexemes_eq] at h
    have hgapped := gapped_of_tokensOf [] (fun l hl => (hls.of_mem l hl).1)
      (by simp [AreGap]) (by simp [textOf]) h
    have htext : textOf ls = t := by rw [← hls.lexemes_eq]; exact lexemes_flatten t
    rw [List.nil_append, htext] at hgapped
    exact ⟨ls, before, hls, hgapped⟩

theorem exists_lexeme?_of_tokenize {u : Token} (h : tokenize t = .ok ts) (hu : u ∈ ts) :
    ∃ before t rest, lexeme? before t = some (⟨u.kind, u.value⟩, rest) := by
  obtain ⟨ls, before, hls, hgapped⟩ := exists_gapped_of_tokenize h
  exact hls.exists_lexeme? _ (hgapped.mem_of_mem u hu)

/-- The tokens of a text are read if lexemes lead to its end: the text consists of the tokens, with
nothing but blanks and comments in front of them, between them and behind them, and a token is
spaced where there are any. A text is refused for a character if lexemes lead to it and it starts
none. -/
theorem tokenize_iff (t : Text) :
    (∀ ts, tokenize t = .ok ts ↔ ∃ ls before, LexesTo none t ls before [] ∧ Gapped t ls ts) ∧
      ∀ c, tokenize t = .error c ↔ ∃ ls before rest,
        LexesTo none t ls before (c :: rest) ∧ StartsNone before (c :: rest) := by
  constructor
  · intro ts
    refine ⟨exists_gapped_of_tokenize, ?_⟩
    rintro ⟨ls, before, hls, hgapped⟩
    rw [tokenize, hls.lexemes_eq]
    exact hgapped.tokensOf_eq fun l hl => (hls.of_mem l hl).1
  · intro c
    constructor
    · intro h
      obtain ⟨ls, before, rest, hls, hrest⟩ := exists_lexesTo none t
      cases rest with
      | cons c' rest =>
        have hnone := hrest c' rest rfl
        rw [hls.tokenize_eq_error hnone] at h
        cases h
        exact ⟨ls, before, rest, hls, hnone⟩
      | nil =>
        obtain ⟨ts, hts⟩ := exists_tokensOf (b := false) fun l hl => (hls.of_mem l hl).2
        rw [tokenize, hls.lexemes_eq, hts] at h
        cases h
    · rintro ⟨ls, before, rest, hls, hnone⟩
      exact hls.tokenize_eq_error hnone

end SchemaMill.Sql
