import SchemaMill.Proofs.Lexing.Keywords
import SchemaMill.Proofs.Lexing.Quotes
import SchemaMill.Proofs.Lexing.Signs
import SchemaMill.Sql.Token

/-!
# Layouts

A layout is a list of tokens with the blanks that are written in front of each. Its text reads as
its tokens, if each of them is told apart from the text around it (`tokenize_spell`); whether a word
is read as a keyword or as a name depends on what stands around it, and is left open
(`Token.asName`).
-/

namespace SchemaMill.Sql

open Pattern

/-! ### Keywords and names -/

namespace Token

/-- The token with a keyword taken for a name, if it is written as one. -/
def asName (t : Token) : Token :=
  if t.kind = .keyword ∧ opensQuoted t.value = false ∧ collapseBlanks t.value = t.value then
    { t with kind := .name }
  else t

@[simp] theorem asName_value (t : Token) : t.asName.value = t.value := by
  rw [asName]; split <;> rfl

@[simp] theorem asName_spaced (t : Token) : t.asName.spaced = t.spaced := by
  rw [asName]; split <;> rfl

@[simp] theorem asName_word (t : Token) : t.asName.word = t.word := by
  rw [asName]
  split
  · next h => simp [word, h.1]
  · rfl

@[simp] theorem asName_isIdentifier (t : Token) : t.asName.isIdentifier = t.isIdentifier := by
  rw [asName]
  split
  · next h =>
    rw [isIdentifier, isIdentifier, h.1]
    rfl
  · rfl

@[simp] theorem asName_render (t : Token) (d : Dialect) : t.asName.render d = t.render d := by
  rw [asName]
  split
  · next h => simp [render, h.1, h.2.1, h.2.2]
  · rfl

end Token

theorem asName_eq_of_word {v : Text} {kind kind' : LexemeKind} {b : Bool}
    (hquote : opensQuoted v = false) (hcollapse : collapseBlanks v = v)
    (hkind : [.keyword, .name].contains kind) (hkind' : [.keyword, .name].contains kind') :
    (⟨kind, v, b⟩ : Token).asName = (⟨kind', v, b⟩ : Token).asName := by
  have hname : ∀ {kind : LexemeKind}, [.keyword, .name].contains kind →
      (⟨kind, v, b⟩ : Token).asName = ⟨.name, v, b⟩ := by
    intro kind hkind
    rcases (by simpa using hkind : kind = .keyword ∨ kind = .name) with rfl | rfl <;>
      simp [Token.asName, hquote, hcollapse]
  rw [hname hkind, hname hkind']

/-! ### Words without quotes and blanks -/

theorem opensQuoted_of_isWordChar {c : Char} {t : Text} (hc : isWordChar c) :
    opensQuoted (c :: t) = false := by
  have hquotes : ∀ q ∈ ['\x60', '"', '['], isWordChar q = false := by decide
  have hne : ∀ q ∈ ['\x60', '"', '['], c ≠ q := by
    rintro q hq rfl
    simp [hquotes c hq] at hc
  simp [opensQuoted, closingQuote?, hne]

theorem isSolid_of_all_isWordChar {v : Text} (hne : v ≠ []) (hv : v.all isWordChar) : IsSolid v :=
  ⟨hne, fun c hc => isBlank_eq_false_of_isWordChar (List.all_eq_true.mp hv c hc)⟩

theorem collapseBlanks_of_isSolid {v : Text} (h : IsSolid v) : collapseBlanks v = v := by
  simpa [joinWith] using collapseBlanks_joinWith (List.forall_mem_singleton.mpr h)

/-! ### Tokens told apart -/

/-- Whether a word or a keyword of several words is told apart from the text around it. -/
def isWordApart (before : Option Char) (rest v : Text) : Bool :=
  (isPlainWord v && endsPlainWord v rest) ||
    (isPhraseText v && rest.head?.all (!isWordChar ·) && before != some '.')

/-- Whether a text is a name in backquotes. -/
def isQuotedName (v : Text) : Bool :=
  (Identifier.ofText v).quoted && (Identifier.ofText v).render .mysql == v

/-- Whether a token that is written between `before` and `rest` is read as it is, a keyword perhaps
as a name or the other way round. -/
def isApart (before : Option Char) (rest : Text) (t : Token) : Bool :=
  match t.kind with
  | .keyword => isWordApart before rest t.value
  | .name =>
    isWordApart before rest t.value || (isQuotedName t.value && rest.head? != some '\x60')
  | .number => (isNumberText t.value && endsNumber rest) || isHexadecimalApart rest t.value
  | .text => isQuotedText '\'' t.value && rest.head? != some '\''
  | .symbol => isQuotedText '"' t.value && rest.head? != some '"'
  | .operator => signKind? rest t.value == some .operator || isLikeApart before rest t.value
  | kind => signKind? rest t.value == some kind

/-- The kind of lexeme is one of those that tokens have. -/
def LexemeKind.isKept (kind : LexemeKind) : Bool :=
  !([.blank, .comment, .stray] : List LexemeKind).contains kind

variable {before : Option Char} {rest v : Text}

theorem isKept_of_signKind? {kind : LexemeKind} (h : signKind? rest v = some kind) :
    kind.isKept := by
  unfold signKind? at h
  split at h <;> (try split at h) <;> cases h <;> rfl

theorem lexesAs_of_isWordApart (h : isWordApart before rest v) :
    ∃ kind, [.keyword, .name].contains kind ∧ LexesAs before v rest kind := by
  simp only [isWordApart, Bool.or_eq_true, Bool.and_eq_true, bne_iff_ne] at h
  rcases h with hword | ⟨⟨hphrase, hends⟩, hbefore⟩
  · exact (plainWord_iff.mpr hword).lexesAs before
  · have hends : EndsWord rest := fun c hc => by simpa [Option.mem_def.mp hc] using hends
    obtain ⟨ws, h⟩ := phraseText_of_isPhraseText hphrase hends
    exact h.lexesAs hbefore

theorem collapseBlanks_of_isWordApart (h : isWordApart before rest v) : collapseBlanks v = v := by
  simp only [isWordApart, Bool.or_eq_true, Bool.and_eq_true] at h
  rcases h with hword | ⟨⟨hphrase, -⟩, -⟩
  · have hword := plainWord_iff.mpr hword
    exact collapseBlanks_of_isSolid (isSolid_of_all_isWordChar hword.ne_nil hword.all_word)
  · exact collapseBlanks_of_isPhraseText hphrase

theorem exists_cons_of_isWordApart (h : isWordApart before rest v) :
    ∃ c t, v = c :: t ∧ isWordChar c := by
  simp only [isWordApart, Bool.or_eq_true, Bool.and_eq_true] at h
  rcases h with hword | ⟨⟨hphrase, -⟩, -⟩
  · obtain ⟨c, t, hv, hc⟩ := (plainWord_iff.mpr hword).exists_cons
    exact ⟨c, t, hv, hc.isWordChar⟩
  · have hends : EndsWord [] := by simp [EndsWord]
    obtain ⟨ws, h⟩ := phraseText_of_isPhraseText hphrase hends
    obtain ⟨a, g, c, t, rfl, -, -, -, hfirst⟩ := h.first_word
    obtain ⟨d, a, rfl, hd⟩ := hfirst.exists_cons
    exact ⟨d, _, rfl, hd.isWordChar⟩

theorem opensQuoted_of_isWordApart (h : isWordApart before rest v) : opensQuoted v = false := by
  obtain ⟨c, t, rfl, hc⟩ := exists_cons_of_isWordApart h
  exact opensQuoted_of_isWordChar hc

/-- A token that is told apart is one lexeme, of its kind but for keywords and names. -/
theorem lexesAs_of_isApart {t : Token} (h : isApart before rest t) :
    ∃ kind, LexesAs before t.value rest kind ∧ kind.isKept ∧
      ∀ b, (⟨kind, t.value, b⟩ : Token).asName = ({ t with spaced := b } : Token).asName := by
  obtain ⟨kind, v, b⟩ := t
  have hword : isWordApart before rest v → [.keyword, .name].contains kind →
      ∃ kind', LexesAs before v rest kind' ∧ kind'.isKept ∧
        ∀ b, (⟨kind', v, b⟩ : Token).asName = (⟨kind, v, b⟩ : Token).asName := by
    intro h hkind
    obtain ⟨kind', hkind', hlex⟩ := lexesAs_of_isWordApart h
    refine ⟨kind', hlex, ?_, fun b => asName_eq_of_word (opensQuoted_of_isWordApart h)
      (collapseBlanks_of_isWordApart h) hkind' hkind⟩
    rcases (by simpa using hkind' : kind' = .keyword ∨ kind' = .name) with rfl | rfl <;> rfl
  unfold isApart at h
  split at h
  · next hkind => exact hword h (by simp_all)
  · next hkind =>
    rw [Bool.or_eq_true] at h
    rcases h with h | h
    · exact hword h (by simp_all)
    · cases hkind
      rw [Bool.and_eq_true, isQuotedName, Bool.and_eq_true, beq_iff_eq, bne_iff_ne] at h
      obtain ⟨⟨hquoted, hrender⟩, hrest⟩ := h
      rw [Identifier.render, if_pos hquoted] at hrender
      refine ⟨.name, ?_, rfl, fun b => rfl⟩
      rw [← hrender]
      exact lexesAs_quotedName hrest
  · next hkind =>
    cases hkind
    rw [Bool.or_eq_true, Bool.and_eq_true] at h
    exact ⟨.number, h.elim (fun h => lexesAs_number h.1 h.2) lexesAs_hexadecimal, rfl, fun b => rfl⟩
  · next hkind =>
    cases hkind
    rw [Bool.and_eq_true, bne_iff_ne] at h
    exact ⟨.text, lexesAs_text h.1 h.2, rfl, fun b => rfl⟩
  · next hkind =>
    cases hkind
    rw [Bool.and_eq_true, bne_iff_ne] at h
    exact ⟨.symbol, lexesAs_symbol h.1 h.2, rfl, fun b => rfl⟩
  · next hkind =>
    cases hkind
    rw [Bool.or_eq_true, beq_iff_eq] at h
    exact ⟨.operator, h.elim lexesAs_sign lexesAs_of_isLikeApart, rfl, fun b => rfl⟩
  · rw [beq_iff_eq] at h
    exact ⟨kind, lexesAs_sign h, isKept_of_signKind? h, fun b => rfl⟩

/-! ### Layouts -/

/-- A token with the blanks that are written in front of it. -/
structure Placed where
  gap : Text
  token : Token
  deriving DecidableEq, Repr

namespace Placed

/-- The text of a token and the blanks in front of it. -/
def text (p : Placed) : Text := p.gap ++ p.token.value

/-- The token as it is read where it is placed. -/
def read (p : Placed) : Token := { p.token with spaced := !p.gap.isEmpty }

end Placed

/-- The text of a layout. -/
def spell (ps : List Placed) : Text := ps.flatMap Placed.text

/-- Whether a blank is one that a layout may have: a space or a line feed. -/
def isGap (c : Char) : Bool := c == ' ' || c == '\n'

/-- Whether each token of a layout behind the character `before` is told apart. -/
def allApart (before : Option Char) : List Placed → Bool
  | [] => true
  | p :: ps =>
    p.gap.all isGap && isApart (p.gap.getLast?.or before) (spell ps) p.token &&
      allApart p.token.value.getLast? ps

theorem lexemesFrom_of_lexesAs {kind : LexemeKind} (h : LexesAs before v rest kind) :
    lexemesFrom before (v ++ rest) = ⟨kind, v⟩ :: lexemesFrom v.getLast? rest := by
  obtain ⟨c, t, rfl, hnext⟩ := h
  rw [List.cons_append, lexemesFrom, hnext]

theorem lexesAs_gap {c : Char} (hc : isGap c) : LexesAs before [c] rest .blank := by
  rcases (by simpa [isGap] using hc : c = ' ' ∨ c = '\n') with rfl | rfl
  · exact lexesAs_of_filter [(blank, .blank)] rfl (by decide) (fun h => absurd h (by decide))
      (firstRule?_of_match? (match?_one (by decide)))
  · have hbreak : lineBreak.match? before ('\n' :: rest) = some (['\n'], rest) := by
      refine match?_of_run ?_
      simp only [lineBreak, any]
      rw [run_alt_of_none (run_eq_none_of_begins rfl (by rintro _ ⟨⟩; decide)),
        run_alt_of_none (run_char_eq_none (by simp)), run_char rfl]
    exact lexesAs_of_filter [(lineBreak, .blank), (blank, .blank)] rfl (by decide)
      (fun h => absurd h (by decide)) (firstRule?_of_match? hbreak)

/-- The blanks in front of a token only tell that it is spaced. -/
theorem tokensOf_gap {gap : Text} (hgap : gap.all isGap) (b : Bool) :
    tokensOf b (lexemesFrom before (gap ++ rest)) =
      tokensOf (b || !gap.isEmpty) (lexemesFrom (gap.getLast?.or before) rest) := by
  induction gap generalizing before b with
  | nil => simp
  | cons c gap ih =>
    rw [List.all_cons, Bool.and_eq_true] at hgap
    have hlex : lexemesFrom before (c :: (gap ++ rest)) =
        ⟨.blank, [c]⟩ :: lexemesFrom [c].getLast? (gap ++ rest) :=
      lexemesFrom_of_lexesAs (lexesAs_gap hgap.1)
    have hlast : gap.getLast?.or (some c) = (c :: gap).getLast?.or before := by
      rw [List.getLast?_cons]
      cases gap.getLast? <;> rfl
    rw [List.cons_append, hlex]
    change tokensOf true _ = _
    rw [ih hgap.2, List.getLast?_singleton, hlast]
    simp

theorem tokensOf_cons {kind : LexemeKind} (hkind : kind.isKept) (b : Bool) (ls : List Lexeme) :
    tokensOf b (⟨kind, v⟩ :: ls) = (tokensOf false ls).map (⟨kind, v, b⟩ :: ·) := by
  cases kind <;> first | rfl | cases hkind

/-- The text of a layout reads as its tokens. -/
theorem tokensOf_spell {ps : List Placed} (h : allApart before ps) :
    ∃ ts, tokensOf false (lexemesFrom before (spell ps)) = .ok ts ∧
      ts.map Token.asName = ps.map fun p => p.read.asName := by
  induction ps generalizing before with
  | nil => exact ⟨[], by simp [spell, lexemesFrom, tokensOf], rfl⟩
  | cons p ps ih =>
    simp only [allApart, Bool.and_eq_true] at h
    obtain ⟨⟨hgap, hapart⟩, hrest⟩ := h
    obtain ⟨kind, hlex, hkind, hname⟩ := lexesAs_of_isApart hapart
    obtain ⟨ts, hts, hmap⟩ := ih hrest
    have hspell : spell (p :: ps) = p.gap ++ (p.token.value ++ spell ps) := by
      simp [spell, Placed.text]
    refine ⟨⟨kind, p.token.value, !p.gap.isEmpty⟩ :: ts, ?_, ?_⟩
    · rw [hspell, tokensOf_gap hgap, lexemesFrom_of_lexesAs hlex, tokensOf_cons hkind, hts]
      rfl
    · rw [List.map_cons, List.map_cons, hmap, hname]
      rfl

/-- The text of a layout is read as its tokens. -/
theorem tokenize_spell {ps : List Placed} (h : allApart none ps) :
    ∃ ts, tokenize (spell ps) = .ok ts ∧ ts.map Token.asName = ps.map fun p => p.read.asName :=
  tokensOf_spell h

end SchemaMill.Sql
