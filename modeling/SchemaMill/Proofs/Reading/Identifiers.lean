import SchemaMill.Proofs.Lexing.Gaps
import SchemaMill.Proofs.Reading.Clauses

/-!
# Identifiers change their quotes and keep their names

A name that is written in the quotes of a dialect is read as the same name
(`Identifier.ofText_render`), so what a text spells does not change when it is written and read
again (`Identifier.requoted_ofText`). No keyword begins with a quote
(`kind_ne_keyword_of_opensQuoted`). So a token that is a quoted name keeps its name too, in whatever
dialects it is written one after the other (`Token.identifier_foldl_writtenIn`).
-/

namespace SchemaMill.Sql

/-- What is read when an identifier was written in a dialect. -/
def Identifier.requoted (i : Identifier) (d : Dialect) : Identifier := ofText (i.render d)

/-- A token where it was written in a dialect. -/
def Token.writtenIn (t : Token) (d : Dialect) : Token := { t with value := t.render d }

namespace Identifier

variable {i j : Identifier} {d d' : Dialect}

theorem requoted_ofText (v : Text) (d : Dialect) : (ofText v).requoted d = ofText v := by
  by_cases hquoted : (ofText v).quoted
  · exact ofText_render hquoted d
  · have hname := ofText_of_not_quoted (Bool.eq_false_iff.mpr hquoted)
    rw [requoted, render, if_neg hquoted, hname]

/-- Two quoted names that are written alike are the same name in the same dialect. -/
theorem eq_of_render_eq (hi : i.quoted) (hj : j.quoted) (h : i.render d = j.render d') :
    i = j ∧ d = d' := by
  refine ⟨?_, ?_⟩
  · rw [← ofText_render hi d, h, ofText_render hj]
  · rw [render, render, if_pos hi, if_pos hj] at h
    have hquote := (List.cons.inj h).1
    revert hquote
    cases d <;> cases d' <;> decide

theorem opensQuoted_of_quoted {v : Text} (h : (ofText v).quoted) : opensQuoted v := by
  unfold ofText at h
  split at h
  · cases h
  · next c rest =>
    split at h
    · cases h
    · next close hclose => simp [opensQuoted, hclose]

end Identifier

section Tokens

variable {sql : Text} {ts : List Token} {t : Token}

/-- No keyword begins with a quote. -/
theorem kind_ne_keyword_of_opensQuoted (h : tokenize sql = .ok ts) (ht : t ∈ ts)
    (hquote : opensQuoted t.value) : t.kind ≠ .keyword := by
  obtain ⟨before, x, rest, hlexeme⟩ := exists_lexeme?_of_tokenize h ht
  obtain ⟨c, hhead, hc⟩ : ∃ c, t.value.head? = some c ∧ (closingQuote? c).isSome := by
    cases hhead : t.value.head? with
    | none => simp [opensQuoted, hhead] at hquote
    | some c => exact ⟨c, rfl, by simpa [opensQuoted, hhead] using hquote⟩
  have hquotes : c ∈ ['\x60', '"', '['] := by
    by_contra hnot
    simp only [List.mem_cons, List.not_mem_nil, or_false, not_or] at hnot
    simp [closingQuote?, hnot] at hc
  have hspan : ∀ c ∈ ['\x60', '"', '['], c ≠ '/' ∧ c ≠ '$' := by decide
  have hrules : ∀ rule ∈ lexicalRules, ∀ c ∈ ['\x60', '"', '['], rule.1.begins c →
      rule.2 ≠ .keyword := by decide
  obtain ⟨p, hp, hbegins⟩ := exists_rule_of_lexeme? hlexeme hhead (hspan c hquotes)
  exact hrules _ hp c hquotes hbegins

namespace Token

theorem identifier_writtenIn (h : t.kind ≠ .keyword) (d : Dialect) :
    (t.writtenIn d).identifier = t.identifier := by
  show Identifier.ofText (t.render d) = t.identifier
  by_cases hname : t.kind = .name ∧ opensQuoted t.value
  · rw [render, if_pos hname]
    exact Identifier.requoted_ofText t.value d
  · rw [render, if_neg hname, if_neg h]
    rfl

theorem identifier_foldl_writtenIn (h : t.kind ≠ .keyword) (ds : List Dialect) :
    (ds.foldl writtenIn t).identifier = t.identifier := by
  induction ds generalizing t with
  | nil => rfl
  | cons d ds ih => exact (ih (t := t.writtenIn d) h).trans (identifier_writtenIn h d)

end Token

end Tokens

/-- A name in the quotes of any dialect is read as that name in quotes, and different names are
written differently. What a text spells stays the same however often it is written and read again,
in any dialects, and so does the name of a quoted token of a statement. -/
theorem identifiers_requoted :
    (∀ (d : Dialect) (name : Text),
      Identifier.ofText (Identifier.render d ⟨name, true⟩) = ⟨name, true⟩) ∧
    (∀ (d d' : Dialect) (name name' : Text),
      Identifier.render d ⟨name, true⟩ = Identifier.render d' ⟨name', true⟩ →
        name = name' ∧ d = d') ∧
    (∀ (v : Text) (ds : List Dialect),
      ds.foldl Identifier.requoted (Identifier.ofText v) = Identifier.ofText v) ∧
    ∀ (sql : Text) (ts : List Token), tokenize sql = .ok ts → ∀ t ∈ ts, t.identifier.quoted →
      ∀ ds : List Dialect, (ds.foldl Token.writtenIn t).identifier = t.identifier := by
  refine ⟨fun d name => Identifier.ofText_render rfl d, fun d d' name name' h => ?_,
    fun v ds => ?_, fun sql ts hts t ht hquoted ds => ?_⟩
  · obtain ⟨heq, hd⟩ := Identifier.eq_of_render_eq rfl rfl h
    exact ⟨congrArg Identifier.name heq, hd⟩
  · induction ds with
    | nil => rfl
    | cons d ds ih => rw [List.foldl_cons, Identifier.requoted_ofText, ih]
  · have hopens := Identifier.opensQuoted_of_quoted hquoted
    exact Token.identifier_foldl_writtenIn (kind_ne_keyword_of_opensQuoted hts ht hopens) ds

/-- A statement with names in quotes of each kind, in which there are quotes of the other kinds. -/
def quotedNames : Text := "CREATE TABLE [a\"\"b`c] (`d``\"e` INT, \"f`\"\"g\" INT)"

/-- Its quoted names. -/
def quotedTokens : List Token :=
  [⟨.name, "[a\"\"b`c]", true⟩, ⟨.name, "`d``\"e`", false⟩, ⟨.symbol, "\"f`\"\"g\"", true⟩]

theorem identifiers_requoted_quotedNames : ∃ ts, tokenize quotedNames = .ok ts ∧
    ∀ t ∈ quotedTokens, t ∈ ts ∧ t.identifier.quoted ∧
      ([Dialect.postgres, .mysql, .postgres].foldl Token.writtenIn t).identifier =
        t.identifier := by
  have hread : (tokenize quotedNames).toOption.any (quotedTokens ⊆ ·) := by decide +kernel
  have hquoted : ∀ t ∈ quotedTokens, t.identifier.quoted := by decide
  cases hts : tokenize quotedNames with
  | error c => simp [hts, Except.toOption] at hread
  | ok ts =>
    have hsub : quotedTokens ⊆ ts := by simpa [hts, Except.toOption] using hread
    refine ⟨ts, rfl, fun t ht => ⟨hsub ht, hquoted t ht, ?_⟩⟩
    exact identifiers_requoted.2.2.2 quotedNames ts hts t (hsub ht) (hquoted t ht) _

end SchemaMill.Sql
