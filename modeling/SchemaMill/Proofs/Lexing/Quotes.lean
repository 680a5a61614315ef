import SchemaMill.Proofs.Lexing.Running
import SchemaMill.Sql.Token

/-!
# Texts in quotes

A name in backquotes, with each backquote inside doubled, is one lexeme if no backquote follows it
(`lexesAs_quotedName`); so is a text in quotes whose body is made of characters other than the
quote, doubled quotes and quotes behind a backslash, unless its last character is a backslash
(`lexesAs_text`, `lexesAs_symbol`). A repetition takes such a body unit by unit (`Pattern.Units`).
-/

namespace SchemaMill.Sql

namespace Pattern

/-- A pattern takes a text unit by unit in front of `r`, where it stops. -/
inductive Units (p : Pattern) : Text → Text → Prop where
  /-- The pattern finds nothing in front of `r`. -/
  | stop {r : Text} (h : ∀ c next, c.rest = r → p.run c next = none) : Units p [] r
  /-- The pattern takes a unit and goes on behind it. -/
  | unit {x body r : Text} (hne : x ≠ [])
      (h : ∀ c next, c.rest = x ++ (body ++ r) → ∀ found,
        next (c.advance x (body ++ r)) = some found → p.run c next = some found)
      (rest : Units p body r) : Units p (x ++ body) r

variable {p : Pattern} {c found : Cursor} {next : Cursor → Option Cursor} {body r : Text}

theorem run_many_units (h : Units p body r) (hc : c.rest = body ++ r)
    (hnext : next (c.advance body r) = some found) : (many p).run c next = some found := by
  have hall : ∀ fuel : Text, body.length ≤ fuel.length →
      iterateMany p.run fuel c next = some found := by
    induction h generalizing c with
    | stop h =>
      intro fuel _
      rw [iterateMany_of_stop fun next => h c next hc]
      rwa [← Cursor.advance_nil c, hc]
    | @unit x body r hne h _ ih =>
      intro fuel hfuel
      obtain ⟨ch, x', rfl⟩ := List.exists_cons_of_ne_nil hne
      obtain ⟨f, fuel, rfl⟩ : ∃ f fuel', fuel = f :: fuel' :=
        List.exists_cons_of_length_pos (Nat.lt_of_lt_of_le (by simp) hfuel)
      refine iterateMany_of_step (h c _ (by rw [hc, List.append_assoc]) found ?_)
      refine ih rfl (by rwa [Cursor.advance_advance]) fuel ?_
      simp only [List.cons_append, List.length_cons, List.length_append] at hfuel
      omega
  exact hall c.rest (by simp [hc])

theorem run_char {ch : Char} (hc : c.rest = ch :: r) :
    (char ch).run c next = next (c.advance [ch] r) :=
  run_one hc (by simp)

theorem run_char_eq_none {ch : Char} (h : c.rest.head? ≠ some ch) :
    (char ch).run c next = none :=
  run_one_eq_none fun ch' hch' => by
    rw [beq_eq_false_iff_ne]
    rintro rfl
    exact h hch'

theorem run_double_eq_none {a b : Char} (hc : c.rest = a :: r) (hr : a = b → r.head? ≠ some b) :
    (seq (char b) (char b)).run c next = none := by
  rw [run]
  by_cases hab : a = b
  · subst hab
    rw [run_char hc]
    exact run_char_eq_none (hr rfl)
  · exact run_char_eq_none (by simpa [hc] using hab)

theorem run_pair {a b : Char} (hc : c.rest = a :: b :: r) :
    (seq (char a) (char b)).run c next = next (c.advance [a, b] r) := by
  rw [run, run_char hc, run_char rfl, Cursor.advance_advance]
  rfl

theorem run_quote {q : Char} (hc : c.rest = q :: (body ++ q :: r)) (hbody : Units p body (q :: r)) :
    (all [char q, many p, char q]).run c some =
      some (c.advance (q :: (body ++ [q])) r) := by
  simp only [all]
  rw [run, run_char hc, run]
  refine run_many_units hbody rfl ?_
  rw [run_char rfl, Cursor.advance_advance, Cursor.advance_advance]
  simp

theorem units_double {q : Char} (hr : r.head? ≠ some q) (n : Text) :
    Units (alt (seq (char q) (char q)) (one (· != q))) (double q n) (q :: r) := by
  induction n with
  | nil =>
    refine .stop fun c next hc => ?_
    rw [run_alt_of_none (run_double_eq_none hc fun _ => hr)]
    exact run_one_eq_none (by simp [hc])
  | cons ch n ih =>
    rw [double]
    split
    · next heq =>
      refine .unit (x := [q, q]) (by simp) (fun c next hc found hnext => ?_) ih
      exact run_alt_of_some ((run_pair hc).trans hnext)
    · next hne =>
      refine .unit (x := [ch]) (by simp) (fun c next hc found hnext => ?_) ih
      rw [run_alt_of_none (run_double_eq_none hc fun h => absurd h hne)]
      exact (run_one hc (by simpa using hne)).trans hnext

end Pattern

open Pattern

/-- A name in quotes with the quotes inside doubled. -/
def quoteName (q : Char) (n : Text) : Text := q :: (double q n ++ [q])

/-- A name in backquotes is one lexeme. -/
theorem lexesAs_quotedName {before : Option Char} {n rest : Text}
    (hrest : rest.head? ≠ some '\x60') : LexesAs before (quoteName '\x60' n) rest .name := by
  refine lexesAs_of_firstRule? (by decide) (fun h => absurd h (by decide)) ?_
  have hfilter : (lexicalRules.filter fun rule => rule.1.begins '\x60') =
      [(quoted '\x60', .name)] := rfl
  have hmatch : (quoted '\x60').match? before ('\x60' :: (double '\x60' n ++ ['\x60'] ++ rest)) =
      some (quoteName '\x60' n, rest) :=
    match?_of_run (run_quote (by simp) (units_double hrest n))
  rw [firstRule?_filter canBeEmpty_lexicalRules, hfilter, firstRule?, hmatch]
  rfl

/-! ### Texts -/

/-- Whether a text may stand between quotes: each quote is doubled or behind a backslash, and no
backslash is left in front of the closing quote. -/
def isQuotedBody (q : Char) : Text → Bool
  | [] => true
  | [c] => c != q && c != '\\'
  | a :: b :: rest =>
    if a = q then b == q && isQuotedBody q rest
    else if a = '\\' ∧ b = q then isQuotedBody q rest
    else isQuotedBody q (b :: rest)

/-- Whether a text is a body between two quotes. -/
def isQuotedText (q : Char) : Text → Bool
  | [] => false
  | c :: t => c == q && t.getLast? == some q && isQuotedBody q t.dropLast

theorem exists_body {q : Char} {v : Text} (h : isQuotedText q v) :
    ∃ body, v = q :: (body ++ [q]) ∧ isQuotedBody q body := by
  cases v with
  | nil => cases h
  | cons c t =>
    simp only [isQuotedText, Bool.and_eq_true, beq_iff_eq] at h
    obtain ⟨⟨rfl, hlast⟩, hbody⟩ := h
    rcases List.eq_nil_or_concat t with rfl | ⟨body, q, rfl⟩
    · cases hlast
    · rw [List.concat_eq_append] at hlast hbody ⊢
      cases (by simpa using hlast : q = c)
      exact ⟨body, rfl, by simpa using hbody⟩

namespace Pattern

variable {r body : Text}

/-- What may stand between quotes of a text, unit by unit. -/
def textUnit (q : Char) : Pattern :=
  any [seq (char q) (char q), seq (char '\\') (char q), one (· != q)]

theorem textUnit_eq (q : Char) : textUnit q = alt (seq (char q) (char q))
    (alt (seq (char '\\') (char q)) (one (· != q))) := rfl

/-- A character that is no quote and escapes none is a unit. -/
theorem run_textUnit {q ch : Char} {c found : Cursor} {next : Cursor → Option Cursor}
    (hc : c.rest = ch :: r) (hch : ch ≠ q) (hr : ch = '\\' → r.head? ≠ some q)
    (hnext : next (c.advance [ch] r) = some found) : (textUnit q).run c next = some found := by
  rw [textUnit_eq, run_alt_of_none (run_double_eq_none hc fun h => absurd h hch),
    run_alt_of_none]
  · exact (run_one hc (by simpa using hch)).trans hnext
  · rw [run]
    by_cases hback : ch = '\\'
    · subst hback
      rw [run_char hc]
      exact run_char_eq_none (hr rfl)
    · exact run_char_eq_none (by simpa [hc] using hback)

theorem units_quotedBody {q : Char} (hq : q ≠ '\\') (hr : r.head? ≠ some q)
    (hbody : isQuotedBody q body) : Units (textUnit q) body (q :: r) := by
  have hstop : Units (textUnit q) [] (q :: r) := by
    refine .stop fun c next hc => ?_
    rw [textUnit_eq, run_alt_of_none (run_double_eq_none hc fun _ => hr), run_alt_of_none]
    · exact run_one_eq_none (by simp [hc])
    · rw [run]
      exact run_char_eq_none (by simpa [hc] using hq)
  fun_induction isQuotedBody q body with
  | case1 => exact hstop
  | case2 ch =>
    simp only [Bool.and_eq_true, bne_iff_ne] at hbody
    exact .unit (x := [ch]) (by simp) (fun c next hc found hnext =>
      run_textUnit hc hbody.1 (fun h => absurd h hbody.2) hnext) hstop
  | case3 b rest ih =>
    simp only [Bool.and_eq_true, beq_iff_eq] at hbody
    obtain ⟨rfl, hbody⟩ := hbody
    exact .unit (x := [b, b]) (by simp) (fun c next hc found hnext =>
      run_alt_of_some ((run_pair hc).trans hnext)) (ih hbody)
  | case4 a b rest hne hescape ih =>
    obtain ⟨rfl, rfl⟩ := hescape
    refine .unit (x := ['\\', b]) (by simp) (fun c next hc found hnext => ?_) (ih hbody)
    rw [textUnit_eq, run_alt_of_none (run_double_eq_none hc fun h => absurd h hne)]
    exact run_alt_of_some ((run_pair hc).trans hnext)
  | case5 a b rest hne hescape ih =>
    refine .unit (x := [a]) (by simp) (fun c next hc found hnext =>
      run_textUnit hc hne (fun h => ?_) hnext) (ih hbody)
    simpa using fun hb => hescape ⟨h, hb⟩

theorem match?_quotedEscaped {q : Char} {before : Option Char} (hq : q ≠ '\\')
    (hr : r.head? ≠ some q) (hbody : isQuotedBody q body) :
    (quotedEscaped q).match? before (q :: (body ++ [q] ++ r)) = some (q :: (body ++ [q]), r) :=
  match?_of_run (run_quote (by simp) (units_quotedBody hq hr hbody))

end Pattern

/-- A text in single quotes is one lexeme. -/
theorem lexesAs_text {before : Option Char} {v rest : Text} (hv : isQuotedText '\'' v)
    (hrest : rest.head? ≠ some '\'') : LexesAs before v rest .text := by
  obtain ⟨body, rfl, hbody⟩ := exists_body hv
  refine lexesAs_of_firstRule? (by decide) (fun h => absurd h (by decide)) ?_
  have hfilter : (lexicalRules.filter fun rule => rule.1.begins '\'') =
      [(quotedEscaped '\'', .text)] := rfl
  rw [firstRule?_filter canBeEmpty_lexicalRules, hfilter, firstRule?,
    match?_quotedEscaped (by decide) hrest hbody]

/-- A text in double quotes is one lexeme. -/
theorem lexesAs_symbol {before : Option Char} {v rest : Text} (hv : isQuotedText '"' v)
    (hrest : rest.head? ≠ some '"') : LexesAs before v rest .symbol := by
  obtain ⟨body, rfl, hbody⟩ := exists_body hv
  refine lexesAs_of_firstRule? (by decide) (fun h => absurd h (by decide)) ?_
  have hfilter : (lexicalRules.filter fun rule => rule.1.begins '"') =
      [(quotedEscaped '"', .symbol), (alt (literal "\"\"") (all [char '"', shortLine,
        one (· != '\\'), char '"']), .symbol)] := rfl
  rw [firstRule?_filter canBeEmpty_lexicalRules, hfilter, firstRule?,
    match?_quotedEscaped (by decide) hrest hbody]

end SchemaMill.Sql
