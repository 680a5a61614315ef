import SchemaMill.Proofs.Lexing.Taking

/-!
# Runs of characters

A repetition of one character class takes the whole run of the class if what follows can be matched
behind it (`Pattern.run_many_one`); no way back is needed then. From it follow the matches of names,
of words and of numbers.
-/

namespace SchemaMill.Sql

namespace Pattern

variable {c found : Cursor} {next : Cursor → Option Cursor} {x r : Text}

theorem run_one {p : Char → Bool} {ch : Char} (hc : c.rest = ch :: r) (hp : p ch) :
    (one p).run c next = next (c.advance [ch] r) := by
  rw [run, hc]
  simp [hp, Cursor.advance]

theorem run_one_eq_none {p : Char → Bool} (h : ∀ ch ∈ c.rest.head?, p ch = false) :
    (one p).run c next = none := by
  rw [run]
  split
  · rfl
  · next ch rest hr => simp [h ch (by simp [hr])]

theorem iterateMany_of_step {step : Cursor → (Cursor → Option Cursor) → Option Cursor}
    {fuel : Text} {ch : Char}
    (h : (step c fun c' => iterateMany step fuel c' next) = some found) :
    iterateMany step (ch :: fuel) c next = some found := by
  rw [iterateMany, h, Option.some_or]

theorem iterateMany_of_stop {step : Cursor → (Cursor → Option Cursor) → Option Cursor}
    (h : ∀ next, step c next = none) (fuel : Text) : iterateMany step fuel c next = next c := by
  cases fuel with
  | nil => rfl
  | cons ch fuel => rw [iterateMany, h, Option.none_or]

theorem iterateMany_one {p : Char → Bool} {fuel : Text} (hfuel : x.length ≤ fuel.length)
    (hc : c.rest = x ++ r) (hx : x.all p) (hr : ∀ ch ∈ r.head?, p ch = false)
    (hnext : next (c.advance x r) = some found) :
    iterateMany (one p).run fuel c next = some found := by
  induction x generalizing c fuel with
  | nil =>
    rw [iterateMany_of_stop fun _ => run_one_eq_none (by rwa [hc])]
    rwa [← Cursor.advance_nil c, hc]
  | cons ch x ih =>
    obtain ⟨f, fuel, rfl⟩ : ∃ f fuel', fuel = f :: fuel' := List.exists_cons_of_length_pos (by
      exact Nat.lt_of_lt_of_le (Nat.succ_pos _) hfuel)
    simp only [List.all_cons, Bool.and_eq_true] at hx
    refine iterateMany_of_step ?_
    rw [run_one (r := x ++ r) hc hx.1]
    refine ih (Nat.le_of_succ_le_succ hfuel) rfl hx.2 ?_
    rwa [Cursor.advance_advance]

/-- A repetition takes the whole run of its class, if what follows can be matched behind it. -/
theorem run_many_one {p : Char → Bool} (hc : c.rest = x ++ r) (hx : x.all p)
    (hr : ∀ ch ∈ r.head?, p ch = false) (hnext : next (c.advance x r) = some found) :
    (many (one p)).run c next = some found :=
  iterateMany_one (by simp [hc]) hc hx hr hnext

theorem run_some1_one {p : Char → Bool} (hc : c.rest = x ++ r) (hne : x ≠ []) (hx : x.all p)
    (hr : ∀ ch ∈ r.head?, p ch = false) (hnext : next (c.advance x r) = some found) :
    (some1 (one p)).run c next = some found := by
  obtain ⟨ch, x, rfl⟩ := List.exists_cons_of_ne_nil hne
  simp only [List.all_cons, Bool.and_eq_true] at hx
  rw [some1, run, run_one (r := x ++ r) hc hx.1]
  refine run_many_one rfl hx.2 hr ?_
  rwa [Cursor.advance_advance]

theorem run_opt_of_none {p : Pattern} (h : p.run c next = none) : (opt p).run c next = next c := by
  rw [opt, run, h, run]

theorem run_alt_of_some {a b : Pattern} (h : a.run c next = some found) :
    (alt a b).run c next = some found := by rw [run, h]

theorem run_alt_of_none {a b : Pattern} (h : a.run c next = none) :
    (alt a b).run c next = b.run c next := by rw [run, h]

theorem run_eq_none {p : Pattern} (h : ∀ d, ¬ p.Takes c d) : p.run c next = none := by
  rw [Option.eq_none_iff_forall_ne_some]
  intro found hf
  obtain ⟨d, hd, _⟩ := run_takes hf
  exact h d hd

/-- A pattern that cannot be empty finds nothing where no character follows that it can begin
with. -/
theorem run_eq_none_of_begins {p : Pattern} (hempty : p.canBeEmpty = false)
    (h : ∀ ch ∈ c.rest.head?, p.begins ch = false) : p.run c next = none := by
  refine run_eq_none fun d hd => ?_
  rcases hd.empty_or_begins with ⟨_, he⟩ | ⟨ch, rest, hr, hb⟩
  · simp [hempty] at he
  · simp [h ch (by simp [hr])] at hb

theorem match?_of_run {p : Pattern} {before : Option Char} {t : Text}
    (h : p.run ⟨before, [], t⟩ some = some ((⟨before, [], t⟩ : Cursor).advance x r)) :
    p.match? before t = some (x, r) := by
  simp [match?, h, Cursor.advance]

end Pattern

/-! ### Lexemes -/

/-- A text is the lexeme of a kind in front of the text `rest`. -/
def LexesAs (before : Option Char) (v rest : Text) (kind : LexemeKind) : Prop :=
  ∃ c t, v = c :: t ∧ nextLexeme before c (t ++ rest) = (⟨kind, v⟩, rest)

theorem span?_eq_none {before : Option Char} {c : Char} {t : Text} (hc : c ≠ '$')
    (hcomment : c = '/' → t.head? ≠ some '*') : span? before (c :: t) = none := by
  have hdrop : dropPrefix? "/*" (c :: t) = none := by
    rw [Option.eq_none_iff_forall_ne_some]
    intro rest h
    cases dropPrefix?_eq_some_iff.mp h
    exact hcomment rfl rfl
  have hquote : dollarQuote.match? before (c :: t) = none :=
    Pattern.match?_eq_none rfl (by
      simpa [dollarQuote, Pattern.all, Pattern.char, Pattern.begins, Pattern.canBeEmpty] using hc)
  rw [span?, hdrop]
  simp [hquote]

theorem lexesAs_of_firstRule? {before : Option Char} {c : Char} {t rest : Text}
    {kind : LexemeKind} (hc : c ≠ '$') (hcomment : c = '/' → (t ++ rest).head? ≠ some '*')
    (h : firstRule? before (c :: (t ++ rest)) lexicalRules = some (⟨kind, c :: t⟩, rest)) :
    LexesAs before (c :: t) rest kind := by
  refine ⟨c, t, rfl, ?_⟩
  rw [nextLexeme, span?_eq_none hc hcomment, Option.none_or, h]
  rfl

end SchemaMill.Sql
