import Mathlib
import SchemaMill.Sql.Lexeme

/-!
# What a pattern can take

`Pattern.run` searches for the first way through a pattern. `Pattern.Takes` says which ways there
are, without their order: it relates a position to every position that a way through the pattern
leads to. A match found is one of them (`Pattern.run_takes`), so what no way leads to is never
found.

A first application: a pattern that cannot be empty takes a first character that it can begin with
(`Pattern.Takes.begins`), so at a given character only the rules that can begin with it need to be
tried (`firstRule?_filter`).
-/

namespace SchemaMill.Sql

namespace Cursor

/-- The position after a further text has been taken, with `rest` left. -/
def advance (c : Cursor) (x rest : Text) : Cursor := ⟨c.before, x.reverse ++ c.taken, rest⟩

@[simp] theorem advance_rest (c : Cursor) (x rest : Text) : (c.advance x rest).rest = rest := rfl

theorem advance_advance (c : Cursor) (x y r s : Text) :
    (c.advance x r).advance y s = c.advance (x ++ y) s := by simp [advance]

theorem advance_nil (c : Cursor) : c.advance [] c.rest = c := rfl

theorem previous_advance (c : Cursor) {x : Text} (rest : Text) (h : x ≠ []) :
    (c.advance x rest).previous = x.getLast? := by
  rcases List.eq_nil_or_concat x with rfl | ⟨y, a, rfl⟩
  · exact absurd rfl h
  · simp [advance, previous]

end Cursor

namespace Pattern

/-- The pairs of positions between which a pattern has a way. -/
def Takes : Pattern → Cursor → Cursor → Prop
  | one p, c, d => ∃ ch rest, c.rest = ch :: rest ∧ p ch ∧ d = c.advance [ch] rest
  | nothing, c, d => d = c
  | seq a b, c, d => ∃ e, Takes a c e ∧ Takes b e d
  | alt a b, c, d => Takes a c d ∨ Takes b c d
  | many a, c, d => Relation.ReflTransGen (Takes a) c d
  | few a, c, d => Relation.ReflTransGen (Takes a) c d
  | ahead a, c, d => d = c ∧ ∃ e, Takes a c e
  | notAhead a, c, d => d = c ∧ a.run c some = none
  | after p, c, d => d = c ∧ c.previous.any p
  | notAfter p, c, d => d = c ∧ ¬ c.previous.any p
  | wordEdge, c, d => d = c ∧ atWordEdge c
  | textEnd, c, d => d = c ∧ (c.rest = [] ∨ c.rest = ['\n'])

section Search

/-- A step of a match leads only to positions that a relation allows. -/
def Finds (step : Cursor → (Cursor → Option Cursor) → Option Cursor)
    (leads : Cursor → Cursor → Prop) : Prop :=
  ∀ c next found, step c next = some found → ∃ d, leads c d ∧ next d = some found

variable {step : Cursor → (Cursor → Option Cursor) → Option Cursor}
  {leads : Cursor → Cursor → Prop}

theorem iterateMany_finds (h : Finds step leads) (fuel : Text) :
    Finds (iterateMany step fuel) (Relation.ReflTransGen leads) := by
  induction fuel with
  | nil => intro c next found hf; exact ⟨c, .refl, hf⟩
  | cons _ fuel ih =>
    intro c next found hf
    rw [iterateMany, Option.or_eq_some_iff] at hf
    rcases hf with hf | ⟨_, hf⟩
    · obtain ⟨d, hd, hf⟩ := h _ _ _ hf
      obtain ⟨e, he, hf⟩ := ih _ _ _ hf
      exact ⟨e, .head hd he, hf⟩
    · exact ⟨c, .refl, hf⟩

theorem iterateFew_finds (h : Finds step leads) (fuel : Text) :
    Finds (iterateFew step fuel) (Relation.ReflTransGen leads) := by
  induction fuel with
  | nil => intro c next found hf; exact ⟨c, .refl, hf⟩
  | cons _ fuel ih =>
    intro c next found hf
    rw [iterateFew, Option.or_eq_some_iff] at hf
    rcases hf with hf | ⟨_, hf⟩
    · exact ⟨c, .refl, hf⟩
    · obtain ⟨d, hd, hf⟩ := h _ _ _ hf
      obtain ⟨e, he, hf⟩ := ih _ _ _ hf
      exact ⟨e, .head hd he, hf⟩

end Search

theorem run_finds (p : Pattern) : Finds p.run p.Takes := by
  induction p with
  | one p =>
    intro c next found hf
    rw [run] at hf
    split at hf
    · cases hf
    · next ch rest hr =>
      split at hf
      · next hp => exact ⟨_, ⟨ch, rest, hr, hp, rfl⟩, hf⟩
      · cases hf
  | nothing => intro c next found hf; exact ⟨c, rfl, hf⟩
  | seq a b iha ihb =>
    intro c next found hf
    obtain ⟨e, he, hf⟩ := iha _ _ _ hf
    obtain ⟨d, hd, hf⟩ := ihb _ _ _ hf
    exact ⟨d, ⟨e, he, hd⟩, hf⟩
  | alt a b iha ihb =>
    intro c next found hf
    rw [run] at hf
    split at hf
    · next hd =>
      cases hf
      obtain ⟨d, hd, hf⟩ := iha _ _ _ hd
      exact ⟨d, .inl hd, hf⟩
    · obtain ⟨d, hd, hf⟩ := ihb _ _ _ hf
      exact ⟨d, .inr hd, hf⟩
  | many a ih => intro c next found hf; exact iterateMany_finds ih _ _ _ _ hf
  | few a ih => intro c next found hf; exact iterateFew_finds ih _ _ _ _ hf
  | ahead a ih =>
    intro c next found hf
    rw [run] at hf
    split at hf
    · next ha =>
      obtain ⟨e, he⟩ := Option.isSome_iff_exists.mp ha
      obtain ⟨d, hd, _⟩ := ih _ _ _ he
      exact ⟨c, ⟨rfl, d, hd⟩, hf⟩
    · cases hf
  | notAhead a =>
    intro c next found hf
    rw [run] at hf
    split at hf
    · cases hf
    · next ha => exact ⟨c, ⟨rfl, Option.not_isSome_iff_eq_none.mp ha⟩, hf⟩
  | textEnd =>
    intro c next found hf
    rw [run] at hf
    split at hf
    · next hr => exact ⟨c, ⟨rfl, .inl hr⟩, hf⟩
    · next hr => exact ⟨c, ⟨rfl, .inr hr⟩, hf⟩
    · cases hf
  | after p =>
    intro c next found hf
    rw [run] at hf
    split at hf
    · next hp => exact ⟨c, ⟨rfl, hp⟩, hf⟩
    · cases hf
  | notAfter p =>
    intro c next found hf
    rw [run] at hf
    split at hf
    · cases hf
    · next hp => exact ⟨c, ⟨rfl, hp⟩, hf⟩
  | wordEdge =>
    intro c next found hf
    rw [run] at hf
    split at hf
    · next he => exact ⟨c, ⟨rfl, he⟩, hf⟩
    · cases hf

/-- What a search finds lies on a way through the pattern. -/
theorem run_takes {p : Pattern} {c found : Cursor} {next : Cursor → Option Cursor}
    (h : p.run c next = some found) : ∃ d, p.Takes c d ∧ next d = some found :=
  run_finds p _ _ _ h

/-- A way through a pattern takes a text from the front of what is left. -/
theorem Takes.eq_advance {p : Pattern} {c d : Cursor} (h : p.Takes c d) :
    ∃ x, c.rest = x ++ d.rest ∧ d = c.advance x d.rest := by
  induction p generalizing c d with
  | one p =>
    obtain ⟨ch, rest, hr, _, rfl⟩ := h
    exact ⟨[ch], hr, rfl⟩
  | seq a b iha ihb =>
    obtain ⟨e, he, hd⟩ := h
    obtain ⟨x, hx, he⟩ := iha he
    obtain ⟨y, hy, hd⟩ := ihb hd
    refine ⟨x ++ y, by rw [hx, hy, List.append_assoc], ?_⟩
    rw [← Cursor.advance_advance, ← he]
    exact hd
  | alt a b iha ihb => exact h.elim iha ihb
  | many a ih | few a ih =>
    induction h with
    | refl => exact ⟨[], rfl, rfl⟩
    | @tail e d _ hd ihd =>
      obtain ⟨x, hx, he⟩ := ihd
      obtain ⟨y, hy, hd⟩ := ih hd
      refine ⟨x ++ y, by rw [hx, hy, List.append_assoc], ?_⟩
      rw [← Cursor.advance_advance, ← he]
      exact hd
  | nothing => cases h; exact ⟨[], rfl, rfl⟩
  | _ => cases h.1; exact ⟨[], rfl, rfl⟩

/-- A match is a way through the pattern from the start of the text. -/
theorem match?_takes {p : Pattern} {before : Option Char} {t x r : Text}
    (h : p.match? before t = some (x, r)) :
    t = x ++ r ∧ p.Takes ⟨before, [], t⟩ ((⟨before, [], t⟩ : Cursor).advance x r) := by
  obtain ⟨d, hd, hx⟩ := Option.map_eq_some_iff.mp h
  cases hx
  obtain ⟨e, he, hd⟩ := run_takes hd
  cases hd
  refine ⟨(match?_append h).symm, ?_⟩
  obtain ⟨y, hy, heq⟩ := he.eq_advance
  rw [heq] at he ⊢
  simpa [Cursor.advance] using he

/-! ### First characters -/

/-- Whether a pattern has a way that takes nothing, looking around apart. -/
def canBeEmpty : Pattern → Bool
  | one _ => false
  | seq a b => a.canBeEmpty && b.canBeEmpty
  | alt a b => a.canBeEmpty || b.canBeEmpty
  | _ => true

/-- Whether a pattern has a way that takes a given character first, looking around apart. -/
def begins (ch : Char) : Pattern → Bool
  | one p => p ch
  | seq a b => a.begins ch || (a.canBeEmpty && b.begins ch)
  | alt a b => a.begins ch || b.begins ch
  | many a => a.begins ch
  | few a => a.begins ch
  | _ => false

theorem Takes.empty_or_begins {p : Pattern} {c d : Cursor} (h : p.Takes c d) :
    (d = c ∧ p.canBeEmpty) ∨ ∃ ch rest, c.rest = ch :: rest ∧ p.begins ch := by
  induction p generalizing c d with
  | one p =>
    obtain ⟨ch, rest, hr, hp, _⟩ := h
    exact .inr ⟨ch, rest, hr, hp⟩
  | seq a b iha ihb =>
    obtain ⟨e, he, hd⟩ := h
    rcases iha he with ⟨rfl, ha⟩ | ⟨ch, rest, hr, ha⟩
    · rcases ihb hd with ⟨rfl, hb⟩ | ⟨ch, rest, hr, hb⟩
      · exact .inl ⟨rfl, by simp [canBeEmpty, ha, hb]⟩
      · exact .inr ⟨ch, rest, hr, by simp [begins, ha, hb]⟩
    · exact .inr ⟨ch, rest, hr, by simp [begins, ha]⟩
  | alt a b iha ihb =>
    rcases h with h | h
    · rcases iha h with ⟨rfl, ha⟩ | ⟨ch, rest, hr, ha⟩
      · exact .inl ⟨rfl, by simp [canBeEmpty, ha]⟩
      · exact .inr ⟨ch, rest, hr, by simp [begins, ha]⟩
    · rcases ihb h with ⟨rfl, hb⟩ | ⟨ch, rest, hr, hb⟩
      · exact .inl ⟨rfl, by simp [canBeEmpty, hb]⟩
      · exact .inr ⟨ch, rest, hr, by simp [begins, hb]⟩
  | many a ih | few a ih =>
    induction h using Relation.ReflTransGen.head_induction_on with
    | refl => exact .inl ⟨rfl, rfl⟩
    | head hc _ ihd =>
      rcases ih hc with ⟨rfl, _⟩ | found
      · exact ihd
      · exact .inr found
  | nothing => exact .inl ⟨h, rfl⟩
  | _ => exact .inl ⟨h.1, rfl⟩

theorem match?_eq_none {p : Pattern} {before : Option Char} {ch : Char} {t : Text}
    (hempty : p.canBeEmpty = false) (hbegins : p.begins ch = false) :
    p.match? before (ch :: t) = none := by
  rw [Option.eq_none_iff_forall_ne_some]
  rintro ⟨x, r⟩ h
  rcases (match?_takes h).2.empty_or_begins with ⟨_, he⟩ | ⟨ch', rest, hr, hb⟩
  · simp [hempty] at he
  · cases hr
    simp [hbegins] at hb

end Pattern

/-- At a character only the rules that can begin with it count. -/
theorem firstRule?_filter {before : Option Char} {ch : Char} {t : Text}
    {rules : List (Pattern × LexemeKind)} (h : ∀ rule ∈ rules, rule.1.canBeEmpty = false) :
    firstRule? before (ch :: t) rules =
      firstRule? before (ch :: t) (rules.filter fun rule => rule.1.begins ch) := by
  induction rules with
  | nil => rfl
  | cons rule rules ih =>
    have hrest := ih fun r hr => h r (List.mem_cons_of_mem _ hr)
    rw [List.filter_cons]
    split
    · rw [firstRule?, firstRule?, hrest]
    · next hb =>
      rw [firstRule?, Pattern.match?_eq_none (h rule List.mem_cons_self) (by simpa using hb), hrest]

theorem canBeEmpty_lexicalRules : ∀ rule ∈ lexicalRules, rule.1.canBeEmpty = false := by
  decide

end SchemaMill.Sql
