import SchemaMill.Proofs.Lexing.Spacing
import SchemaMill.Proofs.Lexing.Taking

/-!
# The texts that a pattern takes

Without what it looks at around them, a pattern takes texts that are put together as the pattern is
(`Pattern.Yields`). What can be the first and the last character of such a text, and whether a line
feed can stand in it, is read off the pattern.
-/

namespace SchemaMill.Sql

namespace Pattern

variable {p : Pattern} {x : Text}

/-! ### What a pattern takes -/

/-- The texts that a pattern can take, looking around apart. -/
inductive Yields : Pattern → Text → Prop where
  | one {p : Char → Bool} {ch : Char} (h : p ch) : Yields (one p) [ch]
  | seq {a b : Pattern} {x y : Text} (hx : Yields a x) (hy : Yields b y) : Yields (seq a b) (x ++ y)
  | left {a b : Pattern} {x : Text} (h : Yields a x) : Yields (alt a b) x
  | right {a b : Pattern} {x : Text} (h : Yields b x) : Yields (alt a b) x
  | manyNil {a : Pattern} : Yields (many a) []
  | many {a : Pattern} {x y : Text} (hx : Yields (many a) x) (hy : Yields a y) :
    Yields (many a) (x ++ y)
  | fewNil {a : Pattern} : Yields (few a) []
  | few {a : Pattern} {x y : Text} (hx : Yields (few a) x) (hy : Yields a y) :
    Yields (few a) (x ++ y)
  | nothing : Yields nothing []
  | ahead {a : Pattern} : Yields (ahead a) []
  | notAhead {a : Pattern} : Yields (notAhead a) []
  | after {p : Char → Bool} : Yields (after p) []
  | notAfter {p : Char → Bool} : Yields (notAfter p) []
  | wordEdge : Yields wordEdge []
  | textEnd : Yields textEnd []

/-- A way through a pattern takes a text that the pattern can take. -/
theorem Takes.yields {c d : Cursor} (h : p.Takes c d) (hx : c.rest = x ++ d.rest) : p.Yields x := by
  have hnil {y r : Text} (h : r = y ++ r) : y = [] := List.self_eq_append_left.mp h
  -- the text taken on the way to a position and the one taken from there
  have happend {c e d : Cursor} {x y z : Text} (hx : c.rest = x ++ d.rest)
      (hy : c.rest = y ++ e.rest) (hz : e.rest = z ++ d.rest) : x = y ++ z := by
    rw [hy, hz, ← List.append_assoc] at hx
    exact (List.append_cancel_right hx).symm
  induction p generalizing c d x with
  | one p =>
    obtain ⟨ch, rest, hr, hch, rfl⟩ := h
    rw [hr, Cursor.advance_rest, ← List.singleton_append] at hx
    obtain rfl := List.append_cancel_right hx
    exact .one hch
  | seq a b iha ihb =>
    obtain ⟨e, he, hd⟩ := h
    obtain ⟨y, hy, -⟩ := he.eq_advance
    obtain ⟨z, hz, -⟩ := hd.eq_advance
    obtain rfl := happend hx hy hz
    exact .seq (iha he hy) (ihb hd hz)
  | alt a b iha ihb => exact h.elim (fun h => .left (iha h hx)) fun h => .right (ihb h hx)
  | many a ih =>
    induction h generalizing x with
    | refl => exact hnil hx ▸ .manyNil
    | tail he hd ihe =>
      obtain ⟨y, hy, -⟩ := Takes.eq_advance (p := many a) he
      obtain ⟨z, hz, -⟩ := hd.eq_advance
      obtain rfl := happend hx hy hz
      exact .many (ihe hy) (ih hd hz)
  | few a ih =>
    induction h generalizing x with
    | refl => exact hnil hx ▸ .fewNil
    | tail he hd ihe =>
      obtain ⟨y, hy, -⟩ := Takes.eq_advance (p := few a) he
      obtain ⟨z, hz, -⟩ := hd.eq_advance
      obtain rfl := happend hx hy hz
      exact .few (ihe hy) (ih hd hz)
  | nothing => cases h; exact hnil hx ▸ .nothing
  | ahead => cases h.1; exact hnil hx ▸ .ahead
  | notAhead => cases h.1; exact hnil hx ▸ .notAhead
  | after => cases h.1; exact hnil hx ▸ .after
  | notAfter => cases h.1; exact hnil hx ▸ .notAfter
  | wordEdge => cases h.1; exact hnil hx ▸ .wordEdge
  | textEnd => cases h.1; exact hnil hx ▸ .textEnd

theorem yields_of_match? {before : Option Char} {t r : Text} (h : p.match? before t = some (x, r)) :
    p.Yields x := by
  obtain ⟨ht, htakes⟩ := match?_takes h
  exact htakes.yields ht

theorem Yields.ne_nil (h : p.Yields x) (hp : p.canBeEmpty = false) : x ≠ [] := by
  induction h with
  | one => simp
  | seq _ _ iha ihb =>
    rcases Bool.and_eq_false_iff.mp hp with hp | hp
    · exact List.append_ne_nil_of_left_ne_nil (iha hp) _
    · exact List.append_ne_nil_of_right_ne_nil _ (ihb hp)
  | left _ ih => exact ih (Bool.or_eq_false_iff.mp hp).1
  | right _ ih => exact ih (Bool.or_eq_false_iff.mp hp).2
  | _ => cases hp

/-! ### Last characters -/

/-- Characters after which it matters what follows on a line. -/
def looseSigns : List Char := '-' :: blankCodes.map Char.ofNat

theorem mem_looseSigns {c : Char} : c ∈ looseSigns ↔ c = '-' ∨ isBlank c := by
  rw [looseSigns, List.mem_cons, isBlank_iff, List.mem_map]
  constructor
  · rintro (h | ⟨n, hn, rfl⟩)
    · exact .inl h
    · have hvalid : ∀ n ∈ blankCodes, (Char.ofNat n).toNat = n := by decide
      exact .inr (by rwa [hvalid n hn])
  · rintro (h | h)
    · exact .inl h
    · exact .inr ⟨c.toNat, h, Char.ofNat_toNat c⟩

/-- Whether every way through a pattern that takes something takes a last character after which it
does not matter what follows. -/
def endsFirm : Pattern → Bool
  | one p => looseSigns.all (!p ·)
  | seq a b => b.endsFirm && (!b.canBeEmpty || a.endsFirm)
  | alt a b => a.endsFirm && b.endsFirm
  | many a => a.endsFirm
  | few a => a.endsFirm
  | _ => true

/-- Whether no way through a pattern takes a line feed. -/
def avoidsFeed : Pattern → Bool
  | one p => !p '\n'
  | seq a b => a.avoidsFeed && b.avoidsFeed
  | alt a b => a.avoidsFeed && b.avoidsFeed
  | many a => a.avoidsFeed
  | few a => a.avoidsFeed
  | _ => true

theorem Yields.endsFirm (h : p.Yields x) (hp : p.endsFirm) :
    ∀ ch ∈ x.getLast?, ch ∉ looseSigns := by
  induction h with
  | @one p ch h =>
    rintro _ ⟨⟩ hloose
    simpa [h] using List.all_eq_true.mp hp ch hloose
  | @seq a b x y hx hy iha ihb =>
    obtain ⟨hb, ha⟩ := Bool.and_eq_true_iff.mp hp
    rw [List.getLast?_append]
    cases hlast : y.getLast? with
    | some ch =>
      rw [hlast] at ihb
      exact ihb hb
    | none =>
      have hempty : b.canBeEmpty = true := by
        rw [← Bool.not_eq_false]
        exact fun hempty => hy.ne_nil hempty (List.getLast?_eq_none_iff.mp hlast)
      exact iha (by simpa [hempty] using ha)
  | left _ ih => exact ih (Bool.and_eq_true_iff.mp hp).1
  | right _ ih => exact ih (Bool.and_eq_true_iff.mp hp).2
  | @many a x y _ _ ihx ihy | @few a x y _ _ ihx ihy =>
    rw [List.getLast?_append]
    cases hlast : y.getLast? with
    | some ch =>
      rw [hlast] at ihy
      exact ihy hp
    | none => exact ihx hp
  | _ => simp

theorem Yields.avoidsFeed (h : p.Yields x) (hp : p.avoidsFeed) : '\n' ∉ x := by
  induction h with
  | one h =>
    rintro hfeed
    rw [← List.mem_singleton.mp hfeed] at h
    simp [Pattern.avoidsFeed, h] at hp
  | seq _ _ iha ihb =>
    obtain ⟨ha, hb⟩ := Bool.and_eq_true_iff.mp hp
    exact List.not_mem_append (iha ha) (ihb hb)
  | left _ ih => exact ih (Bool.and_eq_true_iff.mp hp).1
  | right _ ih => exact ih (Bool.and_eq_true_iff.mp hp).2
  | many _ _ ihx ihy | few _ _ ihx ihy => exact List.not_mem_append (ihx hp) (ihy hp)
  | _ => simp

theorem Yields.begins (h : p.Yields x) : ∀ ch ∈ x.head?, p.begins ch := by
  induction h with
  | one h => rintro ch ⟨⟩; exact h
  | @seq a b x y hx hy iha ihb =>
    intro ch hch
    rw [Pattern.begins, Bool.or_eq_true, Bool.and_eq_true]
    cases x with
    | cons e x => exact .inl (iha ch hch)
    | nil =>
      refine .inr ⟨?_, ihb ch hch⟩
      rw [← Bool.not_eq_false]
      exact fun hempty => hx.ne_nil hempty rfl
  | left _ ih => exact fun ch hch => Bool.or_eq_true_iff.mpr (.inl (ih ch hch))
  | right _ ih => exact fun ch hch => Bool.or_eq_true_iff.mpr (.inr (ih ch hch))
  | @many a x y _ _ ihx ihy | @few a x y _ _ ihx ihy =>
    intro ch hch
    cases x with
    | cons e x => exact ihx ch hch
    | nil => exact ihy ch hch
  | _ => simp

end Pattern

end SchemaMill.Sql
