import Mathlib.Algebra.BigOperators.Group.List.Basic
import Mathlib.Data.List.Basic
import SchemaMill.Proofs.Nesting.Rewriting
import SchemaMill.Proofs.Reading.Elements

/-!
# Depth

How many parentheses are open in front of each token of a row. A member of a row is held if any are
(`marked`): it stands inside parentheses or closes them. The members of a keyword are no
parentheses, so what stands behind a held keyword is held as well.
-/

namespace SchemaMill.Sql

open Nesting

/-! ### Parentheses -/

/-- How many more parentheses are open behind a token than in front of it. -/
def Token.change (t : Token) : Int := depthAfter 0 t

/-- How many more parentheses are open behind a part than in front of it. -/
def Part.change : Part → Int
  | token t => t.change
  | name _ => 0

/-- Words that are no keywords: that of a text or a quoted name, and those of parentheses. -/
def bareWords : List Text := [[], ['('], [')']]

theorem Token.word_mem_bareWords {t : Token} (h : t.isSign '(' ∨ t.isSign ')') :
    t.word ∈ bareWords := by
  have hvalue : t.value = ['('] ∨ t.value = [')'] := by simpa [isSign] using h
  rcases hvalue with hvalue | hvalue
  all_goals
    rw [word, hvalue]
    split
    · exact List.mem_cons_self
    · decide

theorem Token.isSign_of_word {t : Token} (h : t.word ∉ bareWords) :
    t.isSign '(' = false ∧ t.isSign ')' = false := by
  constructor <;> rw [Bool.eq_false_iff] <;> intro hsign
  · exact h (word_mem_bareWords (Or.inl hsign))
  · exact h (word_mem_bareWords (Or.inr hsign))

theorem Token.change_of_word {t : Token} (h : t.word ∉ bareWords) : t.change = 0 := by
  obtain ⟨hopen, hclose⟩ := isSign_of_word h
  simp [change, depthAfter, hopen, hclose]

theorem Part.change_of_word {p : Part} (h : p.word ∉ bareWords) : p.change = 0 := by
  cases p with
  | token t => exact Token.change_of_word h
  | name q => rfl

theorem Part.isSign_of_isWord {p : Part} {w : String} (hw : w.toList ∉ bareWords)
    (h : p.isWord w) : p.isSign '(' = false ∧ p.isSign ')' = false := by
  have hword := beq_iff_eq.mp h ▸ hw
  cases p with
  | token t => exact Token.isSign_of_word hword
  | name q => exact ⟨rfl, rfl⟩

theorem Part.not_isWord_of_isSign {p : Part} (h : p.isSign '(' ∨ p.isSign ')') {w : String}
    (hw : w.toList ∉ bareWords) : ¬p.isWord w := fun hword => by
  obtain ⟨hopen, hclose⟩ := isSign_of_isWord hw hword
  rw [hopen, hclose] at h
  exact h.elim Bool.false_ne_true Bool.false_ne_true

theorem Part.change_of_mem {p : Part} {ws : List Text} (hws : ∀ w ∈ ws, w ∉ bareWords)
    (h : p.word ∈ ws) : p.change = 0 :=
  change_of_word (hws _ h)

theorem Part.change_of_isWord {p : Part} {w : String} (hw : w.toList ∉ bareWords)
    (h : p.isWord w) : p.change = 0 :=
  change_of_word (beq_iff_eq.mp h ▸ hw)

theorem Part.change_eq (p : Part) :
    p.change = if p.isSign '(' then 1 else if p.isSign ')' then -1 else 0 := by
  cases p with
  | token t =>
    simp only [change, Token.change, depthAfter, Int.zero_add, Int.zero_sub]
    rfl
  | name q => rfl

/-! ### Marks -/

section Marks

variable {α : Type} {change : α → Int} {d : Int}

/-- The members of a row, each with whether parentheses are open in front of it, if `d` are open in
front of the row. -/
def marked (change : α → Int) (d : Int) : List α → List (α × Bool)
  | [] => []
  | a :: as => (a, decide (0 < d)) :: marked change (d + change a) as

theorem map_fst_marked (change : α → Int) (d : Int) (as : List α) :
    (marked change d as).map Prod.fst = as := by
  induction as generalizing d with
  | nil => rfl
  | cons a as ih => rw [marked, List.map_cons, ih]

theorem length_marked (change : α → Int) (d : Int) (as : List α) :
    (marked change d as).length = as.length := by
  rw [← List.length_map Prod.fst, map_fst_marked]

/-- A row that was marked. -/
def IsMarked (change : α → Int) (as : List (α × Bool)) : Prop := ∃ d us, as = marked change d us

theorem IsMarked.of_append {as bs : List (α × Bool)} (h : IsMarked change (as ++ bs)) :
    IsMarked change bs := by
  obtain ⟨d, us, h⟩ := h
  induction as generalizing d us with
  | nil => exact ⟨d, us, h⟩
  | cons a as ih =>
    cases us with
    | nil => cases h
    | cons u us => exact ih _ us (List.cons.inj h).2

theorem IsMarked.mark_eq {a b : α × Bool} {as : List (α × Bool)}
    (h : IsMarked change (a :: b :: as)) (ha : change a.1 = 0) : b.2 = a.2 := by
  obtain ⟨d, us, h⟩ := h
  rcases us with _ | ⟨u, _ | ⟨v, us⟩⟩
  · cases h
  · cases h
  · simp only [marked, List.cons.injEq] at h
    obtain ⟨rfl, rfl, -⟩ := h
    simp only at ha
    rw [ha, Int.add_zero]

theorem IsMarked.tail {a : α × Bool} {as : List (α × Bool)} (h : IsMarked change (a :: as)) :
    IsMarked change as := by
  rw [← List.singleton_append] at h
  exact h.of_append

end Marks

/-! ### Balance -/

section Balance

variable {α : Type} {change : α → Int} {d : Int} {as : List α}

/-- Each parenthesis of a row has its partner, if `d` are open in front of it. -/
def Closes (change : α → Int) (d : Int) : List α → Prop
  | [] => d = 0
  | a :: as => 0 ≤ d ∧ Closes change (d + change a) as

instance Closes.decidable (change : α → Int) : (d : Int) → (as : List α) →
    Decidable (Closes change d as)
  | d, [] => inferInstanceAs (Decidable (d = 0))
  | d, a :: as =>
    have := decidable change (d + change a) as
    inferInstanceAs (Decidable (0 ≤ d ∧ Closes change (d + change a) as))

theorem Closes.nonneg (h : Closes change d as) : 0 ≤ d := by
  cases as with
  | nil => exact Int.le_of_eq h.symm
  | cons a as => exact h.1

theorem Closes.sum_eq (h : Closes change d as) : (as.map change).sum = -d := by
  induction as generalizing d with
  | nil => rw [show d = 0 from h]; rfl
  | cons a as ih =>
    rw [List.map_cons, List.sum_cons, ih h.2]
    omega

theorem Closes.append {bs : List α} (has : ∀ a ∈ as, change a = 0) (h : Closes change d bs) :
    Closes change d (as ++ bs) := by
  induction as with
  | nil => exact h
  | cons a as ih =>
    rw [List.forall_mem_cons] at has
    refine ⟨h.nonneg, ?_⟩
    rw [has.1, Int.add_zero]
    exact ih has.2

end Balance

end SchemaMill.Sql
