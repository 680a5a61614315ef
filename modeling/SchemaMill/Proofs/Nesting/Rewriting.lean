import Mathlib.Data.List.Basic
import Mathlib.Data.Option.Basic

/-!
# Rewriting a row by a rule

A rule takes some members from the front of a row and gives others for them. A row is rewritten
from left to right by taking the rule wherever it applies and keeping all else (`Rewritten`).

A rule can be barred where it would take certain members. Rewriting with the rule and with the
barred one come to the same if and only if no place is met where the rule is barred
(`Rewritten.except_iff`), as far as nothing is rewritten among the members that a barred rule would
have taken.
-/

namespace SchemaMill.Nesting

variable {α β : Type}

/-- What a rule takes from the front of a row, and what it gives for it. -/
structure Exchange (α β : Type) where
  /-- The members that are taken. -/
  taken : List α
  /-- What stands in their place. -/
  given : List β
  /-- The row behind them. -/
  rest : List α

/-- A rule for the front of a row. -/
abbrev Rule (α β : Type) := List α → Option (Exchange α β)

/-- A row and what becomes of it by a rule, where members that the rule does not take are kept. -/
inductive Rewritten (keep : α → β) (rule : Rule α β) : List α → List β → Prop where
  | nil : Rewritten keep rule [] []
  | keep {a as bs} (h : rule (a :: as) = none) (hrest : Rewritten keep rule as bs) :
    Rewritten keep rule (a :: as) (keep a :: bs)
  | rule {a as e bs} (h : rule (a :: as) = some e) (hrest : Rewritten keep rule e.rest bs) :
    Rewritten keep rule (a :: as) (e.given ++ bs)

/-- A place of a row is met where `P` holds of what begins there. -/
inductive Meets (P : List α → Prop) (rule : Rule α β) : List α → Prop where
  | here {as} (h : P as) : Meets P rule as
  | keep {a as} (h : rule (a :: as) = none) (hrest : Meets P rule as) : Meets P rule (a :: as)
  | rule {a as e} (h : rule (a :: as) = some e) (hrest : Meets P rule e.rest) :
    Meets P rule (a :: as)

/-- A rule that is barred where it would take what `bar` tells of. -/
def Rule.except (rule : Rule α β) (bar : List α → Bool) : Rule α β :=
  fun as => (rule as).filter fun e => !bar e.taken

/-- The rule is barred at the front of a row. -/
def Rule.IsBarred (rule : Rule α β) (bar : List α → Bool) (as : List α) : Prop :=
  ∃ e, rule as = some e ∧ bar e.taken = true

/-- A rule takes a stretch of the row, and gives less for it of what `counts` than there was. -/
def Rule.Exchanges (rule : Rule α β) (keep : α → β) (counts : β → Bool) : Prop :=
  ∀ {as e}, rule as = some e →
    as = e.taken ++ e.rest ∧ e.given.countP counts < (e.taken.map keep).countP counts

theorem Rule.Exchanges.length_rest_lt {rule : Rule α β} {keep : α → β} {counts : β → Bool}
    (hrule : rule.Exchanges keep counts) {as : List α} {e : Exchange α β} (h : rule as = some e) :
    e.rest.length < as.length := by
  obtain ⟨hrow, hlt⟩ := hrule h
  have hle := (e.taken.map keep).countP_le_length (p := counts)
  rw [List.length_map] at hle
  rw [hrow, List.length_append]
  omega

section Except

variable {rule : Rule α β} {bar : List α → Bool} {as : List α} {e : Exchange α β}

theorem Rule.except_eq_none (h : rule as = none) : rule.except bar as = none := by
  rw [Rule.except, h, Option.filter_none]

theorem Rule.except_of_not_bar (h : rule as = some e) (hbar : bar e.taken = false) :
    rule.except bar as = some e := by
  rw [Rule.except, h, Option.filter_some, if_pos (by rw [hbar]; rfl)]

theorem Rule.except_of_bar (h : rule as = some e) (hbar : bar e.taken = true) :
    rule.except bar as = none := by
  rw [Rule.except, h, Option.filter_some, if_neg (by rw [hbar]; decide)]

theorem Rule.except_eq_some_iff :
    rule.except bar as = some e ↔ rule as = some e ∧ bar e.taken = false := by
  rw [Rule.except, Option.filter_eq_some_iff, Bool.not_eq_true']

end Except

theorem meets_cons_of_none {P : List α → Prop} {rule : Rule α β} {a : α} {as : List α}
    (h : rule (a :: as) = none) : Meets P rule (a :: as) ↔ P (a :: as) ∨ Meets P rule as := by
  refine ⟨fun hmeets => ?_, fun hmeets => hmeets.elim .here (.keep h)⟩
  cases hmeets with
  | here hplace => exact Or.inl hplace
  | keep _ hrest => exact Or.inr hrest
  | rule hsome => rw [h] at hsome; cases hsome

theorem meets_cons_of_some {P : List α → Prop} {rule : Rule α β} {a : α} {as : List α}
    {e : Exchange α β} (h : rule (a :: as) = some e) :
    Meets P rule (a :: as) ↔ P (a :: as) ∨ Meets P rule e.rest := by
  refine ⟨fun hmeets => ?_, fun hmeets => hmeets.elim .here (.rule h)⟩
  cases hmeets with
  | here hplace => exact Or.inl hplace
  | keep hnone => rw [h] at hnone; cases hnone
  | rule hsome hrest =>
    rw [h] at hsome
    cases hsome
    exact Or.inr hrest

namespace Rewritten

variable {keep : α → β} {rule : Rule α β} {bar : List α → Bool} {K : List α → Prop}
  {as : List α} {bs bs' : List β}

/-- A stretch in which a rule does not apply is kept. -/
theorem of_kept {taken rest : List α}
    (h : ∀ a after, (a :: after) <:+ taken → rule (a :: (after ++ rest)) = none)
    (hrow : Rewritten keep rule (taken ++ rest) bs) :
    ∃ bs', bs = taken.map keep ++ bs' ∧ Rewritten keep rule rest bs' := by
  induction taken generalizing bs with
  | nil => exact ⟨bs, rfl, hrow⟩
  | cons a taken ih =>
    have hnone : rule (a :: (taken ++ rest)) = none := h a taken List.suffix_rfl
    cases hrow with
    | keep _ hrest =>
      have hsuffix : ∀ b after, (b :: after) <:+ taken → rule (b :: (after ++ rest)) = none :=
        fun b after hb => h b after (hb.trans (List.suffix_cons a _))
      obtain ⟨bs', rfl, hbs'⟩ := ih hsuffix hrest
      exact ⟨bs', rfl, hbs'⟩
    | rule hsome => exact nomatch hnone.symm.trans hsome

/-- Where a rule is not barred, barring it changes nothing. -/
theorem except (h : Rewritten keep rule as bs)
    (hmeets : ¬Meets (rule.IsBarred bar) (rule.except bar) as) :
    Rewritten keep (rule.except bar) as bs := by
  induction h with
  | nil => exact .nil
  | keep hnone _ ih =>
    have hnone' : rule.except bar (_ :: _) = none := Rule.except_eq_none hnone
    exact .keep hnone' (ih fun hmet => hmeets (.keep hnone' hmet))
  | @rule a as e bs hsome _ ih =>
    have hbar : bar e.taken = false :=
      Bool.eq_false_iff.mpr fun hbar => hmeets (.here ⟨e, hsome, hbar⟩)
    have hsome' := Rule.except_of_not_bar hsome hbar
    exact .rule hsome' (ih fun hmet => hmeets (.rule hsome' hmet))

/-- A row becomes something by a rule that takes members. -/
theorem exists_of_length_lt (keep : α → β)
    (hrule : ∀ {as e}, rule as = some e → e.rest.length < as.length) (as : List α) :
    ∃ bs, Rewritten keep rule as bs := by
  match as with
  | [] => exact ⟨[], .nil⟩
  | a :: as =>
    cases hsome : rule (a :: as) with
    | none =>
      obtain ⟨bs, hbs⟩ := exists_of_length_lt keep hrule as
      exact ⟨_, .keep hsome hbs⟩
    | some e =>
      have hlength := hrule hsome
      obtain ⟨bs, hbs⟩ := exists_of_length_lt keep hrule e.rest
      exact ⟨_, .rule hsome hbs⟩
termination_by as.length
decreasing_by
  · exact Nat.lt_succ_self _
  · exact hlength

/-- A row becomes one thing by a rule. -/
theorem unique (h : Rewritten keep rule as bs) (h' : Rewritten keep rule as bs') : bs = bs' := by
  induction h generalizing bs' with
  | nil => cases h'; rfl
  | keep hnone _ ih =>
    cases h' with
    | keep _ hrest => rw [ih hrest]
    | rule hsome => rw [hnone] at hsome; cases hsome
  | rule hsome _ ih =>
    cases h' with
    | keep hnone => rw [hnone] at hsome; cases hsome
    | rule hsome' hrest =>
      rw [hsome] at hsome'
      cases hsome'
      rw [ih hrest]

/-- If no member of what is taken is held, all that are held are kept. -/
theorem sublist_of_held {held : α → Bool}
    (hrule : ∀ {as e}, rule as = some e → as = e.taken ++ e.rest)
    (h : Rewritten keep (rule.except (·.any held)) as bs) :
    ((as.filter held).map keep).Sublist bs := by
  induction h with
  | nil => exact List.Sublist.refl _
  | @keep a as bs _ _ ih =>
    by_cases ha : held a
    · rw [List.filter_cons_of_pos ha]
      exact ih.cons_cons _
    · rw [List.filter_cons_of_neg ha]
      exact ih.cons _
  | @rule a as e bs hsome _ ih =>
    obtain ⟨hsome, hfree⟩ := Rule.except_eq_some_iff.mp hsome
    have hnone : e.taken.filter held = [] := by
      rw [List.filter_eq_nil_iff]
      exact List.any_eq_false.mp hfree
    rw [hrule hsome, List.filter_append, hnone, List.nil_append]
    exact ih.trans (List.sublist_append_right _ _)

section Differing

variable {R : List β → List β → Prop} (hR : ∀ {bs bs'} (cs), R bs bs' → R (cs ++ bs) (cs ++ bs'))
  (hrule : ∀ {as e}, rule as = some e → as = e.taken ++ e.rest)
  (hK : ∀ {as bs}, K (as ++ bs) → K bs)
  (hbarred : ∀ {as bs bs'}, K as → Rewritten keep rule as bs →
    Rewritten keep (rule.except bar) as bs' → rule.IsBarred bar as → R bs bs')
include hR hrule hK hbarred

/-- What barring a rule does where it is barred shows at the front of the row if such a place is
met. -/
theorem of_meets (has : K as) (h : Rewritten keep rule as bs)
    (h' : Rewritten keep (rule.except bar) as bs')
    (hmeets : Meets (rule.IsBarred bar) (rule.except bar) as) : R bs bs' := by
  -- up to the place that is met first, both rewritings take the same
  induction hmeets generalizing bs bs' with
  | here hplace => exact hbarred has h h' hplace
  | @keep a as hnone _ ih =>
    cases h' with
    | rule hsome => rw [hnone] at hsome; cases hsome
    | keep _ hrest' =>
      cases h with
      | keep _ hrest =>
        have hrow : K ([a] ++ as) := has
        exact hR [keep a] (ih (hK hrow) hrest hrest')
      | @rule _ _ e _ hsome hrest =>
        have hbar : bar e.taken = true := by
          by_contra hbar
          rw [Rule.except_of_not_bar hsome (Bool.eq_false_iff.mpr hbar)] at hnone
          cases hnone
        exact hbarred has (.rule hsome hrest) (.keep hnone hrest') ⟨e, hsome, hbar⟩
  | @rule a as e hsome _ ih =>
    obtain ⟨hsome', -⟩ := Rule.except_eq_some_iff.mp hsome
    cases h' with
    | keep hnone => rw [hnone] at hsome; cases hsome
    | rule h₁ hrest' =>
      cases h with
      | keep hnone => rw [hnone] at hsome'; cases hsome'
      | rule h₂ hrest =>
        rw [hsome] at h₁
        rw [hsome'] at h₂
        cases h₁
        cases h₂
        exact hR _ (ih (hK (hrule hsome' ▸ has)) hrest hrest')

end Differing

section Kept

/-- Nothing is rewritten among the members that a barred rule would have taken. -/
def KeepsBarred (rule : Rule α β) (bar : List α → Bool) (K : List α → Prop) : Prop :=
  ∀ {as e}, K as → rule as = some e → bar e.taken = true →
    ∀ a after, (a :: after) <:+ e.taken → rule.except bar (a :: (after ++ e.rest)) = none

variable {counts : β → Bool} (hrule : rule.Exchanges keep counts) (hkept : KeepsBarred rule bar K)
  (hK : ∀ {as bs}, K (as ++ bs) → K bs)
include hrule hkept hK

/-- Barring a rule leaves no less of what counts. -/
theorem countP_le (has : K as) (h : Rewritten keep rule as bs)
    (h' : Rewritten keep (rule.except bar) as bs') : bs.countP counts ≤ bs'.countP counts := by
  induction h generalizing bs' with
  | nil => exact Nat.zero_le _
  | @keep a as bs hnone _ ih =>
    cases h' with
    | keep _ hrest =>
      have hrow : K ([a] ++ as) := has
      simp only [List.countP_cons]
      exact Nat.add_le_add_right (ih (hK hrow) hrest) _
    | rule hsome =>
      rw [Rule.except_eq_none hnone] at hsome
      cases hsome
  | @rule a as e bs hsome _ ih =>
    obtain ⟨hrow, hlt⟩ := hrule hsome
    have hrest : K e.rest := hK (hrow ▸ has)
    cases hbar : bar e.taken with
    | false =>
      cases h' with
      | keep hnone => rw [Rule.except_of_not_bar hsome hbar] at hnone; cases hnone
      | rule hsome' hrest' =>
        rw [Rule.except_of_not_bar hsome hbar] at hsome'
        cases hsome'
        simp only [List.countP_append]
        exact Nat.add_le_add_left (ih hrest hrest') _
    | true =>
      rw [hrow] at h'
      obtain ⟨bs', rfl, hrest'⟩ := of_kept (hkept has hsome hbar) h'
      simp only [List.countP_append]
      exact Nat.add_le_add (Nat.le_of_lt hlt) (ih hrest hrest')

/-- Barring a rule leaves more of what counts where it is barred. -/
theorem countP_lt_of_isBarred (has : K as) (h : Rewritten keep rule as bs)
    (h' : Rewritten keep (rule.except bar) as bs') (hbarred : rule.IsBarred bar as) :
    bs.countP counts < bs'.countP counts := by
  obtain ⟨e, hsome, hbar⟩ := hbarred
  obtain ⟨hrow, hlt⟩ := hrule hsome
  cases h with
  | nil =>
    obtain ⟨htaken, -⟩ := List.append_eq_nil_iff.mp hrow.symm
    simp [htaken] at hlt
  | keep hnone => rw [hnone] at hsome; cases hsome
  | rule hsome' hrest =>
    rw [hsome] at hsome'
    cases hsome'
    rw [hrow] at h'
    obtain ⟨bs', rfl, hrest'⟩ := of_kept (hkept has hsome hbar) h'
    simp only [List.countP_append]
    exact Nat.add_lt_add_of_lt_of_le hlt
      (countP_le hrule hkept hK (hK (hrow ▸ has)) hrest hrest')

/-- Barring a rule leaves more of what counts if a place is met where it is barred. -/
theorem countP_lt_of_meets (has : K as) (h : Rewritten keep rule as bs)
    (h' : Rewritten keep (rule.except bar) as bs')
    (hmeets : Meets (rule.IsBarred bar) (rule.except bar) as) :
    bs.countP counts < bs'.countP counts := by
  have hR : ∀ {bs bs' : List β} (cs : List β), bs.countP counts < bs'.countP counts →
      (cs ++ bs).countP counts < (cs ++ bs').countP counts := fun cs hlt => by
    simpa only [List.countP_append] using Nat.add_lt_add_left hlt _
  exact of_meets hR (fun hsome => (hrule hsome).1) hK (countP_lt_of_isBarred hrule hkept hK) has h
    h' hmeets

/-- Barring a rule changes nothing if and only if no place is met where it is barred. -/
theorem except_iff (has : K as) (h : Rewritten keep rule as bs) :
    Rewritten keep (rule.except bar) as bs ↔ ¬Meets (rule.IsBarred bar) (rule.except bar) as :=
  ⟨fun h' hmeets => Nat.lt_irrefl _ (countP_lt_of_meets hrule hkept hK has h h' hmeets), h.except⟩

end Kept

end Rewritten

/-! ### Held members -/

section Held

variable {rule : Rule α β} {keep : α → β} {counts : β → Bool} {held : α → Bool}
  {bar : List α → Bool} {K : List α → Prop}

/-- A rule that is barred from taking a held member first does not apply to it. -/
theorem Rule.Exchanges.except_cons_eq_none (hrule : rule.Exchanges keep counts)
    (hbar : ∀ a as, held a = true → bar (a :: as) = true) {a : α} (ha : held a = true)
    (as : List α) : rule.except bar (a :: as) = none := by
  cases hsome : rule (a :: as) with
  | none => exact Rule.except_eq_none hsome
  | some e =>
    obtain ⟨hrow, hlt⟩ := hrule hsome
    obtain ⟨taken, given, rest⟩ := e
    cases taken with
    | nil => simp at hlt
    | cons b taken =>
      obtain rfl : a = b := (List.cons.inj hrow).1
      exact Rule.except_of_bar hsome (hbar a taken ha)

/-- If all members are held that a barred rule would have taken, nothing is rewritten there. -/
theorem keepsBarred_of_held (hrule : rule.Exchanges keep counts)
    (hbar : ∀ a as, held a = true → bar (a :: as) = true)
    (hheld : ∀ {as e}, K as → rule as = some e → bar e.taken = true →
      ∀ a ∈ e.taken, held a = true) : Rewritten.KeepsBarred rule bar K := by
  intro as e has hsome hbarred a after hsuffix
  exact hrule.except_cons_eq_none hbar
    (hheld has hsome hbarred a (hsuffix.subset List.mem_cons_self)) _

end Held

end SchemaMill.Nesting
