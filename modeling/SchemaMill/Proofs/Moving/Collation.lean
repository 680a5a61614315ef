import Mathlib.Data.List.Basic
import SchemaMill.Proofs.Moving.Clauses

/-!
# Where an added collation stands

Table options with a character set and no collation get the clause of one, and it goes behind all
options. So it stands directly behind the value of a character set if and only if the options end
with that value: whatever follows in them, such as the clause of a partition or a query, comes in
between (`moveOptions_beside_charset_iff`).
-/

namespace SchemaMill.Schema

open Sql

variable {charset previous : Text} {cs : List Clause}

/-- The tokens of clauses that are moved. Behind the keyword of a character set without a name no
value is awaited, so that all values stay. -/
def movedTokens (charset : Text) (cs : List Clause) : List Token :=
  cs.flatMap fun c => (if charset = [] then c else c.moved charset).tokens

theorem movedTokens_append (charset : Text) (cs cs' : List Clause) :
    movedTokens charset (cs ++ cs') = movedTokens charset cs ++ movedTokens charset cs' :=
  List.flatMap_append

theorem movedTokens_nil_charset (cs : List Clause) :
    movedTokens [] cs = cs.flatMap Clause.tokens := by
  simp [movedTokens]

theorem exists_movedTokens_cons (charset : Text) (c : Clause) (cs : List Clause) :
    ∃ t ts, t ∈ c.tokens ∧ movedTokens charset (c :: cs) = t :: ts := by
  obtain ⟨t, ht, htail⟩ : ∃ t ∈ c.tokens,
      ∃ ts, (if charset = [] then c else c.moved charset).tokens = t :: ts := by
    cases c with
    | plain t => exact ⟨t, List.mem_singleton_self t, [], by split_ifs <;> rfl⟩
    | setting s k signs value => exact ⟨k, List.mem_cons_self, by split_ifs <;> exact ⟨_, rfl⟩⟩
  obtain ⟨ts, hts⟩ := htail
  exact ⟨t, ts ++ movedTokens charset cs, ht, by rw [movedTokens, List.flatMap_cons, hts]; rfl⟩

/-! ### Options without a collation -/

theorem IsScan.exists_collate (h : IsScan previous cs) (hsets : Sets .collation cs) :
    ∃ t ∈ cs.flatMap Clause.tokens, t.isWord "COLLATE" := by
  have hkey : ∀ {previous : Text} {k : Token} {s : Setting}, setting? previous k = some s →
      s = .collation → k.isWord "COLLATE" := by
    rintro previous k s hkeyword rfl
    exact beq_iff_eq.mpr (setting?_eq_collation_iff.mp hkeyword)
  induction h with
  | nil => exact absurd hsets (not_sets_nil _)
  | plain _ _ ih =>
    obtain ⟨u, hu, hword⟩ := ih ((sets_cons.mp hsets).resolve_left (by simp [Clause.setting?]))
    exact ⟨u, by simp [hu], hword⟩
  | @setting previous s k signs v cs hkeyword hsigns hvalue hrest ih =>
    rcases sets_cons.mp hsets with hs | hs
    · exact ⟨k, by simp [Clause.tokens], hkey hkeyword (Option.some.inj hs)⟩
    · obtain ⟨u, hu, hword⟩ := ih hs
      exact ⟨u, by simp [hu], hword⟩
  | @unset previous s k signs hkeyword hsigns =>
    have hs := (sets_cons.mp hsets).resolve_right (not_sets_nil _)
    exact ⟨k, by simp [Clause.tokens], hkey hkeyword (Option.some.inj hs)⟩

namespace Target

/-- Without a name for the character set nothing is awaited, so options stay as they are. -/
theorem moveOptionsFrom_unnamed (previous : Text) {ts : List Token}
    (h : ∀ t ∈ ts, t.isWord "COLLATE" = false) :
    (moveOptionsFrom [] previous [] ts).tokens = ts ∧
      (moveOptionsFrom [] previous [] ts).hasCollation = false := by
  induction ts generalizing previous with
  | nil => exact ⟨rfl, rfl⟩
  | cons t ts ih =>
    rw [List.forall_mem_cons] at h
    have hne : setting? previous t ≠ some .collation := fun hs => by
      rw [Token.isWord, beq_iff_eq.mpr (setting?_eq_collation_iff.mp hs)] at h
      cases h.1
    have hawaited : (setting? previous t).elim [] (Setting.name []) = [] := by
      cases hs : setting? previous t with
      | none => rfl
      | some s =>
        cases s with
        | charset => rfl
        | collation => exact absurd hs hne
    rw [moveOptionsFrom_cons (Or.inl rfl), hawaited]
    obtain ⟨htokens, hcollation⟩ := ih t.word h.2
    exact ⟨congrArg _ htokens, by simp [hne, hcollation]⟩

/-- The keyword of a character set is seen also if nothing is awaited behind it. -/
theorem hasCharset_unnamed (h : IsScan previous cs) (hsets : Sets .charset cs) :
    (moveOptionsFrom [] previous [] (cs.flatMap Clause.tokens)).hasCharset = true := by
  induction h with
  | nil => exact absurd hsets (not_sets_nil _)
  | plain hplain _ ih =>
    have hrest := ih ((sets_cons.mp hsets).resolve_left (by simp [Clause.setting?]))
    rw [List.flatMap_cons, Clause.tokens, List.singleton_append, moveOptionsFrom_cons (Or.inl rfl),
      hplain, Option.elim_none]
    simp [hrest]
  | @setting previous s k signs v cs hkeyword hsigns hvalue hrest ih =>
    rw [List.flatMap_cons, Clause.tokens, Option.toList_some, List.cons_append, List.append_assoc,
      List.singleton_append, moveOptionsFrom_cons (Or.inl rfl), hkeyword, Option.elim_some]
    cases s with
    | charset => simp
    | collation =>
      -- a collation has a name in any case, so its value is passed over
      have hset := ih ((sets_cons.mp hsets).resolve_left (by simp [Clause.setting?]))
      rw [moveOptionsFrom_value (by decide) hsigns hvalue]
      simp [hset]
  | @unset previous s k signs hkeyword hsigns =>
    obtain rfl : s = .charset :=
      Option.some.inj ((sets_cons.mp hsets).resolve_right (not_sets_nil _))
    rw [List.flatMap_singleton, Clause.tokens, moveOptionsFrom_cons (Or.inl rfl), hkeyword]
    simp

/-- Options with a character set and without a collation get the clause of one at their end. -/
theorem moveOptions_of_not_collate (charset : Text) {ts : List Token} (h : AreClauses ts cs)
    (hsets : Sets .charset cs) (hnone : ∀ t ∈ ts, t.isWord "COLLATE" = false) :
    moveOptions charset ts = movedTokens charset cs ++ collationClause charset := by
  have hcollation : ¬Sets .collation cs := fun hs => by
    obtain ⟨t, ht, hword⟩ := h.1.exists_collate hs
    rw [hnone t (h.2 ▸ ht)] at hword
    cases hword
  by_cases hcharset : charset = []
  · subst hcharset
    obtain ⟨htokens, hcollation⟩ := moveOptionsFrom_unnamed [] hnone
    have hseen := hasCharset_unnamed h.1 hsets
    rw [h.2] at hseen
    rw [moveOptions, hseen, hcollation, htokens, movedTokens_nil_charset, h.2]
    rfl
  · rw [moveOptions_of_areClauses hcharset h, if_pos ⟨hsets, hcollation⟩, movedTokens]
    simp only [hcharset, if_false]

end Target

/-! ### Beside the value -/

/-- The clause of the added collation stands behind all options; directly behind the value of a
character set it stands exactly if nothing follows that value. -/
theorem moveOptions_beside_charset_iff (charset : Text) {ts : List Token}
    {before after : List Clause} {k v : Token} {signs : List Token}
    (h : AreClauses ts (before ++ .setting .charset k signs (some v) :: after))
    (hnone : ∀ t ∈ ts, t.isWord "COLLATE" = false) :
    let front := movedTokens charset (before ++ [.setting .charset k signs (some v)])
    let back := movedTokens charset after
    Target.moveOptions charset ts = front ++ back ++ Target.collationClause charset ∧
      (Target.moveOptions charset ts = front ++ Target.collationClause charset ++ back ↔
        after = []) := by
  intro front back
  have hmoved : Target.moveOptions charset ts =
      front ++ back ++ Target.collationClause charset := by
    rw [Target.moveOptions_of_not_collate charset h (by simp [Clause.setting?]) hnone,
      ← movedTokens_append, List.append_assoc, List.singleton_append]
  refine ⟨hmoved, fun hbeside => ?_, fun hafter => ?_⟩
  · rw [hmoved, List.append_assoc, List.append_assoc] at hbeside
    have hswap : back ++ Target.collationClause charset = Target.collationClause charset ++ back :=
      List.append_cancel_left hbeside
    -- what follows the value would begin with the keyword of a collation
    cases after with
    | nil => rfl
    | cons c after =>
      obtain ⟨t, us, ht, hback⟩ := exists_movedTokens_cons charset c after
      rw [show back = t :: us from hback] at hswap
      have hcollate : t = ⟨.keyword, "COLLATE", true⟩ := (List.cons.inj hswap).1
      have hmem : t ∈ ts := by
        rw [← h.2]
        simp [ht]
      have hword := hnone t hmem
      rw [hcollate] at hword
      exact absurd hword (by decide)
  · subst hafter
    rw [hmoved, show back = [] from rfl, List.append_nil, List.append_nil]

/-- With a partition behind it, the character set does not get the collation at its side. -/
theorem moveOptions_beside_charset_partition :
    let charset : List Token := [⟨.keyword, "CHARSET", true⟩, ⟨.operator, "=", false⟩,
      ⟨.name, "latin1", false⟩]
    let partition : List Token := [⟨.keyword, "PARTITION", true⟩, ⟨.keyword, "BY", true⟩,
      ⟨.keyword, "KEY", true⟩]
    renderTokens .mysql (Target.moveOptions "utf8mb4" charset) =
        "CHARSET=utf8mb4 COLLATE=utf8mb4_unicode_ci".toList ∧
      renderTokens .mysql (Target.moveOptions "utf8mb4" (charset ++ partition)) =
        "CHARSET=utf8mb4 PARTITION BY KEY COLLATE=utf8mb4_unicode_ci".toList := by
  intro charset partition
  have hkeyword : setting? [] ⟨.keyword, "CHARSET", true⟩ = some .charset := by decide
  have halone : AreClauses charset ([] ++ .setting .charset ⟨.keyword, "CHARSET", true⟩
      [⟨.operator, "=", false⟩] (some ⟨.name, "latin1", false⟩) :: []) :=
    ⟨.setting hkeyword (by decide) (by decide) .nil, rfl⟩
  have hfollowed : AreClauses (charset ++ partition) ([] ++ .setting .charset
      ⟨.keyword, "CHARSET", true⟩ [⟨.operator, "=", false⟩] (some ⟨.name, "latin1", false⟩) ::
        partition.map .plain) :=
    ⟨.setting hkeyword (by decide) (by decide)
      (.plain (by decide) (.plain (by decide) (.plain (by decide) .nil))), rfl⟩
  rw [(moveOptions_beside_charset_iff "utf8mb4" halone (by decide)).2.mpr rfl,
    (moveOptions_beside_charset_iff "utf8mb4" hfollowed (by decide)).1]
  exact ⟨by decide, by decide⟩

end SchemaMill.Schema
