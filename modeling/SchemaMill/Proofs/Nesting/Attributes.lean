import SchemaMill.Sql.Postgres
import SchemaMill.Proofs.Nesting.Depth

/-!
# Attributes in parentheses

Column attributes are translated by their words wherever these stand, also inside parentheses. What
becomes of them is what becomes of them when only those outside are translated
(`TranslatedOutside`) if and only if none begins inside (`translatedOutside_iff`). Then all that
stands inside parentheses is left but for the arguments of a clock (`TranslatedOutside.sublist`),
and each parenthesis keeps its partner unless a group follows `COMMENT`
(`TranslatedOutside.closes_iff`).
-/

namespace SchemaMill.Sql.Postgres

open Nesting

/-! ### Groups -/

/-- Parts are a group and what stands behind it, if `d` parentheses are open around the group and
`e` in front of it. All of the group is held if `held`. -/
def IsBehindGroup (d e : Int) (held : Prop) (ps after : List Part) : Prop :=
  ∃ group, ps = group ++ after ∧
    marked Part.change e ps = marked Part.change e group ++ marked Part.change d after ∧
    (held → ∀ p ∈ marked Part.change e group, p.2 = true)

section Group

variable {d e : Int} {held held' : Prop} {ps after : List Part}

theorem isBehindGroup_self (d : Int) (held : Prop) (ps : List Part) :
    IsBehindGroup d d held ps ps :=
  ⟨[], rfl, rfl, fun _ => List.forall_mem_nil _⟩

theorem IsBehindGroup.cons {p : Part} (hheld : held' → held ∧ 0 < e)
    (h : IsBehindGroup d (e + p.change) held ps after) :
    IsBehindGroup d e held' (p :: ps) after := by
  obtain ⟨group, hps, hmarked, hgroup⟩ := h
  refine ⟨p :: group, by rw [List.cons_append, ← hps], ?_, fun h => ?_⟩
  · rw [marked, marked, hmarked, List.cons_append]
  · exact List.forall_mem_cons.mpr ⟨decide_eq_true (hheld h).2, hgroup (hheld h).1⟩

theorem isBehindGroup_afterGroup {k : Nat} (hk : 0 < k) (d : Int) (ps : List Part) :
    IsBehindGroup d (d + k) (0 ≤ d) ps (afterGroup k ps) := by
  induction ps generalizing k with
  | nil => exact ⟨[], rfl, rfl, fun _ => List.forall_mem_nil _⟩
  | cons p ps ih =>
    have hchange := p.change_eq
    have hheld : 0 ≤ d → 0 ≤ d ∧ 0 < d + k := fun hd => ⟨hd, by omega⟩
    rw [afterGroup]
    split_ifs with hopen hclose hone
    · refine .cons hheld ?_
      rw [hchange, if_pos hopen, Int.add_assoc]
      exact ih (Nat.succ_pos k)
    · refine .cons hheld ?_
      rw [hchange, if_neg hopen, if_pos hclose, show d + k + -1 = d by omega]
      exact isBehindGroup_self d _ ps
    · refine .cons hheld ?_
      rw [hchange, if_neg hopen, if_pos hclose, show d + k + -1 = d + (k - 1 : Nat) by omega]
      exact ih (by omega)
    · refine .cons hheld ?_
      rw [hchange, if_neg hopen, if_neg hclose, Int.add_zero]
      exact ih hk

theorem isBehindGroup_skipGroup (d : Int) (ps : List Part) :
    IsBehindGroup d d (0 < d) ps (skipGroup ps) := by
  cases ps with
  | nil => exact isBehindGroup_self d _ []
  | cons p ps =>
    rw [skipGroup]
    split_ifs with hopen
    · refine .cons (fun hd => ⟨Int.le_of_lt hd, hd⟩) ?_
      rw [p.change_eq, if_pos hopen]
      exact isBehindGroup_afterGroup Nat.one_pos d ps
    · exact isBehindGroup_self d _ _

end Group

theorem closes_afterGroup {k : Nat} (hk : 0 < k) {ps : List Part}
    (h : Closes Part.change k ps) : Closes Part.change 0 (afterGroup k ps) := by
  induction ps generalizing k with
  | nil => rfl
  | cons p ps ih =>
    have hchange := p.change_eq
    have hrest := h.2
    rw [afterGroup]
    split_ifs with hopen hclose hone
    · rw [hchange, if_pos hopen] at hrest
      exact ih (Nat.succ_pos k) hrest
    · rw [hchange, if_neg hopen, if_pos hclose, show (k : Int) + -1 = 0 by omega] at hrest
      exact hrest
    · rw [hchange, if_neg hopen, if_pos hclose, show (k : Int) + -1 = (k - 1 : Nat) by omega]
        at hrest
      exact ih (by omega) hrest
    · rw [hchange, if_neg hopen, if_neg hclose, Int.add_zero] at hrest
      exact ih hk hrest

theorem closes_skipGroup {ps : List Part} (h : Closes Part.change 0 ps) :
    Closes Part.change 0 (skipGroup ps) := by
  cases ps with
  | nil => exact h
  | cons p ps =>
    rw [skipGroup]
    split_ifs with hopen
    · have hrest := h.2
      rw [Part.change_eq, if_pos hopen] at hrest
      exact closes_afterGroup Nat.one_pos hrest
    · exact h

/-! ### The rule -/

/-- The words of attributes that PostgreSQL does not have, or has by another name. -/
def attributeWords : List Text :=
  droppedAttributes ++ ["AUTO_INCREMENT", "COMMENT"].map String.toList

/-- Takes an attribute that PostgreSQL does not have. -/
def attributeRule : Rule (Part × Bool) Part
  | [] => none
  | p :: rest =>
    if droppedAttributes.contains p.1.word then some ⟨[p], [], rest⟩
    else if p.1.isWord "AUTO_INCREMENT" then some ⟨[p], [identity p.1.spaced], rest⟩
    else if p.1.isWord "COMMENT" then some ⟨p :: rest.take 1, [], rest.tail⟩
    else if startsUpdateClock ((p :: rest).map Prod.fst) then
      let after := rest.drop 2
      let n := after.length - (skipGroup (after.map Prod.fst)).length
      some ⟨p :: (rest.take 2 ++ after.take n), [], after.drop n⟩
    else none

theorem rewritten_columnOptions (ps : List (Part × Bool)) :
    Rewritten Prod.fst attributeRule ps (columnOptions (ps.map Prod.fst)) := by
  match ps with
  | [] =>
    rw [List.map_nil, columnOptions]
    exact .nil
  | p :: rest =>
    rw [List.map_cons, columnOptions]
    split_ifs with hdropped hidentity hcomment hclock
    · have hsome : attributeRule (p :: rest) = some ⟨[p], [], rest⟩ := by
        rw [attributeRule, if_pos hdropped]
      exact .rule hsome (rewritten_columnOptions rest)
    · have hsome : attributeRule (p :: rest) = some ⟨[p], [identity p.1.spaced], rest⟩ := by
        rw [attributeRule, if_neg hdropped, if_pos hidentity]
      exact .rule hsome (rewritten_columnOptions rest)
    · have hsome : attributeRule (p :: rest) = some ⟨p :: rest.take 1, [], rest.tail⟩ := by
        rw [attributeRule, if_neg hdropped, if_neg hidentity, if_pos hcomment]
      rw [← List.map_tail]
      exact .rule hsome (rewritten_columnOptions rest.tail)
    · let after := rest.drop 2
      let n := after.length - (skipGroup (after.map Prod.fst)).length
      have hsome : attributeRule (p :: rest) =
          some ⟨p :: (rest.take 2 ++ after.take n), [], after.drop n⟩ := by
        rw [attributeRule, if_neg hdropped, if_neg hidentity, if_neg hcomment, List.map_cons,
          if_pos hclock]
      have hafter : skipGroup ((rest.map Prod.fst).drop 2) = (after.drop n).map Prod.fst := by
        have hsuffix := List.suffix_iff_eq_drop.mp (skipGroup_suffix (after.map Prod.fst))
        rw [List.length_map, ← List.map_drop] at hsuffix
        rw [← List.map_drop]
        exact hsuffix
      rw [hafter]
      exact .rule hsome (rewritten_columnOptions (after.drop n))
    · have hnone : attributeRule (p :: rest) = none := by
        rw [attributeRule, if_neg hdropped, if_neg hidentity, if_neg hcomment, List.map_cons,
          if_neg hclock]
      exact .keep hnone (rewritten_columnOptions rest)
termination_by ps.length

/-- What the rule takes from the front of parts, and what it gives, if `d` parentheses are open in
front of them. -/
inductive IsAttribute (d : Int) : List Part → Exchange (Part × Bool) Part → Prop where
  | word {p : Part} {ps given : List Part} (hword : p.word ∈ attributeWords)
    (hcomment : p.isWord "COMMENT" → ps = [])
    (hgiven : given = [] ∨ given = [identity p.spaced]) :
    IsAttribute d (p :: ps) ⟨[(p, decide (0 < d))], given, marked Part.change d ps⟩
  | comment {p q : Part} {ps : List Part} (hword : p.isWord "COMMENT") :
    IsAttribute d (p :: q :: ps)
      ⟨[(p, decide (0 < d)), (q, decide (0 < d))], [], marked Part.change (d + q.change) ps⟩
  | clock {p u c : Part} {group ps : List Part} (hclock : startsUpdateClock [p, u, c])
    (hgroup : skipGroup (group ++ ps) = ps)
    (hheld : 0 < d → ∀ p ∈ marked Part.change d group, p.2 = true) :
    IsAttribute d (p :: u :: c :: (group ++ ps))
      ⟨(p, decide (0 < d)) :: (u, decide (0 < d)) :: (c, decide (0 < d)) ::
        marked Part.change d group, [], marked Part.change d ps⟩

theorem change_of_mem_attributeWords {p : Part} (h : p.word ∈ attributeWords) : p.change = 0 :=
  Part.change_of_mem (by decide) h

theorem change_of_startsUpdateClock {p u c : Part} {ps : List Part}
    (h : startsUpdateClock (p :: u :: c :: ps)) : p.change = 0 ∧ u.change = 0 ∧ c.change = 0 := by
  simp only [startsUpdateClock, Bool.and_eq_true] at h
  exact ⟨Part.change_of_isWord (by decide) h.1.1, Part.change_of_isWord (by decide) h.1.2,
    Part.change_of_mem (by decide) (List.contains_iff_mem.mp h.2)⟩

theorem isAttribute_of_attributeRule {d : Int} {ps : List Part}
    {e : Exchange (Part × Bool) Part} (h : attributeRule (marked Part.change d ps) = some e) :
    IsAttribute d ps e := by
  cases ps with
  | nil => cases h
  | cons p ps =>
    rw [marked, attributeRule] at h
    have hnot : p.isWord "COMMENT" → ¬droppedAttributes.contains p.word := fun hword => by
      rw [beq_iff_eq.mp hword]
      decide
    have hnot' : p.isWord "COMMENT" → ¬p.isWord "AUTO_INCREMENT" := fun hword => by
      rw [Part.isWord, beq_iff_eq.mp hword]
      decide
    split_ifs at h with hdropped hidentity hcomment hclock
    · have hword : p.word ∈ attributeWords :=
        List.mem_append_left _ (List.contains_iff_mem.mp hdropped)
      rw [change_of_mem_attributeWords hword, Int.add_zero] at h
      cases h
      exact .word hword (fun hcomment => absurd hdropped (hnot hcomment)) (Or.inl rfl)
    · have hword : p.word ∈ attributeWords := by
        rw [Part.isWord, beq_iff_eq] at hidentity
        rw [hidentity]
        decide
      rw [change_of_mem_attributeWords hword, Int.add_zero] at h
      cases h
      exact .word hword (fun hcomment => absurd hidentity (hnot' hcomment)) (Or.inr rfl)
    · have hword : p.word ∈ attributeWords := by
        rw [Part.isWord, beq_iff_eq] at hcomment
        rw [hcomment]
        decide
      rw [change_of_mem_attributeWords hword, Int.add_zero] at h
      cases ps with
      | nil => cases h; exact .word hword (fun _ => rfl) (Or.inl rfl)
      | cons q ps => cases h; exact .comment hcomment
    · rw [List.map_cons, map_fst_marked] at hclock
      rcases ps with _ | ⟨u, _ | ⟨c, ps⟩⟩
      · cases hclock
      · cases hclock
      obtain ⟨hp, hu, hc⟩ := change_of_startsUpdateClock hclock
      obtain ⟨group, hps, hmarked, hheld⟩ := isBehindGroup_skipGroup d ps
      simp only [marked, hp, hu, hc, Int.add_zero, List.drop_succ_cons, List.drop_zero,
        map_fst_marked] at h
      have hlength : (marked Part.change d ps).length - (skipGroup ps).length =
          (marked Part.change d group).length := by
        rw [hmarked, List.length_append, length_marked _ _ (skipGroup ps), Nat.add_sub_cancel]
      rw [hlength, hmarked, List.take_left, List.drop_left] at h
      cases h
      have hgroup : skipGroup (group ++ skipGroup ps) = skipGroup ps := by rw [← hps]
      have hclock' : startsUpdateClock [p, u, c] := hclock
      have := IsAttribute.clock hclock' hgroup hheld
      rwa [← hps] at this

theorem isWord_of_startsUpdateClock {p : Part} {ps : List Part}
    (h : startsUpdateClock (p :: ps)) : p.isWord "ON" := by
  rcases ps with _ | ⟨u, _ | ⟨c, ps⟩⟩
  · cases h
  · cases h
  · simp only [startsUpdateClock, Bool.and_eq_true] at h
    exact h.1.1

theorem not_mem_attributeWords_of_startsUpdateClock {p : Part} {ps : List Part}
    (h : startsUpdateClock (p :: ps)) : p.word ∉ attributeWords := by
  rw [beq_iff_eq.mp (isWord_of_startsUpdateClock h)]
  decide

/-! ### Held attributes -/

/-- Whether the first of some parts is held. -/
def headHeld (ps : List (Part × Bool)) : Bool := ps.head?.any Prod.snd

/-- Whether a part reads as the beginning of an attribute. -/
def beginsAttribute (p : Part) : Bool := attributeWords.contains p.word || p.isWord "ON"

theorem exchanges_attributeRule : attributeRule.Exchanges Prod.fst beginsAttribute := by
  intro as e h
  unfold attributeRule at h
  split at h
  · cases h
  · next p rest =>
    have hcount : ∀ ps : List (Part × Bool), beginsAttribute p.1 →
        0 < ((p :: ps).map Prod.fst).countP beginsAttribute := fun ps hp => by
      rw [List.map_cons, List.countP_cons_of_pos hp]
      exact Nat.succ_pos _
    have hword : ∀ {w : String}, p.1.isWord w → attributeWords.contains w.toList →
        beginsAttribute p.1 := fun hw hmem => by
      rw [beginsAttribute, beq_iff_eq.mp hw, hmem, Bool.true_or]
    split_ifs at h with hdropped hidentity hcomment hclock
    · cases h
      refine ⟨rfl, hcount [] ?_⟩
      have hmem : p.1.word ∈ attributeWords :=
        List.mem_append_left _ (List.contains_iff_mem.mp hdropped)
      rw [beginsAttribute, List.contains_iff_mem.mpr hmem, Bool.true_or]
    · cases h
      have hgiven : [identity p.1.spaced].countP beginsAttribute = 0 := by
        cases p.1.spaced <;> decide
      exact ⟨rfl, hgiven ▸ hcount [] (hword hidentity (by decide))⟩
    · cases h
      refine ⟨?_, hcount _ (hword hcomment (by decide))⟩
      rw [← List.drop_one, List.cons_append, List.take_append_drop]
    · cases h
      refine ⟨by simp, hcount _ ?_⟩
      rw [beginsAttribute, isWord_of_startsUpdateClock hclock, Bool.or_true]

theorem held_of_attributeRule {ps : List (Part × Bool)} {e : Exchange (Part × Bool) Part}
    (hmarked : IsMarked Part.change ps) (h : attributeRule ps = some e)
    (hheld : headHeld e.taken = true) : ∀ p ∈ e.taken, p.2 = true := by
  obtain ⟨d, ps, rfl⟩ := hmarked
  cases isAttribute_of_attributeRule h with
  | word => simpa [headHeld] using hheld
  | comment => simpa [headHeld] using hheld
  | clock hclock hgroup hgroupHeld =>
    have hd : 0 < d := by simpa [headHeld] using hheld
    have hmark : decide (0 < d) = true := decide_eq_true hd
    simpa only [hmark, List.forall_mem_cons, true_and] using hgroupHeld hd

theorem keepsBarred_attributeRule :
    Rewritten.KeepsBarred attributeRule headHeld (IsMarked Part.change) :=
  keepsBarred_of_held exchanges_attributeRule (fun p ps hp => by rw [headHeld]; exact hp)
    held_of_attributeRule

theorem headHeld_of_attributeRule {d : Int} {ps : List Part} {e : Exchange (Part × Bool) Part}
    (h : attributeRule (marked Part.change d ps) = some e) :
    headHeld e.taken = decide (0 < d) := by
  cases isAttribute_of_attributeRule h <;> rfl

theorem except_attributeRule_eq_none_iff {d : Int} (hd : ¬0 < d) {ps : List Part} :
    attributeRule.except headHeld (marked Part.change d ps) = none ↔
      attributeRule (marked Part.change d ps) = none := by
  refine ⟨fun hnone => ?_, Rule.except_eq_none⟩
  cases hsome : attributeRule (marked Part.change d ps) with
  | none => rfl
  | some e =>
    have hbar := (headHeld_of_attributeRule hsome).trans (decide_eq_false hd)
    rw [Rule.except_of_not_bar hsome hbar] at hnone
    cases hnone

theorem except_attributeRule_eq_some_iff {d : Int} {ps : List Part}
    {e : Exchange (Part × Bool) Part} :
    attributeRule.except headHeld (marked Part.change d ps) = some e ↔
      attributeRule (marked Part.change d ps) = some e ∧ ¬0 < d := by
  rw [Rule.except_eq_some_iff]
  refine and_congr_right fun hsome => ?_
  rw [headHeld_of_attributeRule hsome, decide_eq_false_iff_not]

/-! ### Translating outside parentheses -/

/-- The attributes of a column if only those outside parentheses are translated, of which `d` are
open in front of them. -/
def TranslatedOutside (d : Int) (ps translated : List Part) : Prop :=
  Rewritten Prod.fst (attributeRule.except headHeld) (marked Part.change d ps) translated

/-- An attribute begins inside parentheses. -/
def AttributeNested (d : Int) (ps : List Part) : Prop :=
  Meets (attributeRule.IsBarred headHeld) (attributeRule.except headHeld) (marked Part.change d ps)

theorem existsUnique_translatedOutside (d : Int) (ps : List Part) :
    ∃! translated, TranslatedOutside d ps translated := by
  have hrule : ∀ {as e}, attributeRule.except headHeld as = some e → e.rest.length < as.length :=
    fun hsome => exchanges_attributeRule.length_rest_lt (Rule.except_eq_some_iff.mp hsome).1
  obtain ⟨translated, h⟩ :=
    Rewritten.exists_of_length_lt Prod.fst hrule (marked Part.change d ps)
  exact ⟨translated, h, fun translated' h' => h'.unique h⟩

theorem translatedOutside_iff (d : Int) (ps : List Part) :
    TranslatedOutside d ps (columnOptions ps) ↔ ¬AttributeNested d ps := by
  have hrun := rewritten_columnOptions (marked Part.change d ps)
  rw [map_fst_marked] at hrun
  exact Rewritten.except_iff exchanges_attributeRule keepsBarred_attributeRule IsMarked.of_append
    ⟨d, ps, rfl⟩ hrun

/-- The parts inside parentheses, if `d` are open in front, without the arguments of a clock that is
set on an update outside of them. What follows `COMMENT` begins no clock. -/
def insideParts (d : Int) : List Part → List Part
  | [] => []
  | p :: ps =>
    if 0 < d then p :: insideParts (d + p.change) ps
    else if p.isWord "COMMENT" then insideParts (d + ps.head?.elim 0 Part.change) ps.tail
    else if startsUpdateClock (p :: ps) then insideParts d (skipGroup (ps.drop 2))
    else insideParts (d + p.change) ps
termination_by ps => ps.length
decreasing_by
  · exact Nat.lt_succ_self _
  · exact Nat.lt_succ_of_le (List.tail_sublist ps).length_le
  · exact Nat.lt_succ_of_le
      (Nat.le_trans (length_skipGroup_le _) (List.drop_sublist 2 ps).length_le)
  · exact Nat.lt_succ_self _

theorem insideParts_of_none {d : Int} (hd : ¬0 < d) {p : Part} {ps : List Part}
    (h : attributeRule (marked Part.change d (p :: ps)) = none) :
    insideParts d (p :: ps) = insideParts (d + p.change) ps := by
  rw [marked, attributeRule] at h
  split_ifs at h with hdropped hidentity hcomment hclock
  rw [List.map_cons, map_fst_marked] at hclock
  rw [insideParts, if_neg hd, if_neg hcomment, if_neg hclock]

/-- What an attribute takes outside parentheses is passed over. -/
theorem insideParts_of_some {d : Int} (hd : ¬0 < d) {ps : List Part}
    {e : Exchange (Part × Bool) Part} (h : attributeRule (marked Part.change d ps) = some e) :
    ∃ d' rest, e.rest = marked Part.change d' rest ∧ insideParts d ps = insideParts d' rest := by
  cases isAttribute_of_attributeRule h with
  | @word p ps given hword hcomment hgiven =>
    refine ⟨d, ps, rfl, ?_⟩
    have hclock : ¬startsUpdateClock (p :: ps) := fun hclock =>
      not_mem_attributeWords_of_startsUpdateClock hclock hword
    rw [insideParts, if_neg hd]
    by_cases hp : p.isWord "COMMENT"
    · rw [if_pos hp, hcomment hp]
      simp [insideParts]
    · rw [if_neg hp, if_neg hclock, change_of_mem_attributeWords hword, Int.add_zero]
  | @comment p q ps hword => exact ⟨_, ps, rfl, by rw [insideParts, if_neg hd, if_pos hword]; rfl⟩
  | @clock p u c group ps hclock hgroup hheld =>
    refine ⟨d, ps, rfl, ?_⟩
    have hstarts : startsUpdateClock (p :: u :: c :: (group ++ ps)) := hclock
    have hcomment : ¬p.isWord "COMMENT" := fun hcomment => by
      refine not_mem_attributeWords_of_startsUpdateClock hclock ?_
      rw [beq_iff_eq.mp hcomment]
      decide
    rw [insideParts, if_neg hd, if_neg hcomment, if_pos hstarts, List.drop_succ_cons,
      List.drop_succ_cons, List.drop_zero, hgroup]

/-- All that stands inside parentheses is left, in its order, but for the arguments of a clock. -/
theorem TranslatedOutside.sublist {d : Int} {ps translated : List Part}
    (h : TranslatedOutside d ps translated) : (insideParts d ps).Sublist translated := by
  unfold TranslatedOutside at h
  generalize hrow : marked Part.change d ps = row at h
  induction h generalizing d ps with
  | nil =>
    cases ps with
    | nil => simp [insideParts]
    | cons => cases hrow
  | keep hnone _ ih =>
    cases ps with
    | nil => cases hrow
    | cons p ps =>
      rw [← hrow] at hnone
      rw [marked, List.cons.injEq] at hrow
      obtain ⟨rfl, hrest⟩ := hrow
      by_cases hd : 0 < d
      · rw [insideParts, if_pos hd]
        exact (ih hrest).cons_cons _
      · rw [insideParts_of_none hd ((except_attributeRule_eq_none_iff hd).mp hnone)]
        exact (ih hrest).cons _
  | rule hsome _ ih =>
    rw [← hrow] at hsome
    obtain ⟨hsome, hd⟩ := except_attributeRule_eq_some_iff.mp hsome
    obtain ⟨d', rest, hrest, hinside⟩ := insideParts_of_some hd hsome
    rw [hinside]
    exact (ih hrest.symm).trans (List.sublist_append_right _ _)

/-! ### Balance -/

/-- Parts begin with a comment outside parentheses that a group follows. -/
def BeginsGroupComment (ps : List (Part × Bool)) : Prop :=
  ∃ p q rest, ps = p :: q :: rest ∧ p.1.isWord "COMMENT" ∧ p.2 = false ∧ q.1.isSign '('

/-- A group follows a comment that stands outside parentheses. -/
def GroupCommented (d : Int) (ps : List Part) : Prop :=
  Meets BeginsGroupComment (attributeRule.except headHeld) (marked Part.change d ps)

theorem change_identity (b : Bool) : (identity b).change = 0 := by cases b <;> decide

/-- What an attribute gives has no parentheses, and it takes none without its partner but behind
`COMMENT`. -/
theorem closes_of_some {ps : List Part} (hcloses : Closes Part.change 0 ps)
    {e : Exchange (Part × Bool) Part} (h : attributeRule (marked Part.change 0 ps) = some e) :
    (∀ p ∈ e.given, p.change = 0) ∧ ∃ d rest, e.rest = marked Part.change d rest ∧
      Closes Part.change d rest ∧
      (d = 0 ∧ ¬BeginsGroupComment (marked Part.change 0 ps) ∨
        d = 1 ∧ BeginsGroupComment (marked Part.change 0 ps)) := by
  cases isAttribute_of_attributeRule h with
  | @word p ps given hword hcomment hgiven =>
    have hrest := hcloses.2
    rw [change_of_mem_attributeWords hword, Int.add_zero] at hrest
    refine ⟨?_, 0, ps, rfl, hrest, Or.inl ⟨rfl, ?_⟩⟩
    · rcases hgiven with rfl | rfl
      · exact List.forall_mem_nil _
      · exact List.forall_mem_singleton.mpr (change_identity _)
    · rintro ⟨p', q, rest, hrow, hcomment', -, -⟩
      rw [marked, List.cons.injEq] at hrow
      obtain ⟨rfl, hrow⟩ := hrow
      rw [hcomment hcomment'] at hrow
      cases hrow
  | @comment p q ps hword =>
    have hp := Part.change_of_isWord (by decide) hword
    have hrest := hcloses.2
    rw [hp, Int.add_zero] at hrest
    refine ⟨List.forall_mem_nil _, _, ps, rfl, hrest.2, ?_⟩
    rw [Int.zero_add, Part.change_eq]
    split_ifs with hopen hclose
    · exact Or.inr ⟨rfl, (p, false), (q, false), marked Part.change q.change ps,
        by simp [marked, hp], hword, rfl, hopen⟩
    · -- outside parentheses none can be closed
      have hnonneg := hrest.2.nonneg
      rw [Part.change_eq, if_neg hopen, if_pos hclose] at hnonneg
      exact absurd hnonneg (by decide)
    · refine Or.inl ⟨rfl, ?_⟩
      rintro ⟨p', q', rest, hrow, -, -, hopen'⟩
      simp only [marked, List.cons.injEq] at hrow
      obtain ⟨-, rfl, -⟩ := hrow
      exact hopen hopen'
  | @clock p u c group ps hclock hgroup hheld =>
    have hnot := not_mem_attributeWords_of_startsUpdateClock hclock
    obtain ⟨hp, hu, hc⟩ := change_of_startsUpdateClock hclock
    have hrest := hcloses.2.2.2
    rw [hp, hu, hc, Int.add_zero, Int.add_zero, Int.add_zero] at hrest
    refine ⟨List.forall_mem_nil _, 0, ps, rfl, ?_, Or.inl ⟨rfl, ?_⟩⟩
    · rw [← hgroup]
      exact closes_skipGroup hrest
    · rintro ⟨p', q', rest, hrow, hcomment, -, -⟩
      rw [marked, List.cons.injEq] at hrow
      obtain ⟨rfl, -⟩ := hrow
      rw [beq_iff_eq.mp hcomment] at hnot
      exact hnot (by decide)

theorem not_beginsGroupComment {ps : List (Part × Bool)}
    (h : attributeRule.except headHeld ps = none) : ¬BeginsGroupComment ps := by
  rintro ⟨p, q, rest, rfl, hword, hp, -⟩
  have hnot : droppedAttributes.contains p.1.word = false ∧
      p.1.isWord "AUTO_INCREMENT" = false := by
    rw [Part.isWord, beq_iff_eq.mp hword]
    decide
  have hsome : attributeRule (p :: q :: rest) = some ⟨[p, q], [], rest⟩ := by
    rw [attributeRule, if_neg (Bool.eq_false_iff.mp hnot.1), if_neg (Bool.eq_false_iff.mp hnot.2),
      if_pos hword]
    rfl
  rw [Rule.except_of_not_bar hsome hp] at h
  cases h

theorem closes_of_translatedOutside {d : Int} {ps translated : List Part}
    (h : TranslatedOutside d ps translated) (hcloses : Closes Part.change d ps) :
    (¬GroupCommented d ps → Closes Part.change d translated) ∧
      (translated.map Part.change).sum ≤ -d ∧
      (GroupCommented d ps → (translated.map Part.change).sum < -d) := by
  -- a comment takes an opening parenthesis from what follows it, and that is made up for nowhere
  unfold TranslatedOutside at h
  unfold GroupCommented
  generalize hrow : marked Part.change d ps = row at h ⊢
  induction h generalizing d ps with
  | nil =>
    cases ps with
    | cons => cases hrow
    | nil =>
      rw [show d = 0 from hcloses]
      refine ⟨fun _ => rfl, Int.le_refl _, ?_⟩
      rintro (⟨p, q, rest, hnil, -⟩)
      cases hnil
  | @keep a row bs hnone _ ih =>
    cases ps with
    | nil => cases hrow
    | cons p ps =>
      rw [marked, List.cons.injEq] at hrow
      obtain ⟨rfl, hrest⟩ := hrow
      obtain ⟨ih, ihle, ihlt⟩ := ih hcloses.2 hrest
      rw [meets_cons_of_none hnone, or_iff_right (not_beginsGroupComment hnone)]
      simp only [List.map_cons, List.sum_cons]
      refine ⟨fun hnot => ⟨hcloses.1, ih hnot⟩, by omega, fun hmeets => ?_⟩
      have hlt := ihlt hmeets
      omega
  | @rule a row e bs hsome _ ih =>
    rw [← hrow] at hsome
    obtain ⟨hsome', hd⟩ := except_attributeRule_eq_some_iff.mp hsome
    obtain rfl : d = 0 := Int.le_antisymm (Int.not_lt.mp hd) hcloses.nonneg
    obtain ⟨hgiven, d, rest, hrest, hcloses', hbegins⟩ := closes_of_some hcloses hsome'
    obtain ⟨ih, ihle, ihlt⟩ := ih hcloses' hrest.symm
    have hzero : (e.given.map Part.change).sum = 0 :=
      List.sum_eq_zero (List.forall_mem_map.mpr hgiven)
    rw [hrow] at hsome hbegins
    rw [List.map_append, List.sum_append, hzero, Int.zero_add]
    obtain ⟨rfl, hbegins⟩ | ⟨rfl, hbegins⟩ := hbegins
    · rw [meets_cons_of_some hsome, or_iff_right hbegins]
      exact ⟨fun hnot => (ih hnot).append hgiven, ihle, ihlt⟩
    · exact ⟨fun hnot => absurd (.here hbegins) hnot, by omega, fun _ => by omega⟩

/-- Translating outside parentheses keeps them in pairs if and only if no group follows a comment
there. -/
theorem TranslatedOutside.closes_iff {ps translated : List Part}
    (h : TranslatedOutside 0 ps translated) (hcloses : Closes Part.change 0 ps) :
    Closes Part.change 0 translated ↔ ¬GroupCommented 0 ps := by
  obtain ⟨hclosed, -, hlt⟩ := closes_of_translatedOutside h hcloses
  refine ⟨fun htranslated hmeets => ?_, hclosed⟩
  have hzero := htranslated.sum_eq
  have hneg := hlt hmeets
  omega

/-- There is one way to translate attributes outside parentheses, and those of a column are
translated so if and only if none begins inside. Then all that stands inside is left, in its order,
but for the arguments of a clock, and parentheses stay in pairs unless a group follows a
comment. -/
theorem columnOptions_outside_iff (ps : List Part) :
    (∃! translated, TranslatedOutside 0 ps translated) ∧
      (TranslatedOutside 0 ps (columnOptions ps) ↔ ¬AttributeNested 0 ps) ∧
      (¬AttributeNested 0 ps → (insideParts 0 ps).Sublist (columnOptions ps) ∧
        (Closes Part.change 0 ps →
          (Closes Part.change 0 (columnOptions ps) ↔ ¬GroupCommented 0 ps))) := by
  refine ⟨existsUnique_translatedOutside 0 ps, translatedOutside_iff 0 ps, fun hnested => ?_⟩
  have h := (translatedOutside_iff 0 ps).mpr hnested
  exact ⟨h.sublist, h.closes_iff⟩

/-- The name of a referenced column is read as an attribute, and a parenthesis is lost with it. -/
theorem columnOptions_references_comment :
    let ps : List Part := [.token ⟨.name, "REFERENCES", true⟩, .name ⟨[], ⟨"p", false⟩, true⟩,
      .token ⟨.punctuation, "(", true⟩, .token ⟨.name, "comment", false⟩,
      .token ⟨.punctuation, ")", false⟩]
    Closes Part.change 0 ps ∧ ¬TranslatedOutside 0 ps (columnOptions ps) ∧
      ¬Closes Part.change 0 (columnOptions ps) := by
  intro ps
  have hnested : AttributeNested 0 ps :=
    .keep rfl (.keep rfl (.keep rfl (.here ⟨_, rfl, rfl⟩)))
  refine ⟨by decide, fun h => ?_, by decide +kernel⟩
  exact (columnOptions_outside_iff ps).2.1.mp h hnested

end SchemaMill.Sql.Postgres
