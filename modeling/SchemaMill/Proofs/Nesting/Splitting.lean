import Mathlib.Order.Bounds.Basic
import SchemaMill.Proofs.Nesting.Balance

/-!
# Groups and their elements

A group ends at the first place behind its opening parenthesis at which the depth is back where it
was (`ReturnsAt`), and it has no end if there is no such place (`closeGroup_drop_eq_some_iff`,
`closeGroup_drop_eq_none_iff`). The tokens in between are cut at the commas outside parentheses.
`IsSplit` says of some pieces that they are those between such commas, and only the pieces that
`splitAtCommas` gives are (`isSplit_iff`). So the reader's two counters of parentheses agree.

`closeGroup_and_splitElements` puts the two together.
-/

namespace SchemaMill.Sql

/-- Behind place `j` the depth is back where it was in front of place `i`. -/
def ReturnsAt (ts : List Token) (i j : Nat) : Prop :=
  i < j ∧ j < ts.length ∧ depth ((ts.take (j + 1)).drop i) = 0

/-- No comma stands outside parentheses if `d` are open in front of the tokens. -/
def Uncut (d : Int) (ts : List Token) : Prop :=
  ∀ us t, us ++ [t] <+: ts → t.isSign ',' → d + depth us ≠ 0

/-- Tokens are made up of pieces with a comma between each two. -/
inductive CommaJoined : (pieces : List (List Token)) → List Token → Prop where
  | last (ts : List Token) : CommaJoined [ts] ts
  | comma {ts rest : List Token} {pieces : List (List Token)} {sep : Token} (hsep : sep.isSign ',')
    (hrest : CommaJoined pieces rest) : CommaJoined (ts :: pieces) (ts ++ sep :: rest)

/-- Tokens are made up of balanced pieces, and the commas between these are all that stand outside
parentheses. -/
structure IsSplit (pieces : List (List Token)) (ts : List Token) : Prop where
  joined : CommaJoined pieces ts
  balanced : ∀ piece ∈ pieces, Balanced piece
  uncut : ∀ piece ∈ pieces, Uncut 0 piece

/-! ### Where a group ends -/

section Groups

variable {ts body tail : List Token} {i j : Nat} {opening : Token}

theorem returnsAt_iff (hi : ts[i]? = some opening) (hopen : opening.isSign '(') :
    ReturnsAt ts i j ↔ ∃ k, j = i + 1 + k ∧ k < (ts.drop (i + 1)).length ∧
      depth ((ts.drop (i + 1)).take (k + 1)) = -1 := by
  obtain ⟨hlt, hget⟩ := List.getElem?_eq_some_iff.mp hi
  have hdepth (k : Nat) : depth ((ts.take (i + 1 + k + 1)).drop i) =
      1 + depth ((ts.drop (i + 1)).take (k + 1)) := by
    have hlength : i + 1 + k + 1 - i = k + 1 + 1 := by omega
    rw [List.drop_take, List.drop_eq_getElem_cons hlt, hget, hlength, List.take_succ_cons,
      depth_cons, Token.change_of_open hopen]
  constructor
  · rintro ⟨hij, hj, hzero⟩
    obtain ⟨k, rfl⟩ := Nat.exists_eq_add_of_lt hij
    have hk : i + k + 1 = i + 1 + k := by omega
    rw [hk] at hj hzero ⊢
    rw [hdepth] at hzero
    exact ⟨k, rfl, by rw [List.length_drop]; omega, by omega⟩
  · rintro ⟨k, rfl, hk, hone⟩
    rw [List.length_drop] at hk
    exact ⟨by omega, by omega, by rw [hdepth]; omega⟩

theorem closeGroup_one_eq_none_iff : closeGroup 1 ts = none ↔ StaysOpen ts := by
  rw [show (1 : Nat) = 0 + 1 from rfl, closeGroup_eq_none_iff, Option.isSome_iff_exists]
  simp only [openAfter_eq_some_iff]
  constructor
  · rintro ⟨e, hstays, -⟩ us hus
    simpa using hstays us hus
  · intro hstays
    obtain ⟨e, he⟩ := Int.eq_ofNat_of_zero_le (hstays ts List.prefix_rfl)
    exact ⟨e, fun us hus => by simpa using hstays us hus, by simpa using he⟩

/-- A group that ends does so at the first place at which the depth is back. -/
theorem isLeast_of_closeGroup (hi : ts[i]? = some opening) (hopen : opening.isSign '(')
    (h : closeGroup 1 (ts.drop (i + 1)) = some (body, tail)) :
    ∃ j, IsLeast {j | ReturnsAt ts i j} j ∧ body = (ts.take j).drop (i + 1) ∧
      tail = ts.drop (j + 1) := by
  obtain ⟨closing, hrest, hclose, hbody⟩ := exists_of_closeGroup h
  obtain ⟨hstays, hzero⟩ := isBalanced_iff.mp hbody
  refine ⟨i + 1 + body.length, ⟨?_, ?_⟩, ?_, ?_⟩
  · refine (returnsAt_iff hi hopen).mpr ⟨body.length, rfl, by simp [hrest], ?_⟩
    rw [hrest, List.take_length_add_append]
    simp [hzero, Token.change_of_close hclose]
  · rintro j hj
    obtain ⟨k, rfl, -, hone⟩ := (returnsAt_iff hi hopen).mp hj
    -- in front of the end of the body the depth is never below that at its start
    by_contra hlt
    have hk : k + 1 ≤ body.length := by omega
    rw [hrest, List.take_append_of_le_length hk] at hone
    have hnonneg := hstays _ (List.take_prefix (k + 1) body)
    omega
  · rw [List.drop_take, hrest, Nat.add_sub_cancel_left, List.take_left]
  · rw [Nat.add_assoc, ← List.drop_drop, hrest, List.drop_length_add_append]
    rfl

theorem closeGroup_drop_eq_none_iff (hi : ts[i]? = some opening) (hopen : opening.isSign '(') :
    closeGroup 1 (ts.drop (i + 1)) = none ↔ ∀ j, ¬ReturnsAt ts i j := by
  constructor
  · intro hnone j hj
    obtain ⟨k, -, -, hone⟩ := (returnsAt_iff hi hopen).mp hj
    have hnonneg := closeGroup_one_eq_none_iff.mp hnone _ (List.take_prefix (k + 1) _)
    omega
  · intro hnot
    rw [Option.eq_none_iff_forall_ne_some]
    rintro ⟨body, tail⟩ hclosed
    obtain ⟨j, hj, -, -⟩ := isLeast_of_closeGroup hi hopen hclosed
    exact hnot j hj.1

theorem closeGroup_drop_eq_some_iff (hi : ts[i]? = some opening) (hopen : opening.isSign '(') :
    closeGroup 1 (ts.drop (i + 1)) = some (body, tail) ↔
      ∃ j, IsLeast {j | ReturnsAt ts i j} j ∧ body = (ts.take j).drop (i + 1) ∧
        tail = ts.drop (j + 1) := by
  refine ⟨isLeast_of_closeGroup hi hopen, ?_⟩
  rintro ⟨j, hj, rfl, rfl⟩
  cases hclosed : closeGroup 1 (ts.drop (i + 1)) with
  | none => exact absurd hj.1 ((closeGroup_drop_eq_none_iff hi hopen).mp hclosed j)
  | some group =>
    obtain ⟨j', hj', hbody, htail⟩ := isLeast_of_closeGroup hi hopen hclosed
    obtain rfl := hj.unique hj'
    rw [← hbody, ← htail]

end Groups

/-! ### Pieces between commas -/

section Pieces

variable {d : Int} {t : Token} {ts piece : List Token} {pieces : List (List Token)}

theorem uncut_cons_iff :
    Uncut d (t :: ts) ↔ (t.isSign ',' && d == 0) = false ∧ Uncut (depthAfter d t) ts := by
  rw [depthAfter_eq]
  constructor
  · intro h
    refine ⟨Bool.eq_false_iff.mpr fun hcut => ?_, fun us u hus hcomma => ?_⟩
    · rw [Bool.and_eq_true, beq_iff_eq] at hcut
      exact h [] t (by simp) hcut.1 (by simp [hcut.2])
    · have hne := h (t :: us) u (by simpa using hus) hcomma
      rw [depth_cons] at hne
      omega
  · rintro ⟨hcut, h⟩ us u hus hcomma
    cases us with
    | nil =>
      obtain rfl : u = t := by simpa using hus
      simpa [hcomma] using hcut
    | cons v us =>
      obtain ⟨rfl, htail⟩ := List.cons_prefix_cons.mp hus
      have hne := h us u htail hcomma
      rw [depth_cons]
      omega

theorem splitAtCommas_of_uncut (h : Uncut d ts) : splitAtCommas d ts = [ts] := by
  induction ts generalizing d with
  | nil => rfl
  | cons t ts ih =>
    obtain ⟨hcut, hts⟩ := uncut_cons_iff.mp h
    exact splitAtCommas_cons hcut (ih hts)

theorem uncut_of_splitAtCommas (h : splitAtCommas d ts = piece :: pieces) :
    Uncut d piece ∧ ∀ us ∈ pieces, Uncut 0 us := by
  induction ts generalizing d piece pieces with
  | nil =>
    cases h
    exact ⟨by rintro us t ⟨_, hus⟩; simp at hus, by rintro _ ⟨⟩⟩
  | cons t ts ih =>
    by_cases hcut : (t.isSign ',' && d == 0) = true
    · rw [splitAtCommas, if_pos hcut] at h
      cases h
      obtain rfl : d = 0 := by simp at hcut; exact hcut.2
      obtain ⟨first, more, hmore⟩ := List.exists_cons_of_ne_nil (splitAtCommas_ne_nil 0 ts)
      obtain ⟨hfirst, hrest⟩ := ih hmore
      exact ⟨by rintro us t ⟨_, hus⟩; simp at hus, by
        rw [hmore]; exact List.forall_mem_cons.mpr ⟨hfirst, hrest⟩⟩
    · obtain ⟨first, more, hmore⟩ :=
        List.exists_cons_of_ne_nil (splitAtCommas_ne_nil (depthAfter d t) ts)
      rw [splitAtCommas_cons (by simpa using hcut) hmore] at h
      cases h
      obtain ⟨hfirst, hrest⟩ := ih hmore
      exact ⟨uncut_cons_iff.mpr ⟨by simpa using hcut, hfirst⟩, hrest⟩

theorem CommaJoined.cons (h : CommaJoined (piece :: pieces) ts) (t : Token) :
    CommaJoined ((t :: piece) :: pieces) (t :: ts) := by
  cases h with
  | last => exact .last _
  | comma hsep hrest => exact @CommaJoined.comma (t :: piece) _ _ _ hsep hrest

theorem commaJoined_splitAtCommas (d : Int) (ts : List Token) :
    CommaJoined (splitAtCommas d ts) ts := by
  induction ts generalizing d with
  | nil => exact .last []
  | cons t ts ih =>
    by_cases hcut : (t.isSign ',' && d == 0) = true
    · rw [splitAtCommas, if_pos hcut]
      rw [Bool.and_eq_true] at hcut
      exact @CommaJoined.comma [] _ _ _ hcut.1 (ih d)
    · obtain ⟨first, more, hmore⟩ :=
        List.exists_cons_of_ne_nil (splitAtCommas_ne_nil (depthAfter d t) ts)
      rw [splitAtCommas_cons (by simpa using hcut) hmore]
      exact (hmore ▸ ih _).cons t

theorem isSplit_splitAtCommas (h : Balanced ts) : IsSplit (splitAtCommas 0 ts) ts := by
  obtain ⟨first, more, hmore⟩ := List.exists_cons_of_ne_nil (splitAtCommas_ne_nil 0 ts)
  obtain ⟨hfirst, hrest⟩ :=
    openAfter_of_splitAtCommas (beq_iff_eq.mp (isBalanced_iff.mpr h)) hmore
  obtain ⟨hfirst', hrest'⟩ := uncut_of_splitAtCommas hmore
  refine ⟨commaJoined_splitAtCommas 0 ts, ?_, ?_⟩
  · rw [hmore]
    refine List.forall_mem_cons.mpr ⟨isBalanced_iff.mp (beq_iff_eq.mpr hfirst), fun us hus => ?_⟩
    exact isBalanced_iff.mp (beq_iff_eq.mpr (hrest us hus))
  · rw [hmore]
    exact List.forall_mem_cons.mpr ⟨hfirst', hrest'⟩

/-- Balanced tokens are split in one way. -/
theorem IsSplit.eq_splitAtCommas (h : IsSplit pieces ts) : pieces = splitAtCommas 0 ts := by
  obtain ⟨hjoined, hbalanced, huncut⟩ := h
  induction hjoined with
  | last ts => exact (splitAtCommas_of_uncut (huncut ts (List.mem_singleton_self ts))).symm
  | @comma ts rest pieces sep hsep hrest ih =>
    obtain ⟨hts, hpieces⟩ := List.forall_mem_cons.mp hbalanced
    obtain ⟨hts', hpieces'⟩ := List.forall_mem_cons.mp huncut
    have hcomma : splitAtCommas (0 : Nat) (sep :: rest) = [] :: pieces := by
      rw [ih hpieces hpieces', splitAtCommas, if_pos (by simpa using hsep)]
      rfl
    have hfirst := splitAtCommas_append (d := 0) (beq_iff_eq.mp (isBalanced_iff.mpr hts))
      (splitAtCommas_of_uncut hts') hcomma
    rw [List.append_nil] at hfirst
    exact hfirst.symm

theorem isSplit_iff (h : Balanced ts) : IsSplit pieces ts ↔ pieces = splitAtCommas 0 ts :=
  ⟨IsSplit.eq_splitAtCommas, fun heq => heq ▸ isSplit_splitAtCommas h⟩

end Pieces

/-! ### Both together -/

/-- The group of any parenthesis ends at the first place behind it at which the depth is back, and
has no end if there is none. The elements of a group that ends are not empty, balanced and without
commas outside parentheses. With the empty ones they are the pieces into which its tokens can be
split, in one way only. -/
theorem closeGroup_and_splitElements {ts : List Token} {i : Nat} {opening : Token}
    (hi : ts[i]? = some opening) (hopen : opening.isSign '(') :
    (closeGroup 1 (ts.drop (i + 1)) = none ↔ ∀ j, ¬ReturnsAt ts i j) ∧
      (∀ body tail, closeGroup 1 (ts.drop (i + 1)) = some (body, tail) ↔
        ∃ j, IsLeast {j | ReturnsAt ts i j} j ∧ body = (ts.take j).drop (i + 1) ∧
          tail = ts.drop (j + 1)) ∧
      ∀ body tail, closeGroup 1 (ts.drop (i + 1)) = some (body, tail) →
        (∀ chunk ∈ splitElements body, chunk ≠ [] ∧ Balanced chunk ∧ Uncut 0 chunk) ∧
          ∃ pieces, splitElements body = pieces.filter (!·.isEmpty) ∧
            ∀ others, IsSplit others body ↔ others = pieces := by
  refine ⟨closeGroup_drop_eq_none_iff hi hopen, fun _ _ => closeGroup_drop_eq_some_iff hi hopen,
    fun body tail hclosed => ?_⟩
  obtain ⟨-, -, -, hbody⟩ := exists_of_closeGroup hclosed
  have hbalanced := isBalanced_iff.mp hbody
  have hsplit := isSplit_splitAtCommas hbalanced
  refine ⟨fun chunk hchunk => ?_, splitAtCommas 0 body, rfl, fun others => isSplit_iff hbalanced⟩
  obtain ⟨hmem, hne⟩ := List.mem_filter.mp hchunk
  exact ⟨by simpa using hne, hsplit.balanced chunk hmem, hsplit.uncut chunk hmem⟩

/-- A group with a group in it, and with nothing between two of its commas and behind the last. -/
def groupedTokens : List Token :=
  [wordToken "t", mark '(', wordToken "a", mark ',', wordToken "f", mark '(', wordToken "b",
    mark ',', wordToken "c", mark ')', mark ',', mark ',', wordToken "d", mark ',', mark ')',
    wordToken "x"]

theorem closeGroup_and_splitElements_groupedTokens :
    groupedTokens[1]? = some (mark '(') ∧ (mark '(').isSign '(' ∧
      IsLeast {j | ReturnsAt groupedTokens 1 j} 14 ∧
      ∃ pieces, IsSplit pieces ((groupedTokens.take 14).drop 2) ∧
        pieces.filter (!·.isEmpty) = [[wordToken "a"],
          [wordToken "f", mark '(', wordToken "b", mark ',', wordToken "c", mark ')'],
          [wordToken "d"]] := by
  have hi : groupedTokens[1]? = some (mark '(') := rfl
  have hopen : (mark '(').isSign '(' := rfl
  have hclosed : closeGroup 1 (groupedTokens.drop 2) =
      some ((groupedTokens.take 14).drop 2, [wordToken "x"]) := rfl
  obtain ⟨-, hends, hgroup⟩ := closeGroup_and_splitElements hi hopen
  obtain ⟨j, hleast, hbody, -⟩ := (hends _ _).mp hclosed
  obtain ⟨-, pieces, hpieces, hsplit⟩ := hgroup _ _ hclosed
  have hinside : j < 16 := hleast.1.2.1
  have hlength := congrArg List.length hbody
  rw [List.length_drop, List.length_drop, List.length_take, List.length_take] at hlength
  obtain rfl : j = 14 := by
    have htokens : groupedTokens.length = 16 := rfl
    omega
  exact ⟨hi, hopen, hleast, pieces, (hsplit pieces).mpr rfl, hpieces.symm⟩

end SchemaMill.Sql
