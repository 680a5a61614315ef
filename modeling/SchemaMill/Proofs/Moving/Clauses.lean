import Mathlib.Data.List.Basic
import Mathlib.Data.List.TakeWhile
import SchemaMill.Schema.Target

/-!
# The clauses of table options

Table options are a row of tokens. From left to right they are clauses (`IsScan`): the keyword of a
setting takes the next token as its value, across the equals signs in between, and any other token
stands for itself. A keyword that is taken as a value sets nothing, though `CHARACTER` still makes a
keyword of the `SET` behind it. There is one way to cut options into clauses (`areClauses_iff`).

Moving the options gives each setting the name that it has in the target and leaves all else as it
was (`moveOptions_of_areClauses`).
-/

namespace SchemaMill.Schema

open Sql

/-! ### Settings -/

/-- What table options can set that depends on the target. -/
inductive Setting where
  | charset
  | collation
  deriving DecidableEq, Repr

/-- The value of a setting for a character set. -/
def Setting.name (charset : Text) : Setting → Text
  | .charset => charset
  | .collation => collationFor charset

/-- The setting that a token is the keyword of, behind a token with the word `previous`. -/
def setting? (previous : Text) (t : Token) : Option Setting :=
  if t.word = "CHARSET".toList ∨ t.word = "SET".toList ∧ previous = "CHARACTER".toList then
    some .charset
  else if t.word = "COLLATE".toList then some .collation
  else none

theorem setting?_eq_charset_iff {previous : Text} {t : Token} :
    setting? previous t = some .charset ↔
      t.word = "CHARSET".toList ∨ t.word = "SET".toList ∧ previous = "CHARACTER".toList := by
  rw [setting?]
  split_ifs with h h'
  · exact iff_of_true rfl h
  · exact iff_of_false (by decide) h
  · exact iff_of_false (by decide) h

theorem setting?_eq_collation_iff {previous : Text} {t : Token} :
    setting? previous t = some .collation ↔ t.word = "COLLATE".toList := by
  rw [setting?]
  split_ifs with h h'
  · have hne : t.word ≠ "COLLATE".toList := by
      rcases h with h | ⟨h, -⟩ <;> rw [h] <;> decide
    exact iff_of_false (by decide) hne
  · exact iff_of_true rfl h'
  · exact iff_of_false (by decide) h'

theorem setting?_of_isSign {previous : Text} {t : Token} (h : t.isSign '=' = true) :
    setting? previous t = none := by
  have hvalue : t.value = ['='] := by simpa [Token.isSign] using h
  have hword : t.word = [] ∨ t.word = ['='] := by
    rw [Token.word, hvalue]
    split
    · exact Or.inl rfl
    · exact Or.inr rfl
  rcases hword with hword | hword <;> simp [setting?, hword]

/-! ### Clauses -/

/-- A stretch of table options. -/
inductive Clause where
  /-- A token for itself. -/
  | plain (t : Token)
  /-- The keyword of a setting with the equals signs behind it and the value, which the end of the
  options can cut off. -/
  | setting (s : Setting) (keyword : Token) (signs : List Token) (value : Option Token)
  deriving DecidableEq, Repr

namespace Clause

/-- The tokens of a clause. -/
def tokens : Clause → List Token
  | plain t => [t]
  | setting _ keyword signs value => keyword :: (signs ++ value.toList)

/-- What a clause sets. -/
def setting? : Clause → Option Setting
  | plain _ => none
  | setting s _ _ _ => some s

/-- A clause with the name of its setting for a character set in place of its value. -/
def moved (charset : Text) : Clause → Clause
  | plain t => plain t
  | setting s keyword signs value =>
    setting s keyword signs (value.map fun v => ⟨.name, s.name charset, v.spaced⟩)

end Clause

/-- One of the clauses sets `s`. -/
def Sets (s : Setting) (cs : List Clause) : Prop := ∃ c ∈ cs, c.setting? = some s

instance (s : Setting) (cs : List Clause) : Decidable (Sets s cs) :=
  inferInstanceAs (Decidable (∃ c ∈ cs, c.setting? = some s))

@[simp] theorem not_sets_nil (s : Setting) : ¬Sets s [] := by simp [Sets]

@[simp] theorem sets_cons {s : Setting} {c : Clause} {cs : List Clause} :
    Sets s (c :: cs) ↔ c.setting? = some s ∨ Sets s cs := by simp [Sets]

@[simp] theorem sets_append {s : Setting} {cs cs' : List Clause} :
    Sets s (cs ++ cs') ↔ Sets s cs ∨ Sets s cs' := by simp [Sets, or_and_right, exists_or]

/-- The clauses of a row of tokens that stands behind a token with the word `previous`. -/
inductive IsScan : (previous : Text) → List Clause → Prop where
  | nil {previous} : IsScan previous []
  | plain {previous t cs} (hplain : setting? previous t = none) (hrest : IsScan t.word cs) :
    IsScan previous (.plain t :: cs)
  | setting {previous s k signs v cs} (hkeyword : setting? previous k = some s)
    (hsigns : ∀ t ∈ signs, t.isSign '=' = true) (hvalue : v.isSign '=' = false)
    (hrest : IsScan v.word cs) : IsScan previous (.setting s k signs (some v) :: cs)
  | unset {previous s k signs} (hkeyword : setting? previous k = some s)
    (hsigns : ∀ t ∈ signs, t.isSign '=' = true) : IsScan previous [.setting s k signs none]

/-- The clauses of a row of tokens, from left to right. -/
def clausesFrom (previous : Text) : List Token → List Clause
  | [] => []
  | t :: ts =>
    match setting? previous t with
    | none => .plain t :: clausesFrom t.word ts
    | some s =>
      let rest := ts.dropWhile (·.isSign '=')
      match rest.head? with
      | none => [.setting s t (ts.takeWhile (·.isSign '=')) none]
      | some v =>
        .setting s t (ts.takeWhile (·.isSign '=')) (some v) :: clausesFrom v.word rest.tail
termination_by ts => ts.length
decreasing_by
  · simp
  · have := (List.dropWhile_suffix (·.isSign '=') (l := ts)).length_le
    simp only [List.length_tail, List.length_cons]
    omega

variable {previous : Text} {cs cs' : List Clause}

theorem isSign_of_mem_takeWhile {t : Token} {ts : List Token}
    (h : t ∈ ts.takeWhile (·.isSign '=')) : t.isSign '=' = true :=
  List.mem_takeWhile_imp (p := fun u : Token => u.isSign '=') h

theorem isScan_clausesFrom (previous : Text) (ts : List Token) :
    IsScan previous (clausesFrom previous ts) := by
  fun_induction clausesFrom previous ts with
  | case1 => exact .nil
  | case2 previous t ts hplain ih => exact .plain hplain ih
  | case3 previous t ts s hkeyword rest hend =>
    exact .unset hkeyword fun _ => isSign_of_mem_takeWhile
  | case4 previous t ts s hkeyword rest v hvalue ih =>
    refine .setting hkeyword (fun _ => isSign_of_mem_takeWhile) ?_ ih
    have hnot := List.head?_dropWhile_not (·.isSign '=') ts
    rwa [hvalue] at hnot

theorem tokens_clausesFrom (previous : Text) (ts : List Token) :
    (clausesFrom previous ts).flatMap Clause.tokens = ts := by
  fun_induction clausesFrom previous ts with
  | case1 => rfl
  | case2 previous t ts hplain ih => rw [List.flatMap_cons, ih]; rfl
  | case3 previous t ts s hkeyword rest hend =>
    have hsplit := List.takeWhile_append_dropWhile (p := (·.isSign '=')) (l := ts)
    have hnil : ts.dropWhile (·.isSign '=') = [] := List.head?_eq_none_iff.mp hend
    simpa [Clause.tokens, hnil] using hsplit
  | case4 previous t ts s hkeyword rest v hvalue ih =>
    have hsplit := List.takeWhile_append_dropWhile (p := (·.isSign '=')) (l := ts)
    rw [List.flatMap_cons, ih, Clause.tokens, Option.toList_some, List.cons_append,
      List.append_assoc, List.singleton_append, List.cons_head?_tail hvalue, hsplit]

/-- A row of tokens has its clauses in one way. -/
theorem IsScan.clausesFrom_eq (h : IsScan previous cs) :
    clausesFrom previous (cs.flatMap Clause.tokens) = cs := by
  induction h with
  | nil => simp [clausesFrom]
  | plain hplain hrest ih =>
    simp [Clause.tokens, clausesFrom, hplain, ih]
  | setting hkeyword hsigns hvalue hrest ih =>
    simp [Clause.tokens, clausesFrom, hkeyword, ih, List.takeWhile_append_of_pos hsigns,
      List.dropWhile_append_of_pos hsigns, hvalue]
  | unset hkeyword hsigns =>
    simp [Clause.tokens, clausesFrom, hkeyword, List.takeWhile_eq_self_iff.mpr hsigns,
      List.dropWhile_eq_nil_iff.mpr hsigns]

/-- `cs` are the clauses of the table options `ts`. -/
def AreClauses (ts : List Token) (cs : List Clause) : Prop :=
  IsScan [] cs ∧ cs.flatMap Clause.tokens = ts

/-- Table options have one list of clauses. -/
theorem areClauses_iff {ts : List Token} : AreClauses ts cs ↔ cs = clausesFrom [] ts := by
  constructor
  · rintro ⟨hscan, rfl⟩
    exact hscan.clausesFrom_eq.symm
  · rintro rfl
    exact ⟨isScan_clausesFrom [] ts, tokens_clausesFrom [] ts⟩

/-! ### Moving clauses -/

namespace Target

/-- Options moved clause by clause. -/
def movedClauses (charset : Text) (cs : List Clause) : MovedOptions where
  tokens := cs.flatMap fun c => (c.moved charset).tokens
  hasCharset := Sets .charset cs
  hasCollation := Sets .collation cs

variable {charset awaited : Text} {t : Token}

theorem moveOptionsFrom_cons (h : awaited = [] ∨ t.isSign '=' = true) (ts : List Token) :
    moveOptionsFrom charset previous awaited (t :: ts) =
      let rest := moveOptionsFrom charset t.word
        ((setting? previous t).elim awaited (Setting.name charset)) ts
      ⟨t :: rest.tokens, decide (setting? previous t = some .charset) || rest.hasCharset,
        decide (setting? previous t = some .collation) || rest.hasCollation⟩ := by
  -- the token is no value that is awaited
  have hstay : (!awaited.isEmpty && !t.isSign '=') = false := by
    rcases h with rfl | h
    · rfl
    · rw [h, Bool.not_true, Bool.and_false]
  rw [moveOptionsFrom, hstay, if_neg Bool.false_ne_true]
  have hcharset : (t.isWord "CHARSET" || (t.isWord "SET" && previous == "CHARACTER".toList)) =
      decide (setting? previous t = some .charset) := by
    rw [Bool.eq_iff_iff, decide_eq_true_iff, setting?_eq_charset_iff]
    simp [Token.isWord]
  have hcollation : t.isWord "COLLATE" = decide (setting? previous t = some .collation) := by
    rw [Bool.eq_iff_iff, decide_eq_true_iff, setting?_eq_collation_iff]
    simp [Token.isWord]
  dsimp only
  rw [hcharset, hcollation]
  rcases setting? previous t with _ | _ | _ <;> simp [Setting.name]

theorem moveOptionsFrom_value {signs : List Token} (hawaited : awaited ≠ [])
    (hsigns : ∀ u ∈ signs, u.isSign '=' = true) (ht : t.isSign '=' = false) (previous : Text)
    (ts : List Token) :
    moveOptionsFrom charset previous awaited (signs ++ t :: ts) =
      let rest := moveOptionsFrom charset t.word [] ts
      { rest with tokens := signs ++ ⟨.name, awaited, t.spaced⟩ :: rest.tokens } := by
  induction signs generalizing previous with
  | nil => rw [List.nil_append, moveOptionsFrom]; simp [hawaited, ht]
  | cons u signs ih =>
    rw [List.forall_mem_cons] at hsigns
    rw [List.cons_append, moveOptionsFrom_cons (Or.inr hsigns.1), setting?_of_isSign hsigns.1,
      Option.elim_none, ih hsigns.2]
    simp

theorem moveOptionsFrom_signs {signs : List Token} (hsigns : ∀ u ∈ signs, u.isSign '=' = true)
    (previous : Text) : moveOptionsFrom charset previous awaited signs = ⟨signs, false, false⟩ := by
  induction signs generalizing previous with
  | nil => rfl
  | cons u signs ih =>
    rw [List.forall_mem_cons] at hsigns
    rw [moveOptionsFrom_cons (Or.inr hsigns.1), setting?_of_isSign hsigns.1, Option.elim_none,
      ih hsigns.2]
    simp

theorem name_ne_nil (h : charset ≠ []) (s : Setting) : s.name charset ≠ [] := by
  cases s with
  | charset => exact h
  | collation => simp [Setting.name, collationFor]

theorem moveOptionsFrom_of_isScan (hcharset : charset ≠ []) (h : IsScan previous cs) :
    moveOptionsFrom charset previous [] (cs.flatMap Clause.tokens) = movedClauses charset cs := by
  induction h with
  | nil => rfl
  | plain hplain hrest ih =>
    rw [List.flatMap_cons, Clause.tokens, List.singleton_append, moveOptionsFrom_cons (Or.inl rfl),
      hplain, Option.elim_none, ih]
    simp [movedClauses, Clause.setting?, Clause.moved, Clause.tokens]
  | @setting previous s k signs v cs hkeyword hsigns hvalue hrest ih =>
    rw [List.flatMap_cons, Clause.tokens, Option.toList_some, List.cons_append, List.append_assoc,
      List.singleton_append, moveOptionsFrom_cons (Or.inl rfl), hkeyword, Option.elim_some,
      moveOptionsFrom_value (name_ne_nil hcharset s) hsigns hvalue, ih]
    simp [movedClauses, Clause.setting?, Clause.moved, Clause.tokens]
  | unset hkeyword hsigns =>
    rw [List.flatMap_singleton, Clause.tokens, Option.toList_none, List.append_nil,
      moveOptionsFrom_cons (Or.inl rfl), hkeyword, Option.elim_some, moveOptionsFrom_signs hsigns]
    simp [movedClauses, Clause.setting?, Clause.moved, Clause.tokens]

/-- Settings get their names in the target, all other tokens stay, and a character set without a
collation gets one at the end. -/
theorem moveOptions_of_areClauses {ts : List Token} (hcharset : charset ≠ [])
    (h : AreClauses ts cs) :
    moveOptions charset ts =
      cs.flatMap (fun c => (c.moved charset).tokens) ++
        if Sets .charset cs ∧ ¬Sets .collation cs then collationClause charset else [] := by
  rw [moveOptions, ← h.2, moveOptionsFrom_of_isScan hcharset h.1]
  dsimp only [movedClauses]
  simp only [Bool.and_eq_true, Bool.not_eq_true', decide_eq_true_eq, decide_eq_false_iff_not]
  split
  · rfl
  · rw [List.append_nil]

end Target

end SchemaMill.Schema
