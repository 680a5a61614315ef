import SchemaMill.Proofs.Charset.Lowering
import SchemaMill.Proofs.Script.Statements

/-!
# Tidying a text again

A tidy text has a form of its own (`IsTidy`): there are no blanks at its ends, its lines are
separated by line feeds, and each of them is left as it is. These are the texts that tidying leaves
as they are (`tidy_eq_self_iff`), and every text is brought into this form (`isTidy_tidy`).

In one line it has to be seen that closing up one type does not bring about another one with a space
between its numbers. A type that was closed up has a digit behind its comma. So where a comma of the
new line has a space behind it, the old line had the same text up to there
(`prefix_of_prefix_closeArguments`), and a type that begins at a character which was passed over
would have been found there before.
-/

namespace SchemaMill.Sql

variable {before : Option Char} {c : Char} {t : Text}

/-! ### Types that are closed up -/

theorem isUpper_eq_false_of_isDecimalDigit (h : isDecimalDigit c) : c.isUpper = false := by
  refine Bool.eq_false_iff.mpr fun hupper => ?_
  simp only [Char.isUpper, decide_eq_true_eq] at hupper
  have hlow : 65 ≤ c.toNat := UInt32.le_iff_toNat_le.mp hupper.1
  have hhigh : c.toNat ≤ 90 := UInt32.le_iff_toNat_le.mp hupper.2
  have hdigit : c.isDigit = false := by
    refine Bool.eq_false_iff.mpr fun hdigit => ?_
    simp only [Char.isDigit, Bool.and_eq_true, decide_eq_true_eq] at hdigit
    have : c.toNat ≤ 57 := UInt32.le_iff_toNat_le.mp hdigit.2
    omega
  rw [isDecimalDigit, digitValue?, if_pos (by omega), hdigit] at h
  cases h

theorem isWordChar_of_isUpper (h : c.isUpper) : isWordChar c := by
  refine isWordChar_of_isAlphanum (by simp [Char.isAlphanum, Char.isAlpha, h]) ?_
  simp only [Char.isUpper, decide_eq_true_eq] at h
  have : c.toNat ≤ 90 := UInt32.le_iff_toNat_le.mp h.2
  omega

theorem closeArguments_cons_of_inside (h : before.any isWordChar ∨ c.isUpper = false) (t : Text) :
    closeArguments before (c :: t) = c :: closeArguments (some c) t := by
  have hnone : argumentsAfter? before (c :: t) = none := by
    rcases h with h | h <;> simp [argumentsAfter?, typeArguments?, h]
  exact closeArguments_of_none hnone

theorem closeArguments_capitals {name : Text} (hc : isWordChar c)
    (hname : ∀ e ∈ name, e.isUpper) (t : Text) :
    closeArguments (some c) (name ++ '(' :: t) = name ++ '(' :: closeArguments (some '(') t := by
  induction name generalizing c with
  | nil => exact closeArguments_cons_of_inside (.inr (by decide)) t
  | cons e name ih =>
    obtain ⟨he, hname⟩ := List.forall_mem_cons.mp hname
    rw [List.cons_append, closeArguments_cons_of_inside (.inl (by simpa using hc)),
      ih (isWordChar_of_isUpper he) hname]
    rfl

theorem closeArguments_digits {digits : Text} (hdigits : ∀ e ∈ digits, isDecimalDigit e)
    (hc : c.isUpper = false) (before : Option Char) (t : Text) :
    closeArguments before (digits ++ c :: t) = digits ++ c :: closeArguments (some c) t := by
  induction digits generalizing before with
  | nil => exact closeArguments_cons_of_inside (.inr hc) t
  | cons e digits ih =>
    obtain ⟨he, hdigits⟩ := List.forall_mem_cons.mp hdigits
    have he := isUpper_eq_false_of_isDecimalDigit he
    rw [List.cons_append, closeArguments_cons_of_inside (.inr he), ih hdigits]
    rfl

namespace SizedType

variable (k : SizedType)

/-- Behind the comma of a type that is closed up stands a digit. -/
theorem exists_closed : ∃ d tail, isDecimalDigit d ∧ k.closed = k.lead ++ ',' :: d :: tail := by
  obtain ⟨d, scale, hscale⟩ := List.exists_cons_of_ne_nil k.isNumber_scale.1
  refine ⟨d, scale ++ [')'], k.isNumber_scale.2 d (by simp [hscale]), ?_⟩
  rw [closed, hscale]
  rfl

theorem notMem_lead : ',' ∉ k.lead := by
  intro h
  rcases List.mem_append.mp h with h | h
  · exact absurd (k.isUpper _ h) (by decide)
  · rcases List.mem_cons.mp h with h | h
    · cases h
    · exact absurd (k.isNumber_precision.2 _ h) (by decide)

theorem notMem_scale : ',' ∉ k.scale ++ [')'] := by
  intro h
  rcases List.mem_append.mp h with h | h
  · exact absurd (k.isNumber_scale.2 _ h) (by decide)
  · simp at h

theorem head?_of_spaced_eq {a b : Text} (h : k.spaced = a ++ ',' :: b) : b.head? = some ' ' := by
  rcases Schema.append_eq_append_cons_iff.mp h.symm with ⟨b', -, hb⟩ | ⟨a', ha, hlead⟩
  · -- a second comma would be one of the second number
    rcases List.cons_eq_append_iff.mp hb with ⟨-, hb⟩ | ⟨b'', -, hscale⟩
    · cases hb
    · exact absurd (by simp [hscale]) k.notMem_scale
  · rcases List.cons_eq_append_iff.mp ha with ⟨-, hb⟩ | ⟨a'', rfl, -⟩
    · cases hb
      rfl
    · exact absurd (by simp [hlead]) k.notMem_lead

theorem closed_sublist_spaced : k.closed.Sublist k.spaced :=
  (List.Sublist.refl k.lead).append ((List.sublist_cons_self _ _).cons_cons ',')

theorem typeArguments?_closed (t : Text) : typeArguments? (k.closed ++ t) = none := by
  obtain ⟨d, tail, hd, hclosed⟩ := k.exists_closed
  have hcomma : dropPrefix? ", " (',' :: d :: (tail ++ t)) = none := by
    have hne : ' ' ≠ d := fun h => absurd (h ▸ hd) (by decide)
    simp [dropPrefix?, hne]
  have htext : k.closed ++ t = k.name ++ '(' :: (k.precision ++ ',' :: d :: (tail ++ t)) := by
    simp [hclosed, lead]
  rw [htext, typeArguments?_name k.name_ne_nil k.isUpper,
    takeNumber?_append k.isNumber_precision (by decide), Option.bind_some]
  dsimp only
  rw [hcomma, Option.bind_none]

/-- A type that is closed up stays so, and no other type begins in it. -/
theorem closeArguments_closed (before : Option Char) (t : Text) :
    closeArguments before (k.closed ++ t) = k.closed ++ closeArguments (some ')') t := by
  obtain ⟨c, name, hname⟩ := List.exists_cons_of_ne_nil k.name_ne_nil
  have hupper : ∀ e ∈ c :: name, e.isUpper := hname ▸ k.isUpper
  obtain ⟨hc, hupper⟩ := List.forall_mem_cons.mp hupper
  have hclosed (u : Text) : k.closed ++ u =
      c :: (name ++ '(' :: (k.precision ++ ',' :: (k.scale ++ ')' :: u))) := by
    simp [closed, lead, hname]
  have hnone : argumentsAfter? before (k.closed ++ t) = none := by
    rw [argumentsAfter?, k.typeArguments?_closed, ite_self]
  rw [hclosed] at hnone ⊢
  rw [closeArguments_of_none hnone, closeArguments_capitals (isWordChar_of_isUpper hc) hupper,
    closeArguments_digits k.isNumber_precision.2 (by decide),
    closeArguments_digits k.isNumber_scale.2 (by decide), hclosed]

end SizedType

/-- What stands in front of a comma with a space behind it was there before. -/
theorem prefix_of_prefix_closeArguments {u : Text}
    (hu : ∀ a b, u = a ++ ',' :: b → b.head? = some ' ') (h : u <+: closeArguments before t) :
    u <+: t := by
  induction before, t using closeArguments_induction generalizing u with
  | nil before => rwa [closeArguments_nil] at h
  | pass before c t hnone ih =>
    rw [closeArguments_of_none hnone] at h
    cases u with
    | nil => exact List.nil_prefix
    | cons e u =>
      obtain ⟨rfl, h⟩ := List.cons_prefix_cons.mp h
      refine List.cons_prefix_cons.mpr ⟨rfl, ih (fun a b hab => hu (e :: a) b ?_) h⟩
      rw [hab, List.cons_append]
  | close before k after hbefore =>
    obtain ⟨d, tail, hd, hclosed⟩ := k.exists_closed
    rw [closeArguments_spaced hbefore, hclosed, List.append_assoc, List.cons_append] at h
    obtain ⟨more, hmore⟩ := h
    rcases Schema.append_eq_append_cons_iff.mp hmore with ⟨b, hb, htail⟩ | ⟨a, -, ha⟩
    · -- the digit behind the comma is no space
      have hspace := hu _ b hb
      cases b with
      | nil => cases hspace
      | cons e b =>
        obtain ⟨rfl, -⟩ := List.cons.inj htail
        cases hspace
        exact absurd hd (by decide)
    · rw [SizedType.spaced, ha, List.append_assoc, List.append_assoc]
      exact List.prefix_append u _

/-- Where no type begins in a line, none begins when the rest of the line is closed up. -/
theorem argumentsAfter?_closeArguments (h : argumentsAfter? before (c :: t) = none) :
    argumentsAfter? before (c :: closeArguments (some c) t) = none := by
  refine Option.eq_none_iff_forall_ne_some.mpr fun (shown, rest) hsome => ?_
  obtain ⟨hbefore, k, htext, -⟩ := argumentsAfter?_eq_some_iff.mp hsome
  have hnew : k.spaced <+: closeArguments before (c :: t) := by
    rw [closeArguments_of_none h]
    exact ⟨rest, htext.symm⟩
  obtain ⟨after, hafter⟩ :=
    prefix_of_prefix_closeArguments (fun a b hab => k.head?_of_spaced_eq hab) hnew
  have hfound := argumentsAfter?_eq_some_iff.mpr ⟨hbefore, k, hafter.symm, rfl⟩
  rw [h] at hfound
  cases hfound

theorem closeArguments_closeArguments (before : Option Char) (t : Text) :
    closeArguments before (closeArguments before t) = closeArguments before t := by
  induction before, t using closeArguments_induction with
  | nil before => rw [closeArguments_nil, closeArguments_nil]
  | pass before c t hnone ih =>
    rw [closeArguments_of_none hnone, closeArguments_of_none (argumentsAfter?_closeArguments hnone),
      ih]
  | close before k after hbefore ih =>
    rw [closeArguments_spaced hbefore, k.closeArguments_closed, ih]

/-! ### One line -/

theorem closeArguments_sublist (before : Option Char) (t : Text) :
    (closeArguments before t).Sublist t := by
  induction before, t using closeArguments_induction with
  | nil before => rw [closeArguments_nil]
  | pass before c t hnone ih =>
    rw [closeArguments_of_none hnone]
    exact ih.cons_cons c
  | close before k after hbefore ih =>
    rw [closeArguments_spaced hbefore]
    exact k.closed_sublist_spaced.append ih

theorem head?_closeArguments (before : Option Char) (t : Text) :
    (closeArguments before t).head? = t.head? := by
  induction before, t using closeArguments_induction with
  | nil before => rw [closeArguments_nil]
  | pass before c t hnone => rw [closeArguments_of_none hnone, List.head?_cons, List.head?_cons]
  | close before k after hbefore =>
    rw [closeArguments_spaced hbefore]
    simp [SizedType.closed, SizedType.spaced, SizedType.lead]

theorem getLast?_closeArguments (before : Option Char) (t : Text) :
    (closeArguments before t).getLast? = t.getLast? := by
  induction before, t using closeArguments_induction with
  | nil before => rw [closeArguments_nil]
  | pass before c t hnone ih =>
    rw [closeArguments_of_none hnone, List.getLast?_cons, List.getLast?_cons, ih]
  | close before k after hbefore ih =>
    have hlast : k.closed.getLast? = k.spaced.getLast? := by
      simp [SizedType.closed, SizedType.spaced, List.getLast?_cons]
    rw [closeArguments_spaced hbefore, List.getLast?_append, ih, hlast, List.getLast?_append]

theorem mem_expandTabs {line : Text} (h : c ∈ expandTabs line) :
    c ≠ '\t' ∧ (c = ' ' ∨ c ∈ line) := by
  obtain ⟨e, he, hc⟩ := List.mem_flatMap.mp h
  by_cases htab : e = '\t'
  · subst htab
    have hspace : c = ' ' := by simpa using hc
    exact ⟨by simp [hspace], .inl hspace⟩
  · have heq : c = e := by simpa [htab] using hc
    exact ⟨heq ▸ htab, .inr (heq ▸ he)⟩

theorem expandTabs_of_notMem {line : Text} (h : '\t' ∉ line) : expandTabs line = line := by
  induction line with
  | nil => rfl
  | cons c line ih =>
    obtain ⟨hc, hline⟩ := not_or.mp (mt List.mem_cons.mpr h)
    rw [expandTabs, List.flatMap_cons, if_neg (by simpa using Ne.symm hc), ← expandTabs, ih hline]
    rfl

theorem mem_tidyLine {line : Text} (h : c ∈ tidyLine line) : c ≠ '\t' ∧ (c = ' ' ∨ c ∈ line) :=
  mem_expandTabs ((Schema.trimRight_prefix _).subset ((closeArguments_sublist none _).subset h))

theorem unbroken_tidyLine {line : Text} (h : Unbroken line) : Unbroken (tidyLine line) := by
  intro c hc
  rcases (mem_tidyLine hc).2 with rfl | hc
  · decide
  · exact h c hc

theorem head?_tidyLine {line : Text} (hc : isBlank c = false) (h : line.head? = some c) :
    (tidyLine line).head? = some c := by
  obtain ⟨more, rfl⟩ := List.head?_eq_some_iff.mp h
  have htab : c ≠ '\t' := fun h => absurd (h ▸ hc) (by decide)
  have hexpand : (expandTabs (c :: more)).head? = some c := by simp [expandTabs, htab]
  rw [tidyLine, head?_closeArguments, Schema.head?_trimRight hc, hexpand]

theorem getLast?_tidyLine (line : Text) : ∀ c ∈ (tidyLine line).getLast?, isBlank c = false := by
  rw [tidyLine, getLast?_closeArguments]
  exact getLast?_trimRight _

theorem tidyLine_tidyLine (line : Text) : tidyLine (tidyLine line) = tidyLine line := by
  have htab : '\t' ∉ tidyLine line := fun h => (mem_tidyLine h).1 rfl
  calc tidyLine (tidyLine line)
      = closeArguments none (trimRight (tidyLine line)) := by
        rw [tidyLine.eq_1 (tidyLine line), expandTabs_of_notMem htab]
    _ = closeArguments none (tidyLine line) := by
        rw [trimRight_of_getLast? (getLast?_tidyLine line)]
    _ = tidyLine line := closeArguments_closeArguments none _

/-! ### Whole texts -/

/-- A text that is tidy: no blanks at its ends, no line breaks but line feeds, and tidy lines. -/
structure IsTidy (t : Text) : Prop where
  trimmed : Trimmed t
  lined : Lined t
  tidyLine_eq : ∀ line ∈ lines t, tidyLine line = line

theorem tidy_of_isTidy (h : IsTidy t) : tidy t = t := by
  have hlines : (lines t).map tidyLine = lines t :=
    (List.map_congr_left h.tidyLine_eq).trans (List.map_id _)
  have hlast : t.getLast? ≠ some '\n' := fun hlast =>
    absurd (h.trimmed.2 _ hlast) (by decide)
  rw [tidy, trim_of_trimmed h.trimmed, hlines, joinLines_lines h.lined hlast]

theorem exists_lines_cons (hc : isLineBreak c = false) (t : Text) :
    ∃ line more, lines (c :: t) = (c :: line) :: more := by
  rw [lines, if_neg (by simp [hc])]
  · cases lines t with
    | nil => exact ⟨[], [], rfl⟩
    | cons line more => exact ⟨line, more, rfl⟩
  · rintro rest rfl
    exact absurd hc (by decide)

theorem exists_lines_append_singleton (hc : isLineBreak c = false) (t : Text) :
    ∃ more line, lines (t ++ [c]) = more ++ [line ++ [c]] := by
  have happend (more : List Text) (line : Text) :
      appendLines (more ++ [line]) [[c]] = more ++ [line ++ [c]] := by
    induction more with
    | nil => rfl
    | cons l more ih => rw [List.cons_append, appendLines_cons (by simp), ih, List.cons_append]
  have hopen := List.dropLast_append_getLast (openLines_ne_nil t)
  rw [lines_append_singleton hc, openLines_append_cons hc, openLines_of_not_isLineBreak hc rfl,
    ← hopen]
  exact ⟨_, _, happend _ _⟩

theorem head?_joinLines_cons {line : Text} (h : line.head? = some c) (more : List Text) :
    (joinLines (line :: more)).head? = some c := by
  obtain ⟨u, rfl⟩ := List.head?_eq_some_iff.mp h
  cases more <;> rfl

/-- The characters at the two ends of a text without blanks around it. -/
theorem exists_ends_trim (h : trim t ≠ []) : ∃ c e rest front, isBlank c = false ∧
    isBlank e = false ∧ trim t = c :: rest ∧ trim t = front ++ [e] := by
  obtain ⟨hfirst, hlast⟩ := trimmed_trim t
  obtain ⟨c, rest, hrest⟩ := List.exists_cons_of_ne_nil h
  have hfront := (List.dropLast_append_getLast h).symm
  exact ⟨c, _, rest, _, hfirst c (by rw [hrest]; rfl), hlast _ (List.getLast?_eq_some_getLast h),
    hrest, hfront⟩

theorem tidy_of_trim_eq_nil (h : trim t = []) : tidy t = [] := by
  rw [tidy, h]
  rfl

theorem tidyLine_ne_nil {line : Text} (hc : isBlank c = false) (h : c ∈ line) :
    tidyLine line ≠ [] := by
  intro hnil
  have hsolid : c ∈ solid line := List.mem_filter.mpr ⟨h, by simp [hc]⟩
  rw [← solid_tidyLine, hnil] at hsolid
  cases hsolid

theorem unbroken_of_mem_map_tidyLine (t : Text) :
    ∀ line ∈ (lines t).map tidyLine, Unbroken line :=
  List.forall_mem_map.mpr fun _ hline => unbroken_tidyLine (unbroken_of_mem_lines hline)

theorem lines_tidy (t : Text) : lines (tidy t) = (lines (trim t)).map tidyLine := by
  by_cases htrim : trim t = []
  · rw [tidy_of_trim_eq_nil htrim, htrim]
    rfl
  · obtain ⟨-, e, -, front, -, he, -, hfront⟩ := exists_ends_trim htrim
    obtain ⟨more, line, hlines⟩ :=
      exists_lines_append_singleton (isLineBreak_of_not_isBlank he) front
    have hunbroken := unbroken_of_mem_map_tidyLine (trim t)
    rw [tidy]
    rw [hfront, hlines, List.map_append] at hunbroken ⊢
    exact Schema.lines_joinLines hunbroken (tidyLine_ne_nil he (by simp))

theorem trimmed_tidy (t : Text) : Trimmed (tidy t) := by
  by_cases htrim : trim t = []
  · rw [tidy_of_trim_eq_nil htrim]
    exact trimmed_of_forall (by simp)
  · obtain ⟨c, e, rest, front, hc, he, hrest, hfront⟩ := exists_ends_trim htrim
    constructor
    · obtain ⟨line, more, hlines⟩ := exists_lines_cons (isLineBreak_of_not_isBlank hc) rest
      have hhead : (tidy t).head? = some c := by
        rw [tidy, hrest, hlines]
        exact head?_joinLines_cons (head?_tidyLine hc rfl) _
      rw [hhead]
      exact fun d hd => Option.mem_some_iff.mp hd ▸ hc
    · obtain ⟨more, line, hlines⟩ :=
        exists_lines_append_singleton (isLineBreak_of_not_isBlank he) front
      obtain ⟨x, hx⟩ := Schema.exists_joinLines (more.map tidyLine) (tidyLine (line ++ [e]))
      have hne : tidyLine (line ++ [e]) ≠ [] := tidyLine_ne_nil he (by simp)
      have hlast : (tidy t).getLast? = (tidyLine (line ++ [e])).getLast? := by
        rw [tidy, hfront, hlines, List.map_append, List.map_singleton, hx, List.getLast?_append,
          List.getLast?_eq_some_getLast hne, Option.some_or]
      rw [hlast]
      exact getLast?_tidyLine _

/-- Every text is brought into tidy form. -/
theorem isTidy_tidy (t : Text) : IsTidy (tidy t) where
  trimmed := trimmed_tidy t
  lined := Schema.lined_joinLines (unbroken_of_mem_map_tidyLine (trim t))
  tidyLine_eq := by
    rw [lines_tidy]
    exact List.forall_mem_map.mpr fun line _ => tidyLine_tidyLine line

/-- The texts that tidying leaves as they are. -/
theorem tidy_eq_self_iff : tidy t = t ↔ IsTidy t :=
  ⟨fun h => h ▸ isTidy_tidy t, tidy_of_isTidy⟩

theorem tidy_eq_tidyOpen_trim (t : Text) : tidy t = tidyOpen (trim t) := by
  by_cases htrim : trim t = []
  · rw [tidy_of_trim_eq_nil htrim, htrim, tidyOpen, openLines, tidyOpenLines, tidyOpenLine,
      expandTabs, List.flatMap_nil, closeArguments]
  · obtain ⟨c, e, rest, front, hc, he, hrest, hfront⟩ := exists_ends_trim htrim
    obtain ⟨lead, trail, ht, hlead, htrail⟩ := Schema.exists_trim t
    have hhead : (trim t).head? = some c := by rw [hrest]; rfl
    have hlast : (trim t).getLast? = some e := by rw [hfront]; simp
    calc tidy t = tidy (lead ++ trim t ++ trail) := by rw [List.append_assoc, ← ht]
      _ = tidyOpen (trim t) := tidy_eq_tidyOpen hlead htrail hhead hlast hc he

theorem solid_tidy (t : Text) : solid (tidy t) = solid t := by
  rw [tidy_eq_tidyOpen_trim, solid_tidyOpen, trim, solid_trimRight, Schema.solid_trimLeft]

theorem tidy_tidy (t : Text) : tidy (tidy t) = tidy t := tidy_of_isTidy (isTidy_tidy t)

example : tidy (tidy " price\tDECIMAL(10, 2) \n".toList) = "price  DECIMAL(10,2)".toList := by cbv

/-- Tidying changes nothing but blanks, and a text that was tidied stays as it is when it is tidied
again. -/
theorem solid_tidy_and_tidy_tidy (t : Text) :
    solid (tidy t) = solid t ∧ tidy (tidy t) = tidy t :=
  ⟨solid_tidy t, tidy_tidy t⟩

end SchemaMill.Sql
