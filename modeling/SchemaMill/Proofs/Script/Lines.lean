import Mathlib.Data.List.TakeWhile
import SchemaMill.Proofs.Rows.Tidying
import SchemaMill.Schema.Script

/-!
# Lines of a text

Where line feeds are the only line breaks, a text is its lines (`Lined`), and what is asked of each
line can be asked of the two sides of each line feed. That a line belongs to a statement is asked of
the text from its start on (`StartsLine`), and that it does not end one is asked of the text up to
its end (`LeavesOpen`); whether further text stands around the line does not matter then.

So both properties can be followed through a text that is put together of pieces (`Steady`, `Open`).
-/

namespace SchemaMill

/-! ### Texts of lines -/

/-- A text without line breaks. -/
def Unbroken (t : Text) : Prop := ∀ c ∈ t, isLineBreak c = false

instance : DecidablePred Unbroken := fun t => inferInstanceAs (Decidable (∀ c ∈ t, _))

theorem unbroken_append_iff {x y : Text} : Unbroken (x ++ y) ↔ Unbroken x ∧ Unbroken y :=
  List.forall_mem_append

/-- The texts in which every line break is a line feed. -/
inductive Lined : Text → Prop where
  /-- The last line. -/
  | last {l : Text} (h : Unbroken l) : Lined l
  /-- A line with further lines behind it. -/
  | next {l r : Text} (h : Unbroken l) (hr : Lined r) : Lined (l ++ '\n' :: r)

theorem lined_iff {t : Text} : Lined t ↔ ∀ c ∈ t, isLineBreak c → c = '\n' := by
  constructor
  · intro h
    induction h with
    | last h => exact fun c hc hb => absurd hb (by simp [h c hc])
    | next h _ ih =>
      intro c hc hb
      rcases List.mem_append.mp hc with hc | hc
      · exact absurd hb (by simp [h c hc])
      · rcases List.mem_cons.mp hc with rfl | hc
        · rfl
        · exact ih c hc hb
  · intro h
    induction hn : t.length using Nat.strongRecOn generalizing t with
    | ind n ih =>
      by_cases hfeed : '\n' ∈ t
      · obtain ⟨l, r, rfl, hl⟩ := List.eq_append_cons_of_mem hfeed
        refine .next (fun c hc => Bool.eq_false_iff.mpr fun hb => hl ?_)
          (ih r.length (by simp [← hn]; omega) (fun c hc => h c (by simp [hc])) rfl)
        exact h c (by simp [hc]) hb ▸ hc
      · exact .last fun c hc => Bool.eq_false_iff.mpr fun hb => hfeed (h c hc hb ▸ hc)

theorem lines_append_feed {l : Text} (h : Unbroken l) (r : Text) :
    lines (l ++ '\n' :: r) = l :: lines r := by
  induction l with
  | nil => rfl
  | cons c l ih =>
    obtain ⟨hc, hl⟩ := List.forall_mem_cons.mp h
    rw [List.cons_append, lines, if_neg (by simp [hc]), ih hl]
    rintro rest rfl
    exact absurd hc (by decide)

theorem lines_of_unbroken {l : Text} (h : Unbroken l) (hne : l ≠ []) : lines l = [l] := by
  induction l with
  | nil => exact absurd rfl hne
  | cons c l ih =>
    obtain ⟨hc, hl⟩ := List.forall_mem_cons.mp h
    rw [lines, if_neg (by simp [hc])]
    · cases l with
      | nil => rfl
      | cons d l => rw [ih hl (List.cons_ne_nil d l)]
    · rintro rest rfl
      exact absurd hc (by decide)

theorem getLast?_feed {l r : Text} {c : Char} (hc : c ≠ '\n') :
    (l ++ '\n' :: r).getLast? = some c ↔ r.getLast? = some c := by
  cases r <;> simp [hc.symm]

/-- What follows a line feed has lines of its own. -/
theorem lines_append {e : Text} {c : Char} (he : Lined e) (hlast : e.getLast? = some c)
    (hc : c ≠ '\n') (r : Text) : lines (e ++ '\n' :: r) = lines e ++ lines r := by
  induction he with
  | last h =>
    rw [lines_append_feed h, lines_of_unbroken h (by rintro rfl; cases hlast)]
    rfl
  | @next l u h hu ih =>
    rw [List.append_assoc, List.cons_append, lines_append_feed h, lines_append_feed h,
      ih ((getLast?_feed hc).mp hlast)]
    rfl

theorem lines_ne_nil {t : Text} (h : t ≠ []) : lines t ≠ [] := by
  fun_cases lines t <;> simp_all

theorem joinLines_lines {t : Text} (h : Lined t) (hlast : t.getLast? ≠ some '\n') :
    joinLines (lines t) = t := by
  induction h with
  | @last l h =>
    by_cases hl : l = []
    · subst hl; rfl
    · rw [lines_of_unbroken h hl]; rfl
  | @next l r h hr ih =>
    cases r with
    | nil => simp at hlast
    | cons c r =>
      obtain ⟨line, more, hlines⟩ :=
        List.exists_cons_of_ne_nil (lines_ne_nil (List.cons_ne_nil c r))
      have ih := ih (by simpa using hlast)
      rw [lines_append_feed h]
      rw [hlines] at ih ⊢
      show l ++ ['\n'] ++ joinLines (line :: more) = _
      rw [ih, List.append_assoc]
      rfl

theorem unbroken_of_mem_lines {t line : Text} (h : line ∈ lines t) : Unbroken line := by
  fun_induction lines t generalizing line with
  | case1 => simp at h
  | case2 rest ih =>
    rcases List.mem_cons.mp h with rfl | h
    · simp [Unbroken]
    · exact ih h
  | case3 c rest _ hc ih =>
    rcases List.mem_cons.mp h with rfl | h
    · simp [Unbroken]
    · exact ih h
  | case4 c rest _ hc hnil ih =>
    rw [List.mem_singleton.mp h]
    simpa [Unbroken] using hc
  | case5 c rest _ hc first more hlines ih =>
    rw [hlines] at ih
    rcases List.mem_cons.mp h with rfl | h
    · exact List.forall_mem_cons.mpr ⟨by simpa using hc, ih List.mem_cons_self⟩
    · exact ih (List.mem_cons_of_mem _ h)

namespace Schema

/-! ### Lines that belong to a statement -/

/-- The text begins with a line that belongs to a statement, whatever follows the text. -/
def StartsLine : Text → Prop
  | [] => False
  | c :: rest =>
    if isBlank c then c ≠ '\n' ∧ StartsLine rest
    else c ≠ '#' ∧ (c = '-' → ∃ d, rest.head? = some d ∧ d ≠ '-')

theorem StartsLine.append {x : Text} (h : StartsLine x) (y : Text) : StartsLine (x ++ y) := by
  induction x with
  | nil => exact absurd h id
  | cons c x ih =>
    rw [List.cons_append]
    by_cases hc : isBlank c
    · rw [StartsLine, if_pos hc] at h ⊢
      exact ⟨h.1, ih h.2⟩
    · rw [StartsLine, if_neg hc] at h ⊢
      refine ⟨h.1, fun hminus => ?_⟩
      obtain ⟨d, hd, hne⟩ := h.2 hminus
      exact ⟨d, by simp [hd], hne⟩

/-- What follows a text that is not blank does not matter, unless it goes on a minus sign. -/
theorem StartsLine.replace {x y z : Text} (h : StartsLine (x ++ y))
    (hx : ∃ c ∈ x, isBlank c = false)
    (hz : x.getLast? = some '-' → ∃ d, z.head? = some d ∧ d ≠ '-') : StartsLine (x ++ z) := by
  induction x with
  | nil => simp at hx
  | cons c x ih =>
    rw [List.cons_append] at h ⊢
    by_cases hc : isBlank c
    · rw [StartsLine, if_pos hc] at h ⊢
      obtain ⟨b, hb, hbsolid⟩ := hx
      have hbx : b ∈ x := (List.mem_cons.mp hb).resolve_left (by rintro rfl; simp [hc] at hbsolid)
      refine ⟨h.1, ih h.2 ⟨b, hbx, hbsolid⟩ fun hlast => hz ?_⟩
      rw [List.getLast?_cons, hlast]
      rfl
    · rw [StartsLine, if_neg hc] at h ⊢
      refine ⟨h.1, fun hminus => ?_⟩
      cases x with
      | nil => exact hz (by simp [hminus])
      | cons e x => exact h.2 hminus

theorem exists_solid_of_startsLine {a b : Text} (h : StartsLine (a ++ '\n' :: b)) :
    ∃ c ∈ a, isBlank c = false := by
  induction a with
  | nil => exact absurd rfl (show '\n' ≠ '\n' ∧ _ from h).1
  | cons c a ih =>
    by_cases hc : isBlank c
    · rw [List.cons_append, StartsLine, if_pos hc] at h
      obtain ⟨d, hd, hsolid⟩ := ih h.2
      exact ⟨d, List.mem_cons_of_mem _ hd, hsolid⟩
    · exact ⟨c, List.mem_cons_self, by simpa using hc⟩

theorem trimRight_prefix (t : Text) : trimRight t <+: t := by
  rw [trimRight, ← List.reverse_suffix, List.reverse_reverse]
  exact List.dropWhile_suffix _

theorem head?_trimRight {t : Text} {c : Char} (hc : isBlank c = false) :
    (trimRight t).head? = some c ↔ t.head? = some c := by
  constructor
  · intro h
    obtain ⟨u, hu⟩ := List.head?_eq_some_iff.mp h
    obtain ⟨v, hv⟩ := trimRight_prefix t
    rw [← hv, hu]
    rfl
  · intro h
    obtain ⟨u, rfl⟩ := List.head?_eq_some_iff.mp h
    rw [← List.nil_append (c :: u), Sql.trimRight_append_mark hc]
    rfl

theorem isContent_cons_of_isBlank {c : Char} (hc : isBlank c) (l : Text) :
    isContent (c :: l) = isContent l := by
  have htrim : trim (c :: l) = trim l := by simp [trim, trimLeft, hc]
  rw [isContent, isContent, htrim]

theorem beginsComment_cons_iff (c : Char) (t : Text) :
    beginsComment (c :: t) ↔ c = '#' ∨ c = '-' ∧ t.head? = some '-' := by
  simp only [beginsComment, Bool.or_eq_true, Option.isSome_iff_exists, dropPrefix?_eq_some_iff]
  constructor
  · rintro (⟨rest, h⟩ | ⟨rest, h⟩)
    · cases h
      exact .inr ⟨rfl, rfl⟩
    · cases h
      exact .inl rfl
  · rintro (rfl | ⟨rfl, ht⟩)
    · exact .inr ⟨t, rfl⟩
    · obtain ⟨u, rfl⟩ := List.head?_eq_some_iff.mp ht
      exact .inl ⟨u, rfl⟩

theorem isContent_cons_of_solid {c : Char} (hc : isBlank c = false) (l : Text) :
    isContent (c :: l) ↔ c ≠ '#' ∧ (c = '-' → l.head? ≠ some '-') := by
  have htrim : trim (c :: l) = c :: trimRight l := by
    rw [trim, trimLeft, List.dropWhile_cons_of_neg (by simp [hc]), ← List.nil_append (c :: l),
      Sql.trimRight_append_mark hc]
    rfl
  have hhead : (trimRight l).head? = some '-' ↔ l.head? = some '-' := head?_trimRight (by decide)
  simp only [isContent, htrim, List.isEmpty_cons, Bool.not_false, Bool.true_and,
    Bool.not_eq_true', ← Bool.not_eq_true, beginsComment_cons_iff, hhead, not_or, not_and, ne_eq]

theorem startsLine_feed_iff {l : Text} (h : Unbroken l) (r : Text) :
    StartsLine (l ++ '\n' :: r) ↔ isContent l := by
  induction l with
  | nil => simp [StartsLine, isContent, trim, trimLeft, trimRight, isBlank]
  | cons c l ih =>
    obtain ⟨hc, hl⟩ := List.forall_mem_cons.mp h
    by_cases hblank : isBlank c
    · have hne : c ≠ '\n' := by rintro rfl; exact absurd hc (by decide)
      rw [List.cons_append, StartsLine, if_pos hblank, ih hl, isContent_cons_of_isBlank hblank]
      simp [hne]
    · rw [List.cons_append, StartsLine, if_neg hblank,
        isContent_cons_of_solid (by simpa using hblank)]
      cases l <;> simp [eq_comm]

theorem startsLine_iff {l : Text} (h : Unbroken l) (hlast : l.getLast? ≠ some '-') :
    StartsLine l ↔ isContent l := by
  rw [← startsLine_feed_iff h []]
  refine ⟨fun hl => hl.append _, fun hl => ?_⟩
  have hreplace := StartsLine.replace (z := []) hl (exists_solid_of_startsLine hl)
    fun hl' => absurd hl' hlast
  simpa using hreplace

/-! ### Lines that end a statement -/

/-- The last character of a text that is no blank, or the line feed if that comes later. -/
def lastSign? (t : Text) : Option Char := (t.filter fun c => !isBlank c || c == '\n').getLast?

/-- The text ends in a line that does not end a statement. -/
def LeavesOpen (t : Text) : Prop := lastSign? t ≠ some ';'

theorem lastSign?_append (x y : Text) : lastSign? (x ++ y) = (lastSign? y).or (lastSign? x) := by
  rw [lastSign?, List.filter_append, List.getLast?_append]
  rfl

theorem lastSign?_cons (c : Char) (y : Text) :
    lastSign? (c :: y) = (lastSign? y).or (lastSign? [c]) :=
  lastSign?_append [c] y

/-- What stands in front of a line feed does not matter. -/
theorem leavesOpen_feed_iff (x y : Text) : LeavesOpen (x ++ '\n' :: y) ↔ LeavesOpen y := by
  rw [LeavesOpen, LeavesOpen, lastSign?_append, lastSign?_cons]
  cases lastSign? y <;> simp [lastSign?]

theorem solid_trimLeft (t : Text) : Sql.solid (trimLeft t) = Sql.solid t := by
  induction t with
  | nil => rfl
  | cons c t ih =>
    by_cases hc : isBlank c
    · rw [Sql.solid_cons_of_isBlank hc, ← ih]
      simp [trimLeft, hc]
    · simp [trimLeft, hc]

theorem getLast?_trim (t : Text) : (trim t).getLast? = (Sql.solid t).getLast? := by
  rw [← solid_trimLeft, trim, trimRight, Sql.solid, List.getLast?_reverse, List.getLast?_filter,
    List.find?_not_eq_head?_dropWhile]

theorem endsStatement_iff {l : Text} (h : Unbroken l) :
    endsStatement l ↔ lastSign? l = some ';' := by
  have hsolid : (l.filter fun c => !isBlank c || c == '\n') = Sql.solid l := by
    refine List.filter_congr fun c hc => ?_
    have hne : c ≠ '\n' := by rintro rfl; exact absurd (h _ hc) (by decide)
    simp [hne]
  rw [endsStatement, getLast?_trim, lastSign?, hsolid, beq_iff_eq]

/-! ### Around line feeds -/

theorem append_eq_append_cons_iff {α : Type} {x y a b : List α} {c : α} :
    x ++ y = a ++ c :: b ↔
      (∃ b', x = a ++ c :: b' ∧ b = b' ++ y) ∨ ∃ a', y = a' ++ c :: b ∧ a = x ++ a' := by
  rw [List.append_eq_append_iff]
  constructor
  · rintro (⟨as, rfl, rfl⟩ | ⟨bs, rfl, hbs⟩)
    · exact .inr ⟨as, rfl, rfl⟩
    · rcases List.cons_eq_append_iff.mp hbs with ⟨rfl, rfl⟩ | ⟨b', rfl, rfl⟩
      · exact .inr ⟨[], rfl, by simp⟩
      · exact .inl ⟨b', rfl, rfl⟩
  · rintro (⟨b', rfl, rfl⟩ | ⟨a', rfl, rfl⟩)
    · exact .inr ⟨c :: b', rfl, rfl⟩
    · exact .inl ⟨a', rfl, rfl⟩

/-- The line feeds of a text are the one behind its first line and those behind that. -/
theorem forall_feed_iff {P : Text → Text → Prop} {l r : Text} (h : Unbroken l) :
    (∀ a b, l ++ '\n' :: r = a ++ '\n' :: b → P a b) ↔
      P l r ∧ ∀ a b, r = a ++ '\n' :: b → P (l ++ '\n' :: a) b := by
  constructor
  · exact fun hP => ⟨hP l r rfl, fun a b hr => hP _ b (by simp [hr])⟩
  · rintro ⟨hfirst, hmore⟩ a b heq
    rcases append_eq_append_cons_iff.mp heq with ⟨b', rfl, -⟩ | ⟨a', ha', rfl⟩
    · exact absurd (h '\n' (by simp)) (by decide)
    · rcases List.cons_eq_append_iff.mp ha' with ⟨rfl, hb⟩ | ⟨a'', rfl, hr⟩
      · cases hb
        simpa using hfirst
      · exact hmore a'' b hr

theorem forall_feed_of_unbroken {P : Text → Text → Prop} {l : Text} (h : Unbroken l) :
    ∀ a b, l = a ++ '\n' :: b → P a b := by
  rintro a b rfl
  exact absurd (h '\n' (by simp)) (by decide)

theorem forall_isContent_iff {t : Text} {c : Char} (h : Lined t) (hlast : t.getLast? = some c)
    (hfeed : c ≠ '\n') (hminus : c ≠ '-') :
    (∀ l ∈ lines t, isContent l) ↔ StartsLine t ∧ ∀ a b, t = a ++ '\n' :: b → StartsLine b := by
  induction h with
  | @last l h =>
    rw [lines_of_unbroken h (by rintro rfl; cases hlast), List.forall_mem_singleton,
      startsLine_iff h (by simpa [hlast] using hminus)]
    exact ⟨fun hl => ⟨hl, forall_feed_of_unbroken h⟩, fun hl => hl.1⟩
  | @next l r h hr ih =>
    rw [lines_append_feed h, List.forall_mem_cons, ih ((getLast?_feed hfeed).mp hlast),
      forall_feed_iff h, startsLine_feed_iff h]

theorem forall_not_endsStatement_iff {t : Text} (h : Lined t) :
    (∀ l ∈ lines t, endsStatement l = false) ↔
      (∀ a b, t = a ++ '\n' :: b → LeavesOpen a) ∧ LeavesOpen t := by
  have hline {l : Text} (hl : Unbroken l) : endsStatement l = false ↔ LeavesOpen l := by
    rw [← Bool.not_eq_true, endsStatement_iff hl]
    rfl
  induction h with
  | @last l h =>
    by_cases hne : l = []
    · subst hne
      simp [lines, LeavesOpen, lastSign?]
    · rw [lines_of_unbroken h hne, List.forall_mem_singleton, hline h]
      exact ⟨fun hl => ⟨forall_feed_of_unbroken h, hl⟩, fun hl => hl.2⟩
  | @next l r h hr ih =>
    rw [lines_append_feed h, List.forall_mem_cons, forall_feed_iff h, hline h]
    simp only [ih, leavesOpen_feed_iff, and_assoc]

theorem forall_dropLast_not_endsStatement_iff {t : Text} {c : Char} (h : Lined t)
    (hlast : t.getLast? = some c) (hfeed : c ≠ '\n') :
    (∀ l ∈ (lines t).dropLast, endsStatement l = false) ↔
      ∀ a b, t = a ++ '\n' :: b → LeavesOpen a := by
  induction h with
  | @last l h =>
    rw [lines_of_unbroken h (by rintro rfl; cases hlast)]
    exact ⟨fun _ => forall_feed_of_unbroken h, fun _ => by simp⟩
  | @next l r h hr ih =>
    have hlast' := (getLast?_feed hfeed).mp hlast
    have hne : lines r ≠ [] := lines_ne_nil (by rintro rfl; cases hlast')
    rw [lines_append_feed h, List.dropLast_cons_of_ne_nil hne, List.forall_mem_cons, ih hlast',
      forall_feed_iff h, ← Bool.not_eq_true, endsStatement_iff h]
    simp only [leavesOpen_feed_iff]
    rfl

end Schema

end SchemaMill
