import SchemaMill.Proofs.Reading.Clauses
import SchemaMill.Proofs.Script.Tokens

/-!
# Names and tokens that are written again

A name keeps the lines of a statement when it changes its quotes: inside, the quote is written once
or twice (`Repeats`), and another quote stands at the end (`steady_mark_iff`). It keeps them too
when something is taken off at its start (`Identifier.Fits.suffix`). A token can be written again
behind any text (`Token.settled_render`), and a dotted name behind any text that leaves a line open.
-/

namespace SchemaMill.Sql

open Schema

variable {p p' t u v w x y z : Text} {c q : Char} {d : Dialect}

theorem steady_joinWith {sep : Text} (hsep : Steady [] sep) {ts : List Text}
    (h : ∀ t ∈ ts, Steady [] t) : Steady [] (joinWith sep ts) := by
  cases ts with
  | nil => exact steady_of_unbroken (by simp [Unbroken, joinWith]) []
  | cons t ts =>
    obtain ⟨ht, hts⟩ := List.forall_mem_cons.mp h
    rw [joinWith_cons]
    refine ht.append ?_
    clear ht h
    induction ts with
    | nil => exact steady_of_unbroken (by simp [Unbroken]) []
    | cons u ts ih =>
      obtain ⟨hu, hts⟩ := List.forall_mem_cons.mp hts
      rw [List.flatMap_cons]
      exact (hsep.append hu).append (ih hts)

/-! ### Quotes -/

/-- The quotes that stand at the end of a name. -/
def closingQuotes : List Char := ['\x60', '"', ']']

theorem of_mem_closingQuotes (h : q ∈ closingQuotes) :
    isBlank q = false ∧ q ≠ '#' ∧ q ≠ '-' ∧ q ≠ ';' := by
  revert q
  decide

theorem mem_closingQuotes {e : Char} (h : closingQuote? c = some e) : e ∈ closingQuotes := by
  rw [closingQuote?] at h
  split at h
  · cases h; decide
  · split at h
    · cases h; decide
    · split at h
      · cases h; decide
      · cases h

theorem isLineBreak_of_isBlank_eq_false (h : isBlank c = false) : isLineBreak c = false := by
  rw [Bool.eq_false_iff]
  intro hc
  simp [isBlank_of_isLineBreak hc] at h

theorem startsLine_cons_of_mark (h : q ∈ closingQuotes) (t : Text) : StartsLine (q :: t) := by
  obtain ⟨hblank, hhash, hminus, -⟩ := of_mem_closingQuotes h
  rw [StartsLine, if_neg (by simp [hblank])]
  exact ⟨hhash, fun h => absurd h hminus⟩

theorem leavesOpen_mark (h : q ∈ closingQuotes) (t : Text) : LeavesOpen (t ++ [q]) := by
  obtain ⟨hblank, -, -, hsemicolon⟩ := of_mem_closingQuotes h
  exact leavesOpen_concat hblank hsemicolon t

/-- A line that goes on to a quote does so to any other quote. -/
theorem startsLine_mark_iff {e : Char} (hq : q ∈ closingQuotes) (he : e ∈ closingQuotes) :
    StartsLine (t ++ [q]) ↔ StartsLine (t ++ [e]) := by
  induction t with
  | nil => exact iff_of_true (startsLine_cons_of_mark hq []) (startsLine_cons_of_mark he [])
  | cons c t ih =>
    rw [List.cons_append, List.cons_append, StartsLine, StartsLine]
    split
    · rw [ih]
    · cases t with
      | nil => simp [(of_mem_closingQuotes hq).2.2.1, (of_mem_closingQuotes he).2.2.1]
      | cons d t => simp

/-- In front of a quote a name is as steady as in front of any other. -/
theorem steady_mark_iff {e : Char} (hq : q ∈ closingQuotes) (he : e ∈ closingQuotes) :
    Steady [q] t ↔ Steady [e] t :=
  ⟨fun h => ⟨h.lined, fun a b hab => (startsLine_mark_iff hq he).mp (h.starts a b hab)⟩,
    fun h => ⟨h.lined, fun a b hab => (startsLine_mark_iff hq he).mpr (h.starts a b hab)⟩⟩

/-- A text, and the same text in which some of the quotes are written twice. -/
inductive Repeats (q : Char) : Text → Text → Prop where
  | nil : Repeats q [] []
  | cons {t u : Text} (c : Char) (h : Repeats q t u) : Repeats q (c :: t) (c :: u)
  | twice {t u : Text} (h : Repeats q t u) : Repeats q (q :: t) (q :: q :: u)

theorem repeats_double (q : Char) (t : Text) : Repeats q t (double q t) := by
  induction t with
  | nil => exact .nil
  | cons c t ih =>
    rw [double]
    split
    · next hc =>
      subst hc
      exact .twice ih
    · exact .cons c ih

theorem repeats_undouble (q : Char) (t : Text) : Repeats q (undouble q t) t := by
  induction t using List.twoStepInduction with
  | nil => exact .nil
  | singleton a => exact .cons a .nil
  | cons_cons a b rest ihRest ih =>
    rw [undouble]
    split
    · next h =>
      obtain ⟨rfl, rfl⟩ := h
      exact .twice ihRest
    · exact .cons a (ih b)

namespace Repeats

theorem head?_append (h : Repeats q t u) (z : Text) : (t ++ z).head? = (u ++ z).head? := by
  cases h <;> rfl

theorem startsLine_iff (hq : q ∈ closingQuotes) (h : Repeats q t u) :
    StartsLine (t ++ z) ↔ StartsLine (u ++ z) := by
  induction h with
  | nil => rfl
  | cons c h ih =>
    rw [List.cons_append, List.cons_append, StartsLine, StartsLine, ih, h.head?_append]
  | twice => exact iff_of_true (startsLine_cons_of_mark hq _) (startsLine_cons_of_mark hq _)

theorem steady_iff (hq : q ∈ closingQuotes) (h : Repeats q t u) : Steady z t ↔ Steady z u := by
  induction h with
  | nil => rfl
  | cons c h ih => rw [steady_cons_iff, steady_cons_iff, ih, h.startsLine_iff hq]
  | twice h ih =>
    have hsolid := (of_mem_closingQuotes hq).1
    have hbreak := isLineBreak_of_isBlank_eq_false hsolid
    have hfeed : q ≠ '\n' := by rintro rfl; exact absurd hsolid (by decide)
    simp [steady_cons_iff, ih, hbreak, hfeed]

theorem runsOn_iff (h : Repeats q t u) : RunsOn p t ↔ RunsOn p u := by
  induction h generalizing p with
  | nil => rfl
  | cons c h ih => rw [runsOn_cons_iff, runsOn_cons_iff, ih]
  | twice h ih =>
    have hlast : lastSign? (p ++ [q]) = lastSign? (p ++ [q] ++ [q]) := by
      rw [lastSign?_append (p ++ [q]), lastSign?_append p]
      cases lastSign? [q] <;> simp
    have hfeed (hq : q = '\n') : LeavesOpen (p ++ [q]) := by
      subst hq
      rw [leavesOpen_feed_iff]
      simp [LeavesOpen, lastSign?]
    rw [runsOn_cons_iff, runsOn_cons_iff, runsOn_cons_iff, ih]
    exact and_congr_right fun _ =>
      ⟨fun h => ⟨hfeed, RunsOn.congr h hlast⟩, fun h => RunsOn.congr h.2 hlast.symm⟩

end Repeats

/-! ### Identifiers -/

/-- A name that can be written in quotes of any kind. -/
structure Identifier.Fits (i : Identifier) : Prop where
  /-- Behind its line feeds are lines of a statement. -/
  steady : Steady (if i.quoted then ['"'] else []) i.name
  /-- In front of its line feeds no statement ends. -/
  runsOn : RunsOn [] i.name

theorem Identifier.fits_ofText (hsteady : Steady [] t) (hopen : RunsOn [] t) :
    (ofText t).Fits := by
  unfold ofText
  split
  · exact ⟨hsteady, hopen⟩
  · next c rest =>
    split
    · exact ⟨hsteady, hopen⟩
    · next close hclose =>
      split
      · next hlast =>
        have hmark := mem_closingQuotes hclose
        have hinner : Steady [close] rest.dropLast ∧ RunsOn [] rest.dropLast := by
          rcases List.eq_nil_or_concat rest with rfl | ⟨inner, e, rfl⟩
          · have hnil : Unbroken ([] : Text) := by simp [Unbroken]
            exact ⟨steady_of_unbroken hnil _, runsOn_of_unbroken hnil _⟩
          · rw [List.concat_eq_append, ← List.cons_append, List.getLast?_concat] at hlast
            obtain rfl := Option.some.inj hlast
            rw [← List.singleton_append, List.concat_eq_append] at hsteady hopen
            rw [List.concat_eq_append, List.dropLast_concat]
            exact ⟨(steady_append_iff.mp (steady_append_iff.mp hsteady).2).1,
              (runsOn_append_iff.mp (runsOn_append_iff.mp hopen).2).1.alone⟩
        obtain ⟨hsteady, hopen⟩ := hinner
        have hquote := (steady_mark_iff hmark (by decide : '"' ∈ closingQuotes)).mp hsteady
        split
        · exact ⟨hquote, hopen⟩
        · have hrepeats := repeats_undouble close rest.dropLast
          exact ⟨(hrepeats.steady_iff hmark).mpr hquote, hrepeats.runsOn_iff.mpr hopen⟩
      · exact ⟨hsteady, hopen⟩

/-- A name can lose what stands at its start. -/
theorem Identifier.Fits.suffix {i : Identifier} (h : i.Fits) (hv : v <:+ i.name) :
    Identifier.Fits { i with name := v } := by
  obtain ⟨steady, runsOn⟩ := h
  obtain ⟨u, hu⟩ := hv
  rw [← hu] at steady runsOn
  exact ⟨(steady_append_iff.mp steady).2, (runsOn_append_iff.mp runsOn).2.alone⟩

theorem mem_closingQuotes_identifierQuote (d : Dialect) : d.identifierQuote ∈ closingQuotes := by
  cases d <;> decide

theorem Identifier.render_of_quoted {i : Identifier} (h : i.quoted) (d : Dialect) :
    i.render d = d.identifierQuote :: (double d.identifierQuote i.name ++ [d.identifierQuote]) := by
  rw [render, if_pos h, List.cons_append]

theorem Identifier.Fits.steady_render {i : Identifier} (h : i.Fits) (d : Dialect) :
    Steady [] (i.render d) := by
  obtain ⟨steady, -⟩ := h
  by_cases hquoted : i.quoted
  · have hmark := mem_closingQuotes_identifierQuote d
    have hunbroken : Unbroken [d.identifierQuote] := by cases d <;> decide
    rw [if_pos hquoted, steady_mark_iff (by decide) hmark,
      (repeats_double d.identifierQuote i.name).steady_iff hmark] at steady
    rw [render_of_quoted hquoted, ← List.singleton_append]
    refine (steady_of_unbroken hunbroken []).append ?_
    exact steady_append_iff.mpr ⟨steady, steady_of_unbroken hunbroken []⟩
  · rw [if_neg hquoted] at steady
    rwa [render, if_neg hquoted]

theorem Identifier.Fits.runsOn_render {i : Identifier} (h : i.Fits) (d : Dialect) :
    RunsOn [] (i.render d) := by
  by_cases hquoted : i.quoted
  · have hunbroken : Unbroken [d.identifierQuote] := by cases d <;> decide
    have hopen : LeavesOpen ([] ++ [d.identifierQuote]) :=
      leavesOpen_mark (mem_closingQuotes_identifierQuote d) []
    have hname := (repeats_double d.identifierQuote i.name).runsOn_iff.mp (h.runsOn.behind hopen)
    rw [render_of_quoted hquoted, ← List.singleton_append]
    exact runsOn_append_iff.mpr ⟨runsOn_of_unbroken hunbroken [],
      runsOn_append_iff.mpr ⟨hname, runsOn_of_unbroken hunbroken _⟩⟩
  · rw [render, if_neg hquoted]
    exact h.runsOn

/-- A dotted name of which each name can be written again. -/
def QualifiedName.Fits (q : QualifiedName) : Prop := ∀ i ∈ q.parts, i.Fits

theorem QualifiedName.Fits.steady_render {q : QualifiedName} (h : q.Fits) (d : Dialect) :
    Steady [] (q.render d) :=
  steady_joinWith (steady_of_unbroken (by decide) []) (List.forall_mem_map.mpr fun i hi =>
    (h i hi).steady_render d)

theorem QualifiedName.Fits.runsOn_render {q : QualifiedName} (h : q.Fits) (d : Dialect) :
    RunsOn [] (q.render d) := by
  unfold QualifiedName.Fits at h
  rw [QualifiedName.render]
  generalize q.parts = is at h ⊢
  induction is with
  | nil => exact runsOn_of_unbroken (by simp [Unbroken, joinWith]) []
  | cons i is ih =>
    obtain ⟨hi, his⟩ := List.forall_mem_cons.mp h
    cases is with
    | nil => exact hi.runsOn_render d
    | cons j is =>
      have hdot := leavesOpen_concat (c := '.') (by decide) (by decide) (i.render d)
      refine runsOn_append_iff.mpr ⟨runsOn_append_iff.mpr ⟨hi.runsOn_render d, ?_⟩, ?_⟩
      · exact runsOn_of_unbroken (by decide) _
      · exact (ih his).behind hdot

/-! ### Tokens -/

theorem mem_joinWith {sep : Text} {ts : List Text} (h : c ∈ joinWith sep ts) :
    c ∈ sep ∨ ∃ t ∈ ts, c ∈ t := by
  cases ts with
  | nil => simp [joinWith] at h
  | cons t ts =>
    rw [joinWith_cons, List.mem_append, List.mem_flatMap] at h
    rcases h with h | ⟨u, hu, h⟩
    · exact .inr ⟨t, List.mem_cons_self, h⟩
    · rcases List.mem_append.mp h with h | h
      · exact .inl h
      · exact .inr ⟨u, List.mem_cons_of_mem _ hu, h⟩

theorem mem_joinWith_of_mem {sep : Text} {ts : List Text} (ht : t ∈ ts) (h : c ∈ t) :
    c ∈ joinWith sep ts := by
  cases ts with
  | nil => cases ht
  | cons u ts =>
    rw [joinWith_cons, List.mem_append, List.mem_flatMap]
    rcases List.mem_cons.mp ht with rfl | ht
    · exact .inl h
    · exact .inr ⟨t, ht, List.mem_append_right _ h⟩

theorem unbroken_collapseBlanks (t : Text) : Unbroken (collapseBlanks t) := by
  intro c hc
  rcases mem_joinWith hc with hc | ⟨w, hw, hc⟩
  · rw [List.mem_singleton.mp hc]
    decide
  · exact isLineBreak_of_isBlank_eq_false ((isSolid_of_mem_words hw).2 c hc)

theorem Token.Fits.settled {u : Token} (h : u.Fits) : Settled u.value :=
  settled_of_head h.firm.head h.steady h.runsOn

/-- A token that can stand behind any text can be written again there. -/
theorem Token.settled_render {u : Token} (h : Settled u.value) (d : Dialect) :
    Settled (u.render d) := by
  rw [Token.render]
  split
  · have hfits : u.identifier.Fits := Identifier.fits_ofText h.steady (h.runsOn [])
    cases hquoted : u.identifier.quoted with
    | true =>
      refine settled_of_head ⟨d.identifierQuote, ?_, ?_⟩ (hfits.steady_render d)
        (hfits.runsOn_render d)
      · rw [Identifier.render_of_quoted hquoted]
        rfl
      · cases d <;> decide
    | false =>
      have hname : u.identifier.name = u.value := Identifier.ofText_of_not_quoted hquoted
      rw [Identifier.render, hquoted, hname]
      exact h
  · split
    · exact settled_of_unbroken (unbroken_collapseBlanks _)
    · exact h

end SchemaMill.Sql
