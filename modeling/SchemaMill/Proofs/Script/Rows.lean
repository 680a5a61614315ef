import SchemaMill.Proofs.Script.Tables
import SchemaMill.Sql.Printer

/-!
# The rows of a table

The elements of a table are written one on each row. A row keeps to the lines of a statement
(`Element.Fits.steady_row`), and its first line belongs to a statement unless it looks like a
comment: a column that stands without quotes may have a name with a number sign in front
(`Element.Fits.startsLine_row`).
-/

namespace SchemaMill.Sql

open Schema

variable {c : Char} {d : Dialect} {t : Text} {u : Token}

/-! ### Keywords -/

theorem exists_mem_splitWhere_iff {p : Char → Bool} (hc : p c = false) :
    (∃ part ∈ splitWhere p t, c ∈ part) ↔ c ∈ t := by
  induction t with
  | nil => simp [splitWhere]
  | cons e t ih =>
    rw [splitWhere]
    split
    · next he =>
      have hne : c ≠ e := by rintro rfl; simp [hc] at he
      simp [ih, hne]
    · obtain ⟨part, parts, hsplit⟩ := List.exists_cons_of_ne_nil (splitWhere_ne_nil p t)
      rw [hsplit] at ih ⊢
      simp [← ih, or_assoc]

theorem mem_collapseBlanks_iff (hc : isBlank c = false) : c ∈ collapseBlanks t ↔ c ∈ t := by
  have hwords : (∃ w ∈ words t, c ∈ w) ↔ c ∈ t := by
    rw [← exists_mem_splitWhere_iff hc]
    refine exists_congr fun w => ?_
    rw [words, List.mem_filter, and_assoc]
    exact and_congr_right fun _ => and_iff_right_of_imp fun h => by
      simpa using List.ne_nil_of_mem h
  rw [← hwords]
  refine ⟨fun h => (mem_joinWith h).resolve_left ?_, ?_⟩
  · rintro h
    rw [List.mem_singleton.mp h] at hc
    exact absurd hc (by decide)
  · rintro ⟨w, hw, h⟩
    rw [collapseBlanks]
    exact mem_joinWith_of_mem hw h

/-- A word that neither begins a comment nor ends a statement. -/
structure IsPlain (w : Text) : Prop where
  ne_nil : w ≠ []
  /-- None of the signs of comments and statements stands in it. -/
  signs : ∀ c ∈ ['#', '-', ';'], c ∉ w

theorem isPlain_of_beginsConstraint {w : Text} (h : beginsConstraint w) : IsPlain w := by
  have hwords : ∀ w ∈ "CONSTRAINT".toList :: constraintWords,
      w ≠ [] ∧ ∀ c ∈ ['#', '-', ';'], c ∉ w := by decide
  have hmem : w ∈ "CONSTRAINT".toList :: constraintWords := by
    simpa [beginsConstraint] using h
  exact ⟨(hwords w hmem).1, (hwords w hmem).2⟩

theorem isPlain_of_mem_headWords {w : Text} (h : w ∈ headWords) : IsPlain w := by
  have hwords : ∀ w ∈ headWords, w ≠ [] ∧ ∀ c ∈ ['#', '-', ';'], c ∉ w := by decide
  exact ⟨(hwords w h).1, (hwords w h).2⟩

/-- A keyword is written as it stands, perhaps with single spaces. -/
theorem render_of_word_ne_nil (h : u.word ≠ []) (d : Dialect) :
    u.render d = u.value ∨ u.render d = collapseBlanks u.value := by
  rw [Token.render]
  split
  · next hname =>
    rw [Token.word, if_pos (.inr (.inr hname.2))] at h
    exact absurd rfl h
  · split
    · exact .inr rfl
    · exact .inl rfl

theorem mem_word_of_mem_render (hne : u.word ≠ []) (hc : isBlank c = false)
    (hupper : upperChar c = [c]) (h : c ∈ u.render d) : c ∈ u.word := by
  have hvalue : c ∈ u.value := by
    rcases render_of_word_ne_nil hne d with heq | heq
    · rwa [heq] at h
    · rwa [heq, mem_collapseBlanks_iff hc] at h
  have hword : u.word = collapseBlanks (upperCase u.value) := by
    rw [Token.word] at hne ⊢
    split at hne
    · exact absurd rfl hne
    · next h => rw [if_neg h]
  rw [hword, mem_collapseBlanks_iff hc]
  exact List.mem_flatMap.mpr ⟨c, hvalue, by simp [hupper]⟩

theorem notMem_render_of_isPlain (h : IsPlain u.word) (d : Dialect) :
    ∀ c ∈ ['#', '-', ';'], c ∉ u.render d := by
  have hsigns : ∀ c ∈ ['#', '-', ';'], isBlank c = false ∧ upperChar c = [c] := by decide
  intro c hc hmem
  obtain ⟨hblank, hupper⟩ := hsigns c hc
  exact h.signs c hc (mem_word_of_mem_render h.ne_nil hblank hupper hmem)

theorem exists_render_cons (hfirm : Firm u.value) (h : u.word ≠ []) (d : Dialect) :
    ∃ c w, u.render d = c :: w ∧ isBlank c = false := by
  obtain ⟨c, hhead, hc⟩ := hfirm.head
  obtain ⟨v, hv⟩ := List.head?_eq_some_iff.mp hhead
  rcases render_of_word_ne_nil h d with heq | heq
  · exact ⟨c, v, heq.trans hv, hc⟩
  · obtain ⟨w, hw⟩ := exists_collapseBlanks_cons hc v
    exact ⟨c, w, by rw [heq, hv, hw], hc⟩

/-- A line that begins with a plain keyword belongs to a statement. -/
theorem startsLine_render (hfirm : Firm u.value) (h : IsPlain u.word) (d : Dialect) (z : Text) :
    StartsLine (u.render d ++ z) := by
  obtain ⟨c, w, hrender, hc⟩ := exists_render_cons hfirm h.ne_nil d
  have hsigns := notMem_render_of_isPlain h d
  rw [hrender] at hsigns ⊢
  rw [List.cons_append, StartsLine, if_neg (by simp [hc])]
  refine ⟨?_, ?_⟩
  · rintro rfl
    exact hsigns '#' (by decide) List.mem_cons_self
  · rintro rfl
    exact absurd List.mem_cons_self (hsigns '-' (by decide))

/-! ### Clauses -/

theorem Part.Fits.steady_render {p : Part} (h : p.Fits) (d : Dialect) :
    Steady [] (p.render d) := by
  cases p with
  | token u => exact (Token.settled_render (Token.Fits.settled h) d).steady
  | name q => exact QualifiedName.Fits.steady_render h d

theorem unbroken_gap (b : Bool) : Unbroken (if b then [' '] else []) := by cases b <;> decide

theorem steady_renderRest {ps : List Part} (h : ∀ p ∈ ps, p.Fits) :
    Steady [] (renderRest d ps) := by
  induction ps with
  | nil => exact steady_of_unbroken (by simp [Unbroken, renderRest]) []
  | cons p ps ih =>
    obtain ⟨hp, hps⟩ := List.forall_mem_cons.mp h
    exact ((steady_of_unbroken (unbroken_gap _) []).append (hp.steady_render d)).append (ih hps)

theorem steady_renderParts {ps : List Part} (h : ∀ p ∈ ps, p.Fits) :
    Steady [] (renderParts d ps) := by
  cases ps with
  | nil => exact steady_of_unbroken (by simp [Unbroken, renderParts]) []
  | cons p ps =>
    obtain ⟨hp, hps⟩ := List.forall_mem_cons.mp h
    exact (hp.steady_render d).append (steady_renderRest hps)

/-- Tokens that can stand behind any text can be written again there. -/
theorem settled_renderTokens {us : List Token} (h : ∀ u ∈ us, Settled u.value) (d : Dialect) :
    Settled (renderTokens d us) := by
  have hrest {us : List Token} (h : ∀ u ∈ us, Settled u.value) :
      Settled (renderRest d (us.map .token)) := by
    induction us with
    | nil => exact settled_of_unbroken (by simp [Unbroken, renderRest])
    | cons u us ih =>
      obtain ⟨hu, hus⟩ := List.forall_mem_cons.mp h
      exact ((settled_of_unbroken (unbroken_gap _)).append (Token.settled_render hu d)).append
        (ih hus)
  cases us with
  | nil => exact settled_of_unbroken (by simp [Unbroken, renderTokens, renderParts])
  | cons u us =>
    obtain ⟨hu, hus⟩ := List.forall_mem_cons.mp h
    exact (Token.settled_render hu d).append (hrest hus)

/-! ### Clauses in the other dialect -/

namespace Postgres

theorem fits_identity (b : Bool) : (identity b).Fits := by
  have hunbroken : Unbroken "GENERATED BY DEFAULT AS IDENTITY".toList := by decide
  exact Token.fits_of_unbroken hunbroken ⟨'G', rfl, by decide⟩

theorem fits_columnOptions {ps : List Part} (h : ∀ p ∈ ps, p.Fits) :
    ∀ p ∈ columnOptions ps, p.Fits := by
  fun_induction columnOptions ps with
  | case1 => simp
  | case2 p rest _ ih => exact ih (List.forall_mem_cons.mp h).2
  | case3 p rest _ _ ih =>
    exact List.forall_mem_cons.mpr ⟨fits_identity _, ih (List.forall_mem_cons.mp h).2⟩
  | case4 p rest _ _ _ ih =>
    exact ih fun q hq => h q (List.mem_cons_of_mem _ (List.mem_of_mem_tail hq))
  | case5 p rest _ _ _ _ ih =>
    refine ih fun q hq => h q (List.mem_cons_of_mem _ ?_)
    exact List.mem_of_mem_drop ((skipGroup_suffix _).subset hq)
  | case6 p rest _ _ _ _ ih =>
    obtain ⟨hp, hrest⟩ := List.forall_mem_cons.mp h
    exact List.forall_mem_cons.mpr ⟨hp, ih hrest⟩

theorem subset_constraintParts (ps : List Part) : constraintParts ps ⊆ ps := by
  fun_induction constraintParts ps with
  | case1 => simp
  | case2 p rest _ ih =>
    exact fun q hq => List.mem_cons_of_mem _ (List.mem_of_mem_tail (ih hq))
  | case3 p rest _ _ ih =>
    exact List.cons_subset_cons p (List.Subset.trans ih (afterUnique_suffix rest).subset)
  | case4 p rest _ _ ih => exact List.cons_subset_cons p ih

/-- The word that begins an element stays. -/
theorem exists_constraintParts_cons {t : Token} (h : beginsConstraint t.word) (ps : List Part) :
    ∃ rest, constraintParts (.token t :: ps) = .token t :: rest := by
  have hword : (Part.token t).isWord "USING" = false := by
    rw [Part.isWord, Part.word, beq_eq_false_iff_ne]
    intro heq
    rw [heq] at h
    exact absurd h (by decide)
  have htype : startsIndexType (.token t :: ps) = false := by
    cases ps <;> simp [startsIndexType, hword]
  rw [constraintParts, htype]
  simp only [Bool.false_eq_true, if_false]
  split
  · exact ⟨_, rfl⟩
  · exact ⟨_, rfl⟩

end Postgres

/-! ### Rows -/

theorem steady_of_mem_encodingClause {keyword : String} {name : Option Text}
    (hkeyword : Unbroken keyword.toList) (h : ∀ v ∈ name, Steady [] v) :
    ∀ v ∈ encodingClause keyword name, Steady [] v := by
  cases name with
  | none => simp [encodingClause]
  | some name =>
    rw [encodingClause]
    split
    · simp
    · exact List.forall_mem_singleton.mpr ((steady_of_unbroken hkeyword []).append (h name rfl))

theorem unbroken_typeName (h : Unbroken t) : Unbroken (Postgres.typeName t) := by
  have hnames : ∀ e ∈ Postgres.typeNames, Unbroken e.2 := by decide
  rw [Postgres.typeName]
  cases hlookup : Postgres.typeNames.lookup t with
  | none => exact h
  | some name =>
    obtain ⟨before, after, heq, -⟩ := List.lookup_eq_some_iff.mp hlookup
    exact hnames (t, name) (by simp [heq])

theorem Column.Fits.steady_renderType {c : Column} (h : c.Fits) (d : Dialect) :
    Steady [] (c.renderType d) := by
  have htype : Unbroken
      (if d.hasColumnCharsets then c.dataType else Postgres.typeName c.dataType) := by
    split
    · exact h.dataType
    · exact unbroken_typeName h.dataType
  have hargs := settled_renderTokens (fun u hu => (h.typeArgs u hu).settled) d
  simp only [Column.renderType]
  generalize (if d.hasColumnCharsets then c.dataType else Postgres.typeName c.dataType) = name
    at htype ⊢
  split
  · exact steady_of_unbroken htype []
  · have hopen := steady_of_unbroken (unbroken_append_iff.mpr ⟨htype, (by decide : Unbroken ['('])⟩)
    exact ((hopen []).append hargs.steady).append (steady_of_unbroken (by decide) [])

theorem Column.Fits.steady_row {c : Column} (h : c.Fits) (d : Dialect) :
    Steady [] (c.render d) := by
  have hencoding : ∀ v ∈ if d.hasColumnCharsets then
      encodingClause "CHARACTER SET " c.charset ++ encodingClause "COLLATE " c.collation else [],
      Steady [] v := by
    split
    · exact List.forall_mem_append.mpr
        ⟨steady_of_mem_encodingClause (by decide) h.encoding.charset,
          steady_of_mem_encodingClause (by decide) h.encoding.collation⟩
    · simp
  have hoptions : ∀ p ∈ if d.hasColumnCharsets then c.options
      else Postgres.columnOptions c.options, p.Fits := by
    split
    · exact h.options
    · exact Postgres.fits_columnOptions h.options
  simp only [Column.render]
  generalize (if d.hasColumnCharsets then c.options else Postgres.columnOptions c.options) = options
    at hoptions ⊢
  refine steady_joinWith (steady_of_unbroken (by decide) []) (List.forall_mem_append.mpr
    ⟨List.forall_mem_append.mpr ⟨?_, hencoding⟩, ?_⟩)
  · simpa using ⟨h.name.steady_render d, h.steady_renderType d⟩
  · split
    · simp
    · exact List.forall_mem_singleton.mpr (steady_renderParts hoptions)

/-- A row keeps to the lines of a statement. -/
theorem Element.Fits.steady_row {e : Element} (h : e.Fits) {row : Text}
    (hrow : e.render? d = some row) : Steady [] row := by
  cases e with
  | column c =>
    cases hrow
    exact Column.Fits.steady_row h d
  | constraint c =>
    rw [Element.render?] at hrow
    split at hrow
    · cases hrow
      exact steady_renderParts h
    · obtain ⟨c', hc', rfl⟩ := Option.map_eq_some_iff.mp hrow
      rw [Postgres.constraint?] at hc'
      split at hc' <;> cases hc'
      exact steady_renderParts fun p hp => h p (Postgres.subset_constraintParts _ hp)

/-- The name of the column stands without quotes and begins like a comment. -/
def Column.looksLikeComment (c : Column) : Bool :=
  !c.name.quoted && c.name.name.head? == some '#'

theorem Column.exists_render (c : Column) (d : Dialect) :
    ∃ z, c.render d = c.name.render d ++ ' ' :: z := by
  rw [Column.render, List.append_assoc, List.cons_append, joinWith_cons]
  exact ⟨_, rfl⟩

/-- The row of a column belongs to a statement unless it looks like a comment. -/
theorem Column.Fits.startsLine_row {c : Column} (h : c.Fits) (hc : c.looksLikeComment = false)
    (d : Dialect) : StartsLine (c.render d) := by
  obtain ⟨z, hz⟩ := c.exists_render d
  rw [hz]
  cases hquoted : c.name.quoted with
  | true =>
    rw [Identifier.render_of_quoted hquoted]
    exact startsLine_cons_of_mark (mem_closingQuotes_identifierQuote d) _
  | false =>
    have hfirm := h.firm hquoted
    rw [looksLikeComment, hquoted] at hc
    rw [Identifier.render, hquoted, if_neg (by simp)]
    obtain ⟨e, hhead, he⟩ := hfirm.head
    obtain ⟨v, hv⟩ := List.head?_eq_some_iff.mp hhead
    have hminus := hfirm.noComment
    rw [hv] at hc hminus ⊢
    rw [List.cons_append, StartsLine, if_neg (by simp [he])]
    refine ⟨by simpa using hc, ?_⟩
    rintro rfl
    cases v with
    | nil => exact ⟨' ', rfl, by decide⟩
    | cons a v =>
      refine ⟨a, rfl, ?_⟩
      rintro rfl
      exact hminus v rfl

theorem Column.not_startsLine_row {c : Column} (hc : c.looksLikeComment) (d : Dialect) (z : Text) :
    ¬ StartsLine (c.render d ++ z) := by
  obtain ⟨hquoted, hhash⟩ := Bool.and_eq_true_iff.mp hc
  obtain ⟨v, hv⟩ := List.head?_eq_some_iff.mp (beq_iff_eq.mp hhash)
  obtain ⟨y, hy⟩ := c.exists_render d
  rw [hy, Identifier.render, if_neg (by simpa using hquoted), hv]
  exact fun h => h.1 rfl

/-- The first line of a row belongs to a statement unless the row is a column that looks like a
comment. -/
theorem Element.Fits.startsLine_row {e : Element} (h : e.Fits) (hform : e.WellFormed)
    (hcomment : ∀ c ∈ e.column?, c.looksLikeComment = false) {row : Text}
    (hrow : e.render? d = some row) : StartsLine row := by
  cases e with
  | column c =>
    cases hrow
    exact Column.Fits.startsLine_row h (hcomment c rfl) d
  | constraint c =>
    obtain ⟨-, u, ps, hparts, hword⟩ := hform
    have hu : u.Fits := h (.token u) (by simp [hparts])
    have hline (rest : List Part) : StartsLine (renderParts d (.token u :: rest)) :=
      startsLine_render hu.firm (isPlain_of_beginsConstraint hword) d _
    rw [Element.render?] at hrow
    split at hrow
    · cases hrow
      rw [hparts]
      exact hline ps
    · obtain ⟨c', hc', rfl⟩ := Option.map_eq_some_iff.mp hrow
      rw [Postgres.constraint?] at hc'
      split at hc' <;> cases hc'
      obtain ⟨rest, hrest⟩ := Postgres.exists_constraintParts_cons hword ps
      rw [hparts, hrest]
      exact hline rest

end SchemaMill.Sql
