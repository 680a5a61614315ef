import SchemaMill.Proofs.Script.Documents
import SchemaMill.Proofs.Script.Rows

/-!
# The layout of a table

A table is written with its rows on lines of their own. Whatever the statement was that the table
comes from, the words up to the body and the table options keep to the lines of a statement, so only
the body decides whether the table is a statement again (`isStatement_render_iff`): there has to be
a row between the parentheses, no row may look like a comment, and no line of the body may end in a
semicolon (`Table.IsLaidOut`).
-/

namespace SchemaMill.Sql

open Schema

variable {c : Char} {d : Dialect} {x y z : Text} {ls : List Text} {t : Table}

/-! ### The text around the body -/

/-- The rows of a table. -/
def Table.rows (d : Dialect) (t : Table) : List Text :=
  (t.elements.getD []).filterMap (·.render? d)

/-- The text between the parentheses of a table, without the line breaks at its ends. -/
def Table.bodyText (d : Dialect) (t : Table) : Text :=
  joinWith ",\n" ((t.rows d).map ("  ".toList ++ ·))

theorem Table.render_of_elements_eq_none (h : t.elements = none) (hoptions : ∀ u ∈ t.options,
    Settled u.value) (d : Dialect) :
    ∃ tail, Settled tail ∧ t.render d = t.renderHead d ++ tail := by
  refine ⟨if t.options.isEmpty then [] else ' ' :: renderTokens d t.options, ?_, ?_⟩
  · split
    · exact settled_of_unbroken (by simp [Unbroken])
    · exact (settled_of_unbroken (by decide : Unbroken [' '])).append
        (settled_renderTokens hoptions d)
  · rw [render, h]

theorem Table.render_of_elements_isSome (h : t.elements.isSome) (hoptions : ∀ u ∈ t.options,
    Settled u.value) (d : Dialect) :
    ∃ tail, Settled tail ∧ t.render d =
      (t.renderHead d ++ [' ', '(']) ++ '\n' :: (t.bodyText d ++ '\n' :: ')' :: tail) := by
  obtain ⟨es, hes⟩ := Option.isSome_iff_exists.mp h
  refine ⟨if d.hasColumnCharsets then
    if t.options.isEmpty then [] else ' ' :: renderTokens d t.options else [], ?_, ?_⟩
  · split
    · split
      · exact settled_of_unbroken (by simp [Unbroken])
      · exact (settled_of_unbroken (by decide : Unbroken [' '])).append
          (settled_renderTokens hoptions d)
    · exact settled_of_unbroken (by simp [Unbroken])
  · rw [render, hes]
    simp [bodyText, rows, hes]

theorem leavesOpen_of_notMem (h : ';' ∉ x) : LeavesOpen x := fun hlast =>
  h (List.mem_filter.mp (List.mem_of_getLast? hlast)).1

theorem renderRest_append (ps qs : List Part) :
    renderRest d (ps ++ qs) = renderRest d ps ++ renderRest d qs := by
  induction ps with
  | nil => rfl
  | cons p ps ih => simp [renderRest, ih]

theorem renderHead_eq {u : Token} {us : List Token} (h : t.head = u :: us) (d : Dialect) :
    t.renderHead d = renderTokens d t.head ++
      ((if t.name.spaced then [' '] else []) ++ t.name.render d) := by
  simp only [Table.renderHead, renderTokens, h, List.map_cons, List.cons_append, renderParts,
    renderRest_append, renderRest, List.append_assoc, List.append_nil]
  rfl

theorem notMem_renderTokens {us : List Token} (h : ∀ u ∈ us, ';' ∉ u.render d) :
    ';' ∉ renderTokens d us := by
  have hrest {us : List Token} (h : ∀ u ∈ us, ';' ∉ u.render d) :
      ';' ∉ renderRest d (us.map .token) := by
    induction us with
    | nil => simp [renderRest]
    | cons u us ih =>
      obtain ⟨hu, hus⟩ := List.forall_mem_cons.mp h
      have hgap : ';' ∉ if u.spaced then [' '] else [] := by cases u.spaced <;> decide
      exact List.not_mem_append (List.not_mem_append hgap hu) (ih hus)
  cases us with
  | nil => simp [renderTokens, renderParts]
  | cons u us =>
    obtain ⟨hu, hus⟩ := List.forall_mem_cons.mp h
    exact List.not_mem_append hu (hrest hus)

theorem isPlain_of_mem_head (hform : t.WellFormed) : ∀ u ∈ t.head, IsPlain u.word := fun u hu =>
  isPlain_of_mem_headWords (by simpa using List.all_eq_true.mp hform.words u hu)

theorem exists_head (hfits : t.Fits) (hform : t.WellFormed) :
    ∃ u us, t.head = u :: us ∧ u.Fits ∧ IsPlain u.word := by
  obtain ⟨u, us, hhead⟩ : ∃ u us, t.head = u :: us := by
    refine List.exists_cons_of_ne_nil ?_
    intro h
    simpa [h] using hform.create
  have hu : u ∈ t.head := by simp [hhead]
  exact ⟨u, us, hhead, hfits.head u hu, isPlain_of_mem_head hform u hu⟩

theorem exists_renderHead {u : Token} {us : List Token} (h : t.head = u :: us) (d : Dialect) :
    ∃ z, t.renderHead d = u.render d ++ z := by
  rw [renderHead_eq h, h, renderTokens, List.map_cons, renderParts, Part.render, List.append_assoc]
  exact ⟨_, rfl⟩

theorem exists_renderHead_cons (hfits : t.Fits) (hform : t.WellFormed) (d : Dialect) :
    ∃ c w, t.renderHead d = c :: w ∧ isBlank c = false ∧ c ≠ ';' := by
  obtain ⟨u, us, hhead, hu, hplain⟩ := exists_head hfits hform
  obtain ⟨z, hz⟩ := exists_renderHead hhead d
  obtain ⟨c, w, hrender, hc⟩ := exists_render_cons hu.firm hplain.ne_nil d
  have hsemicolon := notMem_render_of_isPlain hplain d ';' (by decide)
  rw [hrender] at hsemicolon hz
  exact ⟨c, w ++ z, hz, hc, fun h => hsemicolon (by simp [h])⟩

/-- The words up to the table name begin a statement. -/
theorem leads_renderHead (hfits : t.Fits) (hform : t.WellFormed) (d : Dialect) :
    Leads (t.renderHead d) := by
  obtain ⟨c, w, hcons, hc, -⟩ := exists_renderHead_cons hfits hform d
  obtain ⟨u, us, hhead, hu, hplain⟩ := exists_head hfits hform
  have hwords := settled_renderTokens (fun v hv => (hfits.head v hv).settled) d
  have hopen : LeavesOpen (renderTokens d t.head ++ if t.name.spaced then [' '] else []) := by
    refine leavesOpen_of_notMem (List.not_mem_append ?_ (by cases t.name.spaced <;> decide))
    exact notMem_renderTokens fun v hv =>
      notMem_render_of_isPlain (isPlain_of_mem_head hform v hv) d ';' (by decide)
  have hname : Steady [] (t.name.render d) ∧ RunsOn [] (t.name.render d) :=
    ⟨hfits.name.steady_render d, hfits.name.runsOn_render d⟩
  refine ⟨⟨c, by rw [hcons]; rfl, hc⟩, ?_, ?_, ?_⟩
  · obtain ⟨z, hz⟩ := exists_renderHead hhead d
    rw [hz]
    exact startsLine_render hu.firm hplain d z
  · rw [renderHead_eq hhead]
    exact hwords.steady.append ((steady_of_unbroken (unbroken_gap _) []).append hname.1)
  · rw [renderHead_eq hhead]
    exact runsOn_append_iff.mpr ⟨hwords.runsOn [], runsOn_append_iff.mpr
      ⟨runsOn_of_unbroken (unbroken_gap _) _, hname.2.behind hopen⟩⟩

/-! ### The body -/

/-- A table with a body in which each line belongs to the statement and none ends it. -/
structure Table.IsLaidOut (d : Dialect) (t : Table) : Prop where
  /-- Between parentheses is a row. -/
  inhabited : t.elements.isSome → t.rows d ≠ []
  /-- No column looks like a comment. -/
  named : ∀ c ∈ t.columns, c.looksLikeComment = false
  /-- No line of the body ends in a semicolon. -/
  closed : ∀ line ∈ lines (t.bodyText d), endsStatement line = false

instance (d : Dialect) (t : Table) : Decidable (t.IsLaidOut d) :=
  decidable_of_iff ((t.elements.isSome → t.rows d ≠ []) ∧
      (∀ c ∈ t.columns, c.looksLikeComment = false) ∧
      ∀ line ∈ lines (t.bodyText d), endsStatement line = false)
    ⟨fun h => ⟨h.1, h.2.1, h.2.2⟩, fun h => ⟨h.inhabited, h.named, h.closed⟩⟩

theorem joinWith_cons_of_ne_nil {sep : Text} (hne : ls ≠ []) (l : Text) :
    joinWith sep (l :: ls) = l ++ sep ++ joinWith sep ls := by
  cases ls with
  | nil => exact absurd rfl hne
  | cons k ls => rfl

theorem steady_body (hsteady : ∀ l ∈ ls, Steady [] l) (hstarts : ∀ l ∈ ls, StartsLine l) :
    Steady [] (joinWith ",\n" ls) ∧ (ls ≠ [] → StartsLine (joinWith ",\n" ls)) := by
  induction ls with
  | nil => exact ⟨steady_of_unbroken (by simp [Unbroken, joinWith]) [], fun h => absurd rfl h⟩
  | cons l ls ih =>
    obtain ⟨hl, hls⟩ := List.forall_mem_cons.mp hsteady
    obtain ⟨hline, hlines⟩ := List.forall_mem_cons.mp hstarts
    by_cases hne : ls = []
    · subst hne
      exact ⟨hl, fun _ => hline⟩
    · obtain ⟨hmore, hfirst⟩ := ih hls hlines
      rw [joinWith_cons_of_ne_nil hne, List.append_assoc]
      refine ⟨hl.append ?_, fun _ => hline.append _⟩
      have hfeed : Steady [] ('\n' :: joinWith ",\n" ls) :=
        steady_cons_iff.mpr ⟨fun _ => rfl, fun _ => (hfirst hne).append [], hmore⟩
      exact (steady_of_unbroken (by decide : Unbroken [',']) []).append hfeed

theorem exists_feed_of_mem {l : Text} (h : l ∈ ls) :
    ∃ x w, '\n' :: joinWith ",\n" ls = x ++ '\n' :: (l ++ w) := by
  induction ls with
  | nil => cases h
  | cons k ls ih =>
    rcases List.mem_cons.mp h with rfl | h
    · rw [joinWith_cons]
      exact ⟨[], _, rfl⟩
    · obtain ⟨x, w, hx⟩ := ih h
      refine ⟨'\n' :: (k ++ ',' :: x), w, ?_⟩
      have hjoin : '\n' :: joinWith ",\n" (k :: ls) =
          '\n' :: (k ++ ',' :: ('\n' :: joinWith ",\n" ls)) := by
        simp [joinWith_cons_of_ne_nil (List.ne_nil_of_mem h)]
      rw [hjoin, hx]
      simp

theorem startsLine_indent_iff : StartsLine ("  ".toList ++ x) ↔ StartsLine x := by
  simp [StartsLine, isBlank]

theorem Table.exists_of_mem_rows {row : Text} (h : row ∈ t.rows d) :
    ∃ es ∈ t.elements, ∃ e ∈ es, e.render? d = some row := by
  obtain ⟨e, he, hrow⟩ := List.mem_filterMap.mp h
  cases helements : t.elements with
  | none => simp [helements] at he
  | some es => exact ⟨es, rfl, e, by simpa [helements] using he, hrow⟩

theorem Table.mem_columns {es : List Element} (hes : t.elements = some es) {e : Element}
    (he : e ∈ es) {col : Column} (hcol : e.column? = some col) : col ∈ t.columns := by
  rw [columns, hes]
  exact List.mem_filterMap.mpr ⟨e, he, hcol⟩

theorem Table.Fits.lined_bodyText (hfits : t.Fits) (d : Dialect) : Lined (t.bodyText d) := by
  refine lined_iff.mpr fun c hc hbreak => ?_
  rcases mem_joinWith hc with hc | ⟨_, hline, hc⟩
  · exact (by decide : ∀ c ∈ ",\n".toList, isLineBreak c → c = '\n') c hc hbreak
  · obtain ⟨row, hrow, rfl⟩ := List.mem_map.mp hline
    obtain ⟨es, hes, e, he, hrender⟩ := Table.exists_of_mem_rows hrow
    rcases List.mem_append.mp hc with hc | hc
    · exact absurd hbreak (by simp [(by decide : Unbroken "  ".toList) c hc])
    · exact ((hfits.elements es hes e he).steady_row hrender).lined c hc hbreak

theorem Table.Fits.steady_bodyText (hfits : t.Fits) (hform : t.WellFormed)
    (hnamed : ∀ c ∈ t.columns, c.looksLikeComment = false) (d : Dialect) :
    Steady [] (t.bodyText d) ∧ (t.rows d ≠ [] → StartsLine (t.bodyText d)) := by
  have hrows : ∀ row ∈ t.rows d, Steady [] row ∧ StartsLine row := by
    intro row hrow
    obtain ⟨es, hes, e, he, hrender⟩ := Table.exists_of_mem_rows hrow
    have hfit := hfits.elements es hes e he
    refine ⟨hfit.steady_row hrender, hfit.startsLine_row (hform.elements es hes e he) ?_ hrender⟩
    exact fun c hc => hnamed c (mem_columns hes he hc)
  have hindent : Steady [] "  ".toList := steady_of_unbroken (by decide) []
  have hsteady : ∀ l ∈ (t.rows d).map ("  ".toList ++ ·), Steady [] l :=
    List.forall_mem_map.mpr fun row hrow => hindent.append (hrows row hrow).1
  have hstarts : ∀ l ∈ (t.rows d).map ("  ".toList ++ ·), StartsLine l :=
    List.forall_mem_map.mpr fun row hrow => startsLine_indent_iff.mpr (hrows row hrow).2
  obtain ⟨hbody, hfirst⟩ := steady_body hsteady hstarts
  exact ⟨hbody, fun hne => hfirst (by simpa using hne)⟩

/-! ### Tables as statements -/

theorem dropTerminator_body (lead body tail : Text) :
    dropTerminator (lead ++ '\n' :: (body ++ '\n' :: ')' :: tail)) =
      lead ++ '\n' :: (body ++ '\n' :: ')' :: dropTerminator tail) := by
  have hassoc (tail : Text) : lead ++ '\n' :: (body ++ '\n' :: ')' :: tail) =
      (lead ++ '\n' :: (body ++ ['\n'])) ++ ')' :: tail := by simp
  rw [hassoc, dropTerminator_append_cons (by decide) (by decide), hassoc]

theorem dropTerminator_render_ne_nil (hfits : t.Fits) (hform : t.WellFormed) (d : Dialect) :
    dropTerminator (t.render d) ≠ [] := by
  obtain ⟨c, w, hcons, hc, hsemicolon⟩ := exists_renderHead_cons hfits hform d
  obtain ⟨z, hz⟩ : ∃ z, t.render d = c :: z := by
    rw [Table.render, hcons]
    split <;> exact ⟨_, rfl⟩
  rw [hz, ← List.nil_append (c :: z), dropTerminator_append_cons hc hsemicolon]
  simp

theorem isStatement_of_isLaidOut (hfits : t.Fits) (hform : t.WellFormed) (h : t.IsLaidOut d) :
    IsStatement (dropTerminator (t.render d) ++ [';']) := by
  have hhead := leads_renderHead hfits hform d
  refine Leads.dropTerminator ?_ (dropTerminator_render_ne_nil hfits hform d)
  cases helements : t.elements with
  | none =>
    obtain ⟨tail, htail, hrender⟩ := Table.render_of_elements_eq_none helements hfits.options d
    rw [hrender]
    exact hhead.append htail
  | some es =>
    have hsome : t.elements.isSome := by simp [helements]
    obtain ⟨tail, htail, hrender⟩ := Table.render_of_elements_isSome hsome hfits.options d
    obtain ⟨hbody, hfirst⟩ := hfits.steady_bodyText hform h.named d
    obtain ⟨hfeeds, hopen⟩ := (forall_not_endsStatement_iff (hfits.lined_bodyText d)).mp h.closed
    have hlead : Leads (t.renderHead d ++ [' ', '(']) :=
      hhead.append (settled_of_unbroken (by decide))
    have hclose : Settled (')' :: tail) :=
      (settled_of_unbroken (by decide : Unbroken [')'])).append htail
    have hparenthesis : LeavesOpen (t.renderHead d ++ [' ', '(']) := by
      simpa using leavesOpen_concat (by decide) (by decide : '(' ≠ ';') (t.renderHead d ++ [' '])
    generalize t.renderHead d ++ [' ', '('] = lead at *
    have hfeed : LeavesOpen (lead ++ ['\n']) := (leavesOpen_feed_iff lead []).mpr (by
      simp [LeavesOpen, lastSign?])
    rw [hrender]
    refine ⟨?_, hlead.starts.append _, ?_, ?_⟩
    · obtain ⟨c, hc, hblank⟩ := hlead.head
      obtain ⟨w, rfl⟩ := List.head?_eq_some_iff.mp hc
      exact ⟨c, rfl, hblank⟩
    · refine hlead.steady.append (steady_cons_iff.mpr ⟨fun _ => rfl, fun _ => ?_, ?_⟩)
      · exact ((hfirst (h.inhabited hsome)).append _).append _
      · refine hbody.append (steady_cons_iff.mpr ⟨fun _ => rfl, fun _ => ?_, hclose.steady⟩)
        simp [StartsLine, isBlank]
    · refine runsOn_append_iff.mpr ⟨hlead.runsOn, runsOn_cons_iff.mpr ⟨fun _ => hparenthesis, ?_⟩⟩
      refine runsOn_append_iff.mpr ⟨RunsOn.behind hfeeds hfeed, runsOn_cons_iff.mpr
        ⟨fun _ => ?_, hclose.runsOn _⟩⟩
      rw [List.append_assoc]
      exact (leavesOpen_feed_iff lead _).mpr hopen

theorem isLaidOut_of_isStatement (hfits : t.Fits)
    (h : IsStatement (dropTerminator (t.render d) ++ [';'])) : t.IsLaidOut d := by
  cases helements : t.elements with
  | none =>
    refine ⟨by simp [helements], by simp [Table.columns, helements], ?_⟩
    simp [Table.bodyText, Table.rows, helements, joinWith, lines]
  | some es =>
    have hsome : t.elements.isSome := by simp [helements]
    obtain ⟨tail, -, hrender⟩ := Table.render_of_elements_isSome hsome hfits.options d
    obtain ⟨-, -, hsteady, hopen⟩ := h.toLeads
    generalize t.renderHead d ++ [' ', '('] = lead at hrender
    rw [hrender, dropTerminator_body, List.append_assoc, List.cons_append, List.append_assoc]
      at hsteady hopen
    refine ⟨fun _ hrows => ?_, fun col hcol => ?_, ?_⟩
    · have hstarts := (steady_cons_iff.mp (steady_append_iff.mp hsteady).2).2.1 rfl
      rw [Table.bodyText, hrows] at hstarts
      exact hstarts.1 rfl
    · rw [Bool.eq_false_iff]
      intro hcomment
      have hrow : "  ".toList ++ col.render d ∈ (t.rows d).map ("  ".toList ++ ·) := by
        refine List.mem_map_of_mem ?_
        obtain ⟨e, he, hcolumn⟩ := List.mem_filterMap.mp hcol
        cases e with
        | constraint c => cases hcolumn
        | column c =>
          cases hcolumn
          exact List.mem_filterMap.mpr ⟨.column col, he, rfl⟩
      obtain ⟨x, w, hx⟩ := exists_feed_of_mem hrow
      rw [← Table.bodyText] at hx
      rw [← List.cons_append, hx, List.append_assoc, ← List.append_assoc lead] at hsteady
      have hstarts := hsteady.starts _ _ rfl
      simp only [List.append_eq, List.append_assoc] at hstarts
      exact Column.not_startsLine_row hcomment d _ (startsLine_indent_iff.mp hstarts)
    · obtain ⟨-, hbehind⟩ := runsOn_cons_iff.mp (runsOn_append_iff.mp hopen).2
      obtain ⟨hbody, hlast⟩ := runsOn_append_iff.mp hbehind
      have hlast := (runsOn_cons_iff.mp hlast).1 rfl
      rw [List.append_assoc] at hlast
      exact (forall_not_endsStatement_iff (hfits.lined_bodyText d)).mpr
        ⟨hbody.alone, (leavesOpen_feed_iff lead _).mp hlast⟩

/-- A table with one semicolon at its end is a statement exactly if its body is laid out. -/
theorem isStatement_render_iff (hfits : t.Fits) (hform : t.WellFormed) :
    IsStatement (dropTerminator (t.render d) ++ [';']) ↔ t.IsLaidOut d :=
  ⟨isLaidOut_of_isStatement hfits, isStatement_of_isLaidOut hfits hform⟩

end SchemaMill.Sql
