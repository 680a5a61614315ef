import SchemaMill.Proofs.Script.Lines

/-!
# The statements of a script

A statement has the form of one (`IsStatement`) if its lines all belong to it and only the last of
them ends it. Every statement that is cut out of a script has this form
(`isStatement_of_mem_statements`), and a text whose lines are those of such statements, apart from
comments and blank lines, is cut into them again (`ofText_of_contentLines`). So the form is that of
the texts which are scripts of themselves alone (`isStatement_iff`).

The form is said of the line feeds of a text (`Steady`, `RunsOn`), with what stands in front of a
piece and behind it as parameters, so that it can be told from the pieces of a text.
-/

namespace SchemaMill.Schema

/-! ### Pieces of a statement -/

/-- Where `z` follows, every line break of a text is a line feed with a line of a statement behind
it. -/
structure Steady (z t : Text) : Prop where
  /-- The line breaks are line feeds. -/
  lined : ∀ c ∈ t, isLineBreak c → c = '\n'
  /-- A line of a statement is behind each line feed. -/
  starts : ∀ a b, t = a ++ '\n' :: b → StartsLine (b ++ z)

/-- Behind `p`, no line feed of a text stands at the end of a statement. -/
def RunsOn (p t : Text) : Prop := ∀ a b, t = a ++ '\n' :: b → LeavesOpen (p ++ a)

variable {p p' t v w x y z : Text} {c : Char}

theorem steady_append_iff : Steady z (x ++ y) ↔ Steady (y ++ z) x ∧ Steady z y := by
  constructor
  · refine fun h => ⟨⟨fun c hc => h.lined c (by simp [hc]), ?_⟩,
      ⟨fun c hc => h.lined c (by simp [hc]), ?_⟩⟩
    · rintro a b rfl
      simpa using h.starts a (b ++ y) (by simp)
    · rintro a b rfl
      exact h.starts (x ++ a) b (by simp)
  · refine fun ⟨hx, hy⟩ => ⟨fun c hc => ?_, fun a b hab => ?_⟩
    · exact (List.mem_append.mp hc).elim (hx.lined c) (hy.lined c)
    · rcases append_eq_append_cons_iff.mp hab with ⟨b, rfl, rfl⟩ | ⟨a, rfl, rfl⟩
      · simpa using hx.starts a b rfl
      · exact hy.starts a b rfl

theorem Steady.before (h : Steady [] t) (z : Text) : Steady z t :=
  ⟨h.lined, fun a b hab => by simpa using (h.starts a b hab).append z⟩

theorem steady_of_unbroken (h : Unbroken t) (z : Text) : Steady z t :=
  ⟨fun c hc hb => absurd hb (by simp [h c hc]), forall_feed_of_unbroken h⟩

theorem Steady.append (hx : Steady [] x) (hy : Steady z y) : Steady z (x ++ y) :=
  steady_append_iff.mpr ⟨hx.before _, hy⟩

/-- What follows a text that ends in no blank does not matter, unless it goes on a minus sign. -/
theorem Steady.replace (h : Steady y t) {c : Char} (hlast : t.getLast? = some c)
    (hc : isBlank c = false) (hz : c = '-' → ∃ d, z.head? = some d ∧ d ≠ '-') : Steady z t := by
  refine ⟨h.lined, ?_⟩
  rintro a b rfl
  have hfeed : c ≠ '\n' := by rintro rfl; exact absurd hc (by decide)
  have hb : b.getLast? = some c := (getLast?_feed hfeed).mp hlast
  refine (h.starts a b rfl).replace ⟨c, List.mem_of_getLast? hb, hc⟩ fun hminus => hz ?_
  exact Option.some.inj (hb.symm.trans hminus)

theorem runsOn_append_iff : RunsOn p (x ++ y) ↔ RunsOn p x ∧ RunsOn (p ++ x) y := by
  constructor
  · refine fun h => ⟨fun a b hab => h a (b ++ y) (by simp [hab]), fun a b hab => ?_⟩
    simpa using h (x ++ a) b (by simp [hab])
  · rintro ⟨hx, hy⟩ a b hab
    rcases append_eq_append_cons_iff.mp hab with ⟨b, rfl, rfl⟩ | ⟨a, rfl, rfl⟩
    · exact hx a b rfl
    · simpa using hy a b rfl

theorem leavesOpen_append_right (h : LeavesOpen (x ++ y)) : LeavesOpen y := fun hy =>
  h (by rw [lastSign?_append, hy]; rfl)

theorem RunsOn.alone (h : RunsOn p t) : RunsOn [] t := fun a b hab =>
  leavesOpen_append_right (h a b hab)

/-- In front of a text that leaves a line open only the text itself matters. -/
theorem RunsOn.behind (h : RunsOn [] t) (hp : LeavesOpen p) : RunsOn p t := by
  intro a b hab
  have ha : LeavesOpen a := h a b hab
  rw [LeavesOpen, lastSign?_append]
  cases ha' : lastSign? a with
  | none => exact hp
  | some c => rw [LeavesOpen, ha'] at ha; simpa using ha

theorem runsOn_of_unbroken (h : Unbroken t) (p : Text) : RunsOn p t := forall_feed_of_unbroken h

theorem steady_cons_iff : Steady z (c :: t) ↔
    (isLineBreak c → c = '\n') ∧ (c = '\n' → StartsLine (t ++ z)) ∧ Steady z t := by
  rw [← List.singleton_append, steady_append_iff, ← and_assoc]
  refine and_congr_left fun _ => ⟨fun h => ⟨fun hc => h.lined c (by simp) hc, ?_⟩, ?_⟩
  · rintro rfl
    exact h.starts [] [] rfl
  · rintro ⟨hlined, hstarts⟩
    refine ⟨by simpa using hlined, fun a b hab => ?_⟩
    rcases List.singleton_eq_append_iff.mp hab with ⟨-, hb⟩ | ⟨-, hb⟩
    · cases hb
      exact hstarts rfl
    · cases hb

theorem runsOn_cons_iff :
    RunsOn p (c :: t) ↔ (c = '\n' → LeavesOpen p) ∧ RunsOn (p ++ [c]) t := by
  rw [← List.singleton_append, runsOn_append_iff]
  refine and_congr_left fun _ => ⟨?_, fun h a b hab => ?_⟩
  · rintro h rfl
    simpa using h [] [] rfl
  · rcases List.singleton_eq_append_iff.mp hab with ⟨rfl, hb⟩ | ⟨-, hb⟩
    · cases hb
      simpa using h rfl
    · cases hb

/-- Of what stands in front of a text only its last sign matters. -/
theorem RunsOn.congr (h : RunsOn p t) (hp : lastSign? p = lastSign? p') : RunsOn p' t := by
  intro a b hab
  have ha := h a b hab
  rwa [LeavesOpen, lastSign?_append, hp, ← lastSign?_append] at ha

/-- A text that can stand behind any other on the lines of a statement. -/
structure Settled (v : Text) : Prop where
  /-- Behind its line feeds are lines of a statement. -/
  steady : Steady [] v
  /-- In front of its line feeds no statement ends. -/
  runsOn : ∀ p, RunsOn p v

theorem settled_of_unbroken (h : Unbroken v) : Settled v :=
  ⟨steady_of_unbroken h [], runsOn_of_unbroken h⟩

theorem Settled.append (hv : Settled v) (hw : Settled w) : Settled (v ++ w) :=
  ⟨hv.steady.append hw.steady, fun p => runsOn_append_iff.mpr ⟨hv.runsOn p, hw.runsOn _⟩⟩

theorem lastSign?_cons_of_solid (hc : isBlank c = false) (t : Text) :
    lastSign? (c :: t) = (lastSign? t).or (some c) := by
  rw [lastSign?_cons]
  simp [lastSign?, hc]

theorem leavesOpen_concat (hc : isBlank c = false) (hsemicolon : c ≠ ';') (t : Text) :
    LeavesOpen (t ++ [c]) := by
  rw [LeavesOpen, lastSign?_append, lastSign?_cons_of_solid hc]
  simpa [lastSign?] using hsemicolon

/-- Of a text that begins with no blank nothing is seen from behind but its own lines. -/
theorem settled_of_head (hhead : ∃ c, v.head? = some c ∧ isBlank c = false) (hsteady : Steady [] v)
    (hopen : RunsOn [] v) : Settled v := by
  refine ⟨hsteady, ?_⟩
  rintro p a b rfl
  have ha : LeavesOpen a := hopen a b rfl
  obtain ⟨c, hhead, hc⟩ := hhead
  cases a with
  | nil =>
    cases hhead
    exact absurd hc (by decide)
  | cons e a =>
    cases hhead
    rw [LeavesOpen, lastSign?_cons_of_solid hc] at ha
    rwa [LeavesOpen, lastSign?_append, lastSign?_cons_of_solid hc, Option.or_assoc, Option.some_or]

/-! ### The form of a statement -/

/-- Lines of which only the last one ends a statement. -/
def IsBlock (b : List Text) : Prop :=
  ∃ more line, b = more ++ [line] ∧ (∀ l ∈ more, endsStatement l = false) ∧ endsStatement line

/-- A text that begins a statement: every line of it belongs to the statement, and no line feed ends
it. -/
structure Leads (s : Text) : Prop where
  /-- No blank stands in front. -/
  head : ∃ c, s.head? = some c ∧ isBlank c = false
  /-- The first line belongs to a statement. -/
  starts : StartsLine s
  /-- So do all others. -/
  steady : Steady [] s
  /-- In front of its line feeds no statement ends. -/
  runsOn : RunsOn [] s

theorem Leads.append (hx : Leads x) (hy : Settled y) : Leads (x ++ y) := by
  obtain ⟨⟨c, hhead, hc⟩, hstarts, hsteady, hopen⟩ := hx
  obtain ⟨w, rfl⟩ := List.head?_eq_some_iff.mp hhead
  exact ⟨⟨c, rfl, hc⟩, hstarts.append y, hsteady.append hy.steady,
    runsOn_append_iff.mpr ⟨hopen, hy.runsOn _⟩⟩

/-- A text of which every line belongs to a statement and only the last one ends it. -/
structure IsStatement (s : Text) : Prop extends Leads s where
  last : s.getLast? = some ';'

namespace IsStatement

variable {s : Text}

theorem lined (h : IsStatement s) : Lined s := lined_iff.mpr h.steady.lined

theorem trim_eq (h : IsStatement s) : trim s = s := by
  obtain ⟨c, hhead, hc⟩ := h.head
  obtain ⟨u, rfl⟩ := List.head?_eq_some_iff.mp hhead
  obtain ⟨v, hv⟩ := List.getLast?_eq_some_iff.mp h.last
  rw [trim, trimLeft, List.dropWhile_cons_of_neg (by simp [hc]), hv]
  exact Sql.trimRight_append_singleton (by decide) v

theorem isContent (h : IsStatement s) : ∀ l ∈ lines s, isContent l :=
  (forall_isContent_iff h.lined h.last (by decide) (by decide)).mpr
    ⟨h.starts, fun a b hab => by simpa using h.steady.starts a b hab⟩

theorem isBlock_lines (h : IsStatement s) : IsBlock (lines s) := by
  have hne : lines s ≠ [] := lines_ne_nil (by rintro rfl; cases h.last)
  have hmore := (forall_dropLast_not_endsStatement_iff h.lined h.last (by decide)).mpr h.runsOn
  refine ⟨(lines s).dropLast, (lines s).getLast hne, (List.dropLast_concat_getLast hne).symm, hmore,
    ?_⟩
  by_contra hline
  -- otherwise no line would end a statement, but the semicolon at the end does
  have hall : ∀ l ∈ lines s, endsStatement l = false := by
    intro l hl
    rw [← List.dropLast_concat_getLast hne] at hl
    rcases List.mem_append.mp hl with hl | hl
    · exact hmore l hl
    · rw [List.mem_singleton.mp hl]
      simpa using hline
  obtain ⟨u, rfl⟩ := List.getLast?_eq_some_iff.mp h.last
  refine ((forall_not_endsStatement_iff h.lined).mp hall).2 ?_
  rw [lastSign?_append]
  rfl

end IsStatement

/-! ### Blocks -/

theorem blocks_append {b : List Text} (h : IsBlock b) (rest : List Text) :
    blocks (b ++ rest) = (b :: (blocks rest).1, (blocks rest).2) := by
  obtain ⟨more, line, rfl, hmore, hline⟩ := h
  induction more with
  | nil => simp [blocks, hline]
  | cons l more ih =>
    obtain ⟨hl, hmore⟩ := List.forall_mem_cons.mp hmore
    rw [List.cons_append, List.cons_append, blocks, if_neg (by simp [hl]), ih hmore]

theorem IsBlock.cons {b : List Text} {l : Text} (hl : endsStatement l = false) (h : IsBlock b) :
    IsBlock (l :: b) := by
  obtain ⟨more, line, rfl, hmore, hline⟩ := h
  exact ⟨l :: more, line, rfl, List.forall_mem_cons.mpr ⟨hl, hmore⟩, hline⟩

theorem isBlock_of_mem_blocks {ls b : List Text} (h : b ∈ (blocks ls).1) :
    IsBlock b ∧ ∀ l ∈ b, l ∈ ls := by
  induction ls generalizing b with
  | nil => simp [blocks] at h
  | cons l ls ih =>
    rw [blocks] at h
    split at h
    · next hl =>
      rcases List.mem_cons.mp h with rfl | h
      · exact ⟨⟨[], l, rfl, by simp, hl⟩, by simp⟩
      · exact ⟨(ih h).1, fun k hk => List.mem_cons_of_mem _ ((ih h).2 k hk)⟩
    · next hl =>
      have hl : endsStatement l = false := by simpa using hl
      split at h
      · simp at h
      · next first others rest heq =>
        rw [heq] at ih
        rcases List.mem_cons.mp h with rfl | h
        · obtain ⟨hfirst, hall⟩ := ih List.mem_cons_self
          exact ⟨hfirst.cons hl, List.forall_mem_cons.mpr
            ⟨List.mem_cons_self, fun k hk => List.mem_cons_of_mem _ (hall k hk)⟩⟩
        · obtain ⟨hb, hall⟩ := ih (List.mem_cons_of_mem _ h)
          exact ⟨hb, fun k hk => List.mem_cons_of_mem _ (hall k hk)⟩

/-- Statements whose lines are those of a script are the statements of the script. -/
theorem ofText_of_contentLines {t : Text} {ss : List Text} (ht : contentLines t = ss.flatMap lines)
    (hss : ∀ s ∈ ss, IsStatement s) : Script.ofText t = ⟨ss, none⟩ := by
  have hblocks : blocks (ss.flatMap lines) = (ss.map lines, []) := by
    clear ht
    induction ss with
    | nil => rfl
    | cons s ss ih =>
      obtain ⟨hs, hss⟩ := List.forall_mem_cons.mp hss
      rw [List.flatMap_cons, blocks_append hs.isBlock_lines, ih hss]
      rfl
  have htext : ∀ s ∈ ss, statementText (lines s) = s := by
    intro s hs
    rw [statementText, joinLines_lines (hss s hs).lined (by simp [(hss s hs).last]),
      (hss s hs).trim_eq]
  simp only [Script.ofText, ht, hblocks, List.map_map]
  congr 1
  exact (List.map_congr_left htext).trans (List.map_id ss)

/-! ### Statements that are cut out -/

theorem lined_joinLines {ls : List Text} (h : ∀ l ∈ ls, Unbroken l) : Lined (joinLines ls) := by
  induction ls with
  | nil => exact .last (by simp [Unbroken, joinLines, joinWith])
  | cons l ls ih =>
    obtain ⟨hl, hls⟩ := List.forall_mem_cons.mp h
    cases ls with
    | nil => exact .last hl
    | cons k ls =>
      have hjoin : joinLines (l :: k :: ls) = l ++ '\n' :: joinLines (k :: ls) := by
        simp [joinLines, joinWith]
      rw [hjoin]
      exact .next hl (ih hls)

theorem lines_joinLines {more : List Text} {line : Text} (h : ∀ l ∈ more ++ [line], Unbroken l)
    (hline : line ≠ []) : lines (joinLines (more ++ [line])) = more ++ [line] := by
  induction more with
  | nil => exact lines_of_unbroken (h line (by simp)) hline
  | cons l more ih =>
    obtain ⟨hl, hmore⟩ := List.forall_mem_cons.mp h
    have hjoin : joinLines (l :: more ++ [line]) = l ++ '\n' :: joinLines (more ++ [line]) := by
      cases more <;> simp [joinLines, joinWith]
    rw [hjoin, lines_append_feed hl, ih hmore]
    rfl

theorem exists_joinLines (more : List Text) (line : Text) :
    ∃ x, joinLines (more ++ [line]) = x ++ line := by
  induction more with
  | nil => exact ⟨[], rfl⟩
  | cons l more ih =>
    obtain ⟨x, hx⟩ := ih
    refine ⟨l ++ '\n' :: x, ?_⟩
    rw [List.append_assoc, List.cons_append, List.cons_append, ← hx]
    cases more <;> simp [joinLines, joinWith]

theorem exists_trim (t : Text) : ∃ lead trail, t = lead ++ (trim t ++ trail) ∧
    (∀ c ∈ lead, isBlank c) ∧ ∀ c ∈ trail, isBlank c := by
  refine ⟨t.takeWhile isBlank, ((trimLeft t).reverse.takeWhile isBlank).reverse, ?_, ?_, ?_⟩
  · rw [trim, trimRight, ← List.reverse_append, List.takeWhile_append_dropWhile,
      List.reverse_reverse, trimLeft, List.takeWhile_append_dropWhile]
  · exact fun c hc => List.mem_takeWhile_imp hc
  · exact fun c hc => List.mem_takeWhile_imp (List.mem_reverse.mp hc)

theorem StartsLine.of_lead {lead : Text} (hlead : ∀ c ∈ lead, isBlank c)
    (h : StartsLine (lead ++ x)) : StartsLine x := by
  induction lead with
  | nil => exact h
  | cons c lead ih =>
    obtain ⟨hc, hlead⟩ := List.forall_mem_cons.mp hlead
    rw [List.cons_append, StartsLine, if_pos hc] at h
    exact ih hlead h.2

theorem isBlank_of_head?_trim {t : Text} {c : Char} (h : (trim t).head? = some c) :
    isBlank c = false := by
  obtain ⟨u, hu⟩ := List.head?_eq_some_iff.mp h
  have hprefix : trim t <+: trimLeft t := trimRight_prefix _
  rw [hu] at hprefix
  obtain ⟨v, hv⟩ := hprefix
  have hhead := List.head?_dropWhile_not isBlank t
  rw [← trimLeft, ← hv] at hhead
  simpa using hhead

theorem isStatement_trim (hsteady : Steady [] t) (hstarts : StartsLine t) (hopen : RunsOn [] t)
    (hsemicolon : (trim t).getLast? = some ';') : IsStatement (trim t) := by
  have hhead (c : Char) (hc : (trim t).head? = some c) : isBlank c = false :=
    isBlank_of_head?_trim hc
  obtain ⟨lead, trail, htrim, hlead, -⟩ := exists_trim t
  generalize trim t = s at *
  subst htrim
  -- a text that ends in the semicolon needs nothing behind it
  have hclosed {b : Text} (hb : b.getLast? = some ';') (h : StartsLine (b ++ trail)) :
      StartsLine b := by
    have hmem := List.mem_of_getLast? hb
    simpa using h.replace (z := []) ⟨';', hmem, by decide⟩ (by simp [hb])
  refine ⟨⟨?_, hclosed hsemicolon (hstarts.of_lead hlead), ⟨?_, ?_⟩, ?_⟩, hsemicolon⟩
  · cases s with
    | nil => cases hsemicolon
    | cons c s => exact ⟨c, rfl, hhead c rfl⟩
  · exact fun c hc => hsteady.lined c (by simp [hc])
  · rintro a b rfl
    rw [List.append_nil]
    refine hclosed ((getLast?_feed (by decide)).mp hsemicolon) ?_
    simpa using hsteady.starts (lead ++ a) (b ++ trail) (by simp)
  · rintro a b rfl
    exact leavesOpen_append_right (hopen (lead ++ a) (b ++ trail) (by simp))

theorem isStatement_of_isBlock {b : List Text} (hb : IsBlock b) (hunbroken : ∀ l ∈ b, Unbroken l)
    (hcontent : ∀ l ∈ b, isContent l) : IsStatement (statementText b) := by
  obtain ⟨more, line, rfl, hmore, hline⟩ := hb
  have hunline : Unbroken line := hunbroken line (by simp)
  -- the last character of the last line is the semicolon or a blank behind it
  obtain ⟨c, hc, hfeed, hminus⟩ : ∃ c, line.getLast? = some c ∧ c ≠ '\n' ∧ c ≠ '-' := by
    have hsign := (endsStatement_iff hunline).mp hline
    cases hlast : line.getLast? with
    | none => rw [List.getLast?_eq_none_iff.mp hlast] at hsign; cases hsign
    | some c =>
      obtain ⟨u, rfl⟩ := List.getLast?_eq_some_iff.mp hlast
      refine ⟨c, rfl, ?_, ?_⟩
      · rintro rfl
        exact absurd (hunline '\n' (by simp)) (by decide)
      · rintro rfl
        rw [lastSign?_append] at hsign
        cases hsign
  obtain ⟨x, hx⟩ := exists_joinLines more line
  have hlast : (joinLines (more ++ [line])).getLast? = some c := by
    rw [hx, List.getLast?_append, hc]
    rfl
  have hlined := lined_joinLines hunbroken
  have hlines := lines_joinLines hunbroken (by rintro rfl; cases hc)
  obtain ⟨hstarts, hsteady⟩ := (forall_isContent_iff hlined hlast hfeed hminus).mp (by rwa [hlines])
  have hopen := (forall_dropLast_not_endsStatement_iff hlined hlast hfeed).mp (by
    rwa [hlines, List.dropLast_concat])
  refine isStatement_trim ⟨lined_iff.mp hlined, by simpa using hsteady⟩ hstarts hopen ?_
  rw [hx, getLast?_trim, Sql.solid_append, List.getLast?_append, ← getLast?_trim,
    beq_iff_eq.mp hline]
  rfl

/-- Every statement of a script has the form of one. -/
theorem isStatement_of_mem_statements {t s : Text} (h : s ∈ (Script.ofText t).statements) :
    IsStatement s := by
  have hmem : s ∈ (blocks (contentLines t)).1.map statementText := by
    rw [Script.ofText] at h
    split at h
    · next heq => rwa [heq]
    · next heq => rwa [heq]
  obtain ⟨b, hb, rfl⟩ := List.mem_map.mp hmem
  obtain ⟨hblock, hall⟩ := isBlock_of_mem_blocks hb
  have hlines : ∀ l ∈ b, l ∈ lines t ∧ isContent l := fun l hl => List.mem_filter.mp (hall l hl)
  exact isStatement_of_isBlock hblock (fun l hl => unbroken_of_mem_lines (hlines l hl).1)
    fun l hl => (hlines l hl).2

/-- The statements are the texts that are scripts of themselves alone. -/
theorem isStatement_iff {s : Text} : IsStatement s ↔ Script.ofText s = ⟨[s], none⟩ := by
  constructor
  · intro h
    refine ofText_of_contentLines ?_ (List.forall_mem_singleton.mpr h)
    rw [contentLines, List.filter_eq_self.mpr h.isContent, List.flatMap_singleton]
  · intro h
    exact isStatement_of_mem_statements (by rw [h]; exact List.mem_singleton_self s)

end SchemaMill.Schema
