import SchemaMill.Proofs.Order.Merge

/-!
# Arranging again

A visit asks of the defined tables only which ones they are, and only of those that it can come to.
So the visit is the same for fewer defined tables, as long as no link leads from a table that is
kept to one that is not (`visit_and_follow_narrowed`, `finalProgress_narrowed`). Two cases matter.
Where all tables are kept, nothing but the order of the definitions has changed. And the tables that
an arrangement emits link only to such tables, so that definitions which it left out, because the
visit did not come to their tables or because a later definition took their place, are not missed by
a second visit.

`arrangeBy_rearranged` puts both together: arrangements are arranged already, and they are told by
the last definition of each table and by the other statements.

An order that is valid already is not only valid afterwards but the same one
(`arrangeBy_of_sorted`). Here the visit is told step by step: when the turn of a table comes, what
it links to is emitted, so that nothing is visited out of its turn (`visitAll_of_sorted`).
-/

namespace SchemaMill.Schema

variable {g : Outline} {kept : Text → Prop} {defined defined' free free' : List Text}

/-! ### Fewer tables -/

/-- The tables of `ts'` are those of `ts` that are kept, in any order. -/
structure Narrows (kept : Text → Prop) (ts ts' : List Text) : Prop where
  nodup : ts.Nodup
  nodup' : ts'.Nodup
  mem_iff : ∀ t, t ∈ ts' ↔ t ∈ ts ∧ kept t

theorem Narrows.erase (h : Narrows kept free free') (table : Text) :
    Narrows kept (free.erase table) (free'.erase table) where
  nodup := h.nodup.erase table
  nodup' := h.nodup'.erase table
  mem_iff t := by
    rw [h.nodup.mem_erase_iff, h.nodup'.mem_erase_iff, h.mem_iff, and_assoc]

/-- No link leads from a table that is kept to one that is not. -/
def Encloses (g : Outline) (defined : List Text) (kept : Text → Prop) : Prop :=
  ∀ t d, kept t → Links g defined t d → kept d

/-- The visit of a table that is kept, and the following of its references, do not miss the defined
tables that are not kept. -/
theorem visit_and_follow_narrowed (hclosed : Encloses g defined kept)
    (hdefined : Narrows kept defined defined') :
    (∀ free table p, ∀ free', Narrows kept free free' → (∀ t ∈ free, t ∈ defined) → kept table →
      visit g defined' free' table p = visit g defined free table p) ∧
    ∀ free table references p, ∀ free', Narrows kept free free' → (∀ t ∈ free, t ∈ defined) →
      kept table → (∀ d ∈ references, d ∈ g.references table) →
      follow g defined' free' table references p = follow g defined free table references p := by
  apply visit.mutual_induct
  case case1 =>
    intro free table p hmem ih free' hfree hknown hkept
    have hmem' : table ∈ free' := (hfree.mem_iff table).mpr ⟨hmem, hkept⟩
    rw [visit, visit, dif_pos hmem, dif_pos hmem',
      ih _ (hfree.erase table) (fun t ht => hknown t (List.mem_of_mem_erase ht)) hkept
        fun _ hd => hd]
  case case2 =>
    intro free table p hmem free' hfree _ _
    have hmem' : table ∉ free' := fun h => hmem ((hfree.mem_iff table).mp h).1
    rw [visit, visit, dif_neg hmem, dif_neg hmem']
  case case3 =>
    intro free table p free' _ _ _ _
    rw [follow, follow]
  case case4 =>
    intro free table d rest p hd ih free' hfree hknown hkept hsub
    rw [follow, follow, if_pos hd, if_pos hd,
      ih _ hfree hknown hkept fun d hd => hsub d (List.mem_cons_of_mem _ hd)]
  case case5 =>
    intro free table d rest p hd hmem ihv ih free' hfree hknown hkept hsub
    have hlink : Links g defined table d :=
      ⟨hsub d List.mem_cons_self, fun e => hd (Or.inl e), hknown d hmem⟩
    have hkeptd : kept d := hclosed table d hkept hlink
    have hmem' : d ∈ free' := (hfree.mem_iff d).mpr ⟨hmem, hkeptd⟩
    rw [follow, follow, if_neg hd, if_neg hd, if_pos hmem, if_pos hmem',
      ihv _ hfree hknown hkeptd,
      ih _ hfree hknown hkept fun d hd => hsub d (List.mem_cons_of_mem _ hd)]
  case case6 =>
    intro free table d rest p hd hmem _ ih free' hfree hknown hkept hsub
    have hmem' : d ∉ free' := fun h => hmem ((hfree.mem_iff d).mp h).1
    -- the reference is noted as the same issue: if its table is defined, it is kept
    have hnoted : d ∈ defined' ↔ d ∈ defined := by
      rw [hdefined.mem_iff]
      refine and_iff_left_of_imp fun h => hclosed table d hkept ?_
      exact ⟨hsub d List.mem_cons_self, fun e => hd (Or.inl e), h⟩
    rw [follow, follow, if_neg hd, if_neg hd, if_neg hmem, if_neg hmem']
    simp only [hnoted]
    exact ih _ hfree hknown hkept fun d hd => hsub d (List.mem_cons_of_mem _ hd)

theorem visitAll_narrowed (hclosed : Encloses g defined kept)
    (hdefined : Narrows kept defined defined') {tables : List Text}
    (hkept : ∀ t ∈ tables, t ∈ defined → kept t) (p : Progress) :
    visitAll g defined' tables p = visitAll g defined tables p := by
  induction tables generalizing p with
  | nil => rfl
  | cons table rest ih =>
    obtain ⟨htable, hrest⟩ := List.forall_mem_cons.mp hkept
    have hvisit : visit g defined' defined' table p = visit g defined defined table p := by
      by_cases hmem : table ∈ defined
      · exact (visit_and_follow_narrowed hclosed hdefined).1 _ _ _ _ hdefined (fun _ ht => ht)
          (htable hmem)
      · have hmem' : table ∉ defined' := fun h => hmem ((hdefined.mem_iff table).mp h).1
        rw [visit, visit, dif_neg hmem, dif_neg hmem']
    rw [visitAll, visitAll, hvisit, ih hrest]

/-! ### The same definitions -/

variable {statements statements' : List Statement}

theorem mem_definedTables_iff_isSome {t : Text} :
    t ∈ definedTables statements ↔ (definition? statements t).isSome := by
  rw [mem_definedTables, definition?, List.find?_isSome]
  simp

theorem definition?_eq_none {t : Text} (h : t ∉ definedTables statements) :
    definition? statements t = none :=
  Option.not_isSome_iff_eq_none.mp (mt mem_definedTables_iff_isSome.mpr h)

/-- The visit behind an arrangement does not miss definitions of tables that it does not come to. -/
theorem finalProgress_narrowed (kept : Text → Prop)
    (hclosed : Encloses g (definedTables statements) kept)
    (hkept : ∀ t ∈ g.names, t ∈ definedTables statements → kept t)
    (hmem : ∀ t, t ∈ definedTables statements' ↔ t ∈ definedTables statements ∧ kept t) :
    finalProgress statements' g = finalProgress statements g :=
  visitAll_narrowed hclosed ⟨nodup_definedTables _, nodup_definedTables _, hmem⟩ hkept {}

theorem arrangeBy_eq (statements : List Statement) (g : Outline) :
    arrangeBy statements g =
      ⟨(finalProgress statements g).emitted.filterMap (definition? statements) ++
        statements.filter (·.table.isNone), (finalProgress statements g).issues⟩ :=
  rfl

/-- An arrangement is told by its visit, by the definitions of the tables that are emitted, and by
the other statements. -/
theorem arrangeBy_congr (hprogress : finalProgress statements' g = finalProgress statements g)
    (hdefinitions : ∀ t ∈ (finalProgress statements g).emitted,
      definition? statements' t = definition? statements t)
    (hothers : statements'.filter (·.table.isNone) = statements.filter (·.table.isNone)) :
    arrangeBy statements' g = arrangeBy statements g := by
  rw [arrangeBy_eq, arrangeBy_eq, hprogress, hothers, List.filterMap_congr hdefinitions]

/-! ### Arrangements of arrangements -/

theorem isSome_table_of_mem_definitions {tables : List Text} {s : Statement}
    (hs : s ∈ tables.filterMap (definition? statements)) : s.table.isSome := by
  obtain ⟨t, -, hst⟩ := List.mem_filterMap.mp hs
  rw [table_of_definition? hst, Option.isSome_some]

theorem others_arrangeBy (statements : List Statement) (g : Outline) :
    (arrangeBy statements g).statements.filter (·.table.isNone) =
      statements.filter (·.table.isNone) := by
  have hnone : ((finalProgress statements g).emitted.filterMap (definition? statements)).filter
      (·.table.isNone) = [] := by
    refine List.filter_eq_nil_iff.mpr fun s hs => ?_
    rw [Option.isNone_iff_eq_none, ← Option.not_isSome_iff_eq_none, not_not]
    exact isSome_table_of_mem_definitions hs
  rw [arrangeBy_eq, List.filter_append, hnone, List.nil_append, List.filter_filter]
  simp

theorem definition?_arrangeBy {t : Text} (ht : t ∈ (finalProgress statements g).emitted) :
    definition? (arrangeBy statements g).statements t = definition? statements t := by
  have hvalid := finalProgress_valid statements g
  obtain ⟨s, hs⟩ := exists_definition? (hvalid.unopened t ht)
  have hothers : (statements.filter (·.table.isNone)).filter (·.table == some t) = [] := by
    rw [List.filter_filter, List.filter_eq_nil_iff]
    intro s' _
    cases s'.table <;> simp
  have honly : (arrangeBy statements g).statements.filter (·.table == some t) = [s] := by
    rw [arrangeBy_eq, List.filter_append, hothers, List.append_nil]
    exact filter_definitions hvalid.nodup hvalid.unopened ht hs
  rw [hs, definition?, ← List.head?_filter, List.filter_reverse, honly]
  rfl

theorem arrangeBy_arrangeBy (statements : List Statement) (g : Outline) :
    arrangeBy (arrangeBy statements g).statements g = arrangeBy statements g := by
  have hvalid := finalProgress_valid statements g
  have hprogress : finalProgress (arrangeBy statements g).statements g =
      finalProgress statements g := by
    refine finalProgress_narrowed (· ∈ (finalProgress statements g).emitted) ?_ ?_ ?_
    · intro t d ht hlink
      exact (hvalid.closed t ht d hlink).resolve_right fun hfree => hfree hlink.2.2
    · exact fun t hname hdefined => mem_emitted_finalProgress hname hdefined
    · intro t
      have htables : t ∈ definedTables (arrangeBy statements g).statements ↔
          t ∈ (arrangeBy statements g).tables := by
        rw [mem_definedTables, Arrangement.tables, List.mem_filterMap]
      rw [htables, tables_arrangeBy]
      exact ⟨fun ht => ⟨hvalid.unopened t ht, ht⟩, And.right⟩
  exact arrangeBy_congr hprogress (fun t ht => definition?_arrangeBy ht)
    (others_arrangeBy statements g)

/-- Whatever tables are registered, in whatever order and with whatever references, an arrangement
that is arranged again stays as it is, with the same issues. Statements of which the last definition
of each table is the same, and those that define no table in the same order, have the same
arrangement. -/
theorem arrangeBy_rearranged (g : Outline) :
    (∀ statements, arrangeBy (arrangeBy statements g).statements g = arrangeBy statements g) ∧
    ∀ statements statements' : List Statement,
      (∀ t s, IsLastDefinition statements t s ↔ IsLastDefinition statements' t s) →
      statements.filter (·.table.isNone) = statements'.filter (·.table.isNone) →
      arrangeBy statements g = arrangeBy statements' g := by
  refine ⟨fun statements => arrangeBy_arrangeBy statements g, fun statements statements' hlast
    hothers => ?_⟩
  have hdefinition : ∀ t, definition? statements t = definition? statements' t := fun t => by
    refine Option.ext fun s => ?_
    rw [← isLastDefinition_iff, ← isLastDefinition_iff, hlast]
  have hprogress : finalProgress statements g = finalProgress statements' g := by
    refine finalProgress_narrowed (fun _ => True) (fun _ _ _ _ => trivial)
      (fun _ _ _ => trivial) fun t => ?_
    rw [and_true, mem_definedTables_iff_isSome, mem_definedTables_iff_isSome, hdefinition]
  exact arrangeBy_congr hprogress (fun t _ => hdefinition t) hothers

/-- Two tables that reference each other, of which the second is not registered. The first also
references itself and a table that is not defined. -/
def halfOutline : Outline :=
  ⟨["a".toList, "c".toList], fun t =>
    if t = "a".toList then ["a".toList, "b".toList, "x".toList] else
    if t = "b".toList then ["a".toList] else []⟩

/-- The first of the tables is defined twice, and so is a table that no table references. -/
def halfStatements : List Statement :=
  [⟨"CREATE TABLE a (n INT)", some "a".toList⟩, ⟨"SET @n = 1;", none⟩,
    ⟨"CREATE TABLE z (n INT)", some "z".toList⟩, ⟨"CREATE TABLE b", some "b".toList⟩,
    ⟨"SET @m = 2;", none⟩, ⟨"CREATE TABLE a", some "a".toList⟩,
    ⟨"CREATE TABLE z", some "z".toList⟩]

/-- The same definitions that count, in another order. -/
def otherHalfStatements : List Statement :=
  [⟨"CREATE TABLE z", some "z".toList⟩, ⟨"CREATE TABLE a", some "a".toList⟩,
    ⟨"SET @n = 1;", none⟩, ⟨"SET @m = 2;", none⟩, ⟨"CREATE TABLE b", some "b".toList⟩]

/-- Both have the arrangement that leaves the table out which is not come to, and this arrangement
is its own. -/
theorem arrangeBy_rearranged_halfStatements :
    arrangeBy halfStatements halfOutline = arrangeBy otherHalfStatements halfOutline ∧
    arrangeBy otherHalfStatements halfOutline =
      ⟨[⟨"CREATE TABLE b", some "b".toList⟩, ⟨"CREATE TABLE a", some "a".toList⟩,
        ⟨"SET @n = 1;", none⟩, ⟨"SET @m = 2;", none⟩],
        [.cycle "b".toList "a".toList, .undefined "a".toList "x".toList]⟩ ∧
    arrangeBy (arrangeBy halfStatements halfOutline).statements halfOutline =
      arrangeBy halfStatements halfOutline := by
  obtain ⟨hagain, hsame⟩ := arrangeBy_rearranged halfOutline
  refine ⟨hsame _ _ (fun t s => ?_) (by decide), by cbv, hagain halfStatements⟩
  have hdefinition : definition? halfStatements t = definition? otherHalfStatements t := by
    have hdefined : ∀ t ∈ definedTables halfStatements,
        definition? halfStatements t = definition? otherHalfStatements t := by decide
    have hsubset : definedTables otherHalfStatements ⊆ definedTables halfStatements := by decide
    by_cases ht : t ∈ definedTables halfStatements
    · exact hdefined t ht
    · rw [definition?_eq_none ht, definition?_eq_none fun h => ht (hsubset h)]
  rw [isLastDefinition_iff, isLastDefinition_iff, hdefinition]

/-! ### Orders that are valid already -/

section Sorted

variable {names before rest references : List Text} {table : Text} {p : Progress}

/-- Where each table that `table` links to is emitted, its references are passed over, or noted
because they go to tables that are not defined. -/
theorem follow_of_emitted (hfree : ∀ t ∈ free, t ∈ defined)
    (hlinked : ∀ d ∈ references, d ≠ table → d ∈ defined → d ∈ p.emitted) :
    (follow g defined free table references p).emitted = p.emitted ∧
    (follow g defined free table references p).issues.filterMap Issue.cycle? =
      p.issues.filterMap Issue.cycle? := by
  induction references generalizing p with
  | nil =>
    rw [follow]
    exact ⟨rfl, rfl⟩
  | cons d rest ih =>
    obtain ⟨hd, hrest⟩ := List.forall_mem_cons.mp hlinked
    by_cases hpass : d = table ∨ d ∈ p.emitted
    · rw [follow, if_pos hpass]
      exact ih hrest
    · have hundefined : d ∉ defined := fun hdef =>
        hpass (Or.inr (hd (fun e => hpass (Or.inl e)) hdef))
      have hnotFree : d ∉ free := fun hmem => hundefined (hfree d hmem)
      rw [follow, if_neg hpass, if_neg hnotFree, if_neg hundefined]
      obtain ⟨hemitted, hissues⟩ :=
        ih (p := { p with issues := p.issues ++ [.undefined table d] }) hrest
      refine ⟨hemitted, hissues.trans ?_⟩
      rw [List.filterMap_append]
      exact List.append_nil _

/-- So the visit of a table emits that table and no other, and meets no cycle. -/
theorem visit_of_emitted (hmem : table ∈ defined)
    (hlinked : ∀ d, Links g defined table d → d ∈ p.emitted) :
    (visit g defined defined table p).emitted = p.emitted ++ [table] ∧
    (visit g defined defined table p).issues.filterMap Issue.cycle? =
      p.issues.filterMap Issue.cycle? := by
  have hfree : ∀ t ∈ defined.erase table, t ∈ defined := fun t ht => List.mem_of_mem_erase ht
  have hreferences : ∀ d ∈ g.references table, d ≠ table → d ∈ defined → d ∈ p.emitted :=
    fun d hd hne hdef => hlinked d ⟨hd, hne, hdef⟩
  obtain ⟨hemitted, hissues⟩ := follow_of_emitted (g := g) hfree hreferences
  rw [visit, dif_pos hmem]
  exact ⟨congrArg (· ++ [table]) hemitted, hissues⟩

/-- The visits of all names, from the ones in `rest` on: those in `before` that are defined are
emitted, in their order, and so what the next table links to is emitted when its turn comes. -/
theorem visitAll_of_sorted (hnodup : (before ++ rest).Nodup)
    (hsorted : ∀ earlier t later, before ++ rest = earlier ++ t :: later → t ∈ defined →
      ∀ d, Links g defined t d → d ∈ earlier)
    (hp : p.emitted = before.filter (· ∈ defined)) :
    (visitAll g defined rest p).emitted = (before ++ rest).filter (· ∈ defined) ∧
    (visitAll g defined rest p).issues.filterMap Issue.cycle? =
      p.issues.filterMap Issue.cycle? := by
  induction rest generalizing before p with
  | nil =>
    rw [visitAll, List.append_nil]
    exact ⟨hp, rfl⟩
  | cons t rest ih =>
    have hnew : t ∉ p.emitted := fun hmem => by
      rw [hp] at hmem
      exact (List.nodup_append.mp hnodup).2.2 t (List.mem_filter.mp hmem).1 t List.mem_cons_self rfl
    have hshift : before ++ t :: rest = (before ++ [t]) ++ rest := by simp
    have hlinked : t ∈ defined → ∀ d, Links g defined t d → d ∈ p.emitted := fun hmem d hlink => by
      rw [hp]
      exact List.mem_filter.mpr
        ⟨hsorted before t rest rfl hmem d hlink, decide_eq_true hlink.2.2⟩
    rw [visitAll, if_neg hnew, hshift]
    rw [hshift] at hnodup hsorted
    by_cases hmem : t ∈ defined
    · obtain ⟨hemitted, hissues⟩ := visit_of_emitted hmem (hlinked hmem)
      obtain ⟨hall, hcycles⟩ := ih hnodup hsorted (p := visit g defined defined t p) (by
        rw [hemitted, hp, List.filter_append]
        simp [hmem])
      exact ⟨hall, hcycles.trans hissues⟩
    · have hskip : visit g defined defined t p = p := by rw [visit, dif_neg hmem]
      rw [hskip]
      exact ih hnodup hsorted (by rw [hp, List.filter_append]; simp [hmem])

end Sorted

/-- An arrangement leaves an order alone that is valid already: where every table that a statement
defines is registered, and behind all other defined tables that it references, the definitions come
out in the order of registration, none is missing, and no reference is reported. A table may
reference itself and tables that are not defined. -/
theorem arrangeBy_of_sorted (statements : List Statement) (g : Outline) (hnames : g.names.Nodup)
    (hregistered : ∀ s ∈ statements, ∀ t, s.table = some t → t ∈ g.names)
    (hsorted : ∀ t ∈ g.names, (∃ s ∈ statements, s.table = some t) →
      ∀ d ∈ g.references t, d ≠ t → (∃ s ∈ statements, s.table = some d) →
        g.names.idxOf d < g.names.idxOf t) :
    (arrangeBy statements g).statements =
      g.names.filterMap (definition? statements) ++ statements.filter (·.table.isNone) ∧
    (arrangeBy statements g).tables =
      g.names.filter (fun t => ∃ s ∈ statements, s.table = some t) ∧
    (∀ t, (∃ s ∈ statements, s.table = some t) → t ∈ (arrangeBy statements g).tables) ∧
    (arrangeBy statements g).unresolved = [] := by
  have hnodup : ([] ++ g.names).Nodup := hnames
  have hbefore : ∀ earlier t later, [] ++ g.names = earlier ++ t :: later →
      t ∈ definedTables statements →
      ∀ d, Links g (definedTables statements) t d → d ∈ earlier := by
    intro earlier t later hsplit ht d ⟨hd, hne, hdef⟩
    rw [List.nil_append] at hsplit
    have hnew : t ∉ earlier := fun hmem =>
      (List.nodup_append.mp (hsplit ▸ hnames)).2.2 t hmem t List.mem_cons_self rfl
    have hname : t ∈ g.names := by rw [hsplit]; simp
    exact (mem_before_iff hsplit hnew).mpr
      (hsorted t hname (mem_definedTables.mp ht) d hd hne (mem_definedTables.mp hdef))
  obtain ⟨hemitted, hcycles⟩ := visitAll_of_sorted (p := {}) hnodup hbefore rfl
  have htables : (arrangeBy statements g).tables =
      g.names.filter (fun t => ∃ s ∈ statements, s.table = some t) := by
    rw [tables_arrangeBy, finalProgress, hemitted, List.nil_append]
    exact List.filter_congr fun t _ => decide_eq_decide.mpr mem_definedTables
  refine ⟨?_, htables, fun t ⟨s, hs, ht⟩ => ?_, hcycles⟩
  · have hdefined : (g.names.filter (· ∈ definedTables statements)).filterMap
        (definition? statements) = g.names.filterMap (definition? statements) := by
      rw [List.filterMap_filter]
      refine List.filterMap_congr fun t _ => ?_
      split
      · rfl
      · next h => rw [definition?_eq_none (by simpa using h)]
    rw [arrangeBy_eq, finalProgress, hemitted, List.nil_append, hdefined]
  · rw [htables, List.mem_filter]
    exact ⟨hregistered s hs t ht, decide_eq_true ⟨s, hs, ht⟩⟩

/-- Four tables in a valid order. The first references itself and a table that is not defined, the
second is registered without a definition. -/
def sortedOutline : Outline :=
  ⟨["a".toList, "b".toList, "c".toList, "d".toList], fun t =>
    if t = "a".toList then ["a".toList, "x".toList] else
    if t = "b".toList then ["d".toList] else
    if t = "c".toList then ["b".toList, "a".toList] else
    if t = "d".toList then ["c".toList, "d".toList, "a".toList] else []⟩

/-- Definitions of three of the tables, of which one is defined twice. -/
def sortedStatements : List Statement :=
  [⟨"CREATE TABLE d", some "d".toList⟩, ⟨"CREATE TABLE a (n INT)", some "a".toList⟩,
    ⟨"SET @n = 1;", none⟩, ⟨"CREATE TABLE c", some "c".toList⟩,
    ⟨"CREATE TABLE a", some "a".toList⟩]

theorem arrangeBy_of_sorted_sortedStatements :
    (arrangeBy sortedStatements sortedOutline).statements =
      [⟨"CREATE TABLE a", some "a".toList⟩, ⟨"CREATE TABLE c", some "c".toList⟩,
        ⟨"CREATE TABLE d", some "d".toList⟩, ⟨"SET @n = 1;", none⟩] ∧
    (arrangeBy sortedStatements sortedOutline).unresolved = [] := by
  obtain ⟨hstatements, -, -, hnone⟩ :=
    arrangeBy_of_sorted sortedStatements sortedOutline (by decide) (by decide) (by decide)
  exact ⟨hstatements.trans (by decide), hnone⟩

end SchemaMill.Schema
