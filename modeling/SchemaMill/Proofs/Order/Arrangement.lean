import SchemaMill.Proofs.Order.Visit

/-!
# What an arrangement says about its references

`arrange` puts the definition of each emitted table at the place where the visit emitted it, so that
what holds of the visit (`Progress.Valid`) holds of the statements.

`mem_unresolved_arrange`: a reference to another defined table is reported exactly if its table
comes later. `unresolved_arrange_eq_nil_iff`: some reference is reported exactly if the references
make a cycle.
-/

namespace SchemaMill.Schema

open Relation

/-! ### The definitions among statements -/

variable {statements : List Statement} {t d : Text} {s : Statement}

theorem mem_definedTables : t ∈ definedTables statements ↔ ∃ s ∈ statements, s.table = some t := by
  rw [definedTables, Sql.mem_firstOccurrences, List.mem_filterMap]

theorem nodup_definedTables (statements : List Statement) : (definedTables statements).Nodup :=
  Sql.nodup_firstOccurrences _

theorem table_of_definition? (h : definition? statements t = some s) : s.table = some t := by
  have hs := List.find?_some h
  exact beq_iff_eq.mp hs

theorem exists_definition? (h : t ∈ definedTables statements) :
    ∃ s, definition? statements t = some s := by
  obtain ⟨s, hs, ht⟩ := mem_definedTables.mp h
  exact Option.isSome_iff_exists.mp
    (List.find?_isSome.mpr ⟨s, List.mem_reverse.mpr hs, beq_iff_eq.mpr ht⟩)

theorem filterMap_table_definitions {tables : List Text}
    (h : ∀ t ∈ tables, t ∈ definedTables statements) :
    (tables.filterMap (definition? statements)).filterMap (·.table) = tables := by
  induction tables with
  | nil => rfl
  | cons t rest ih =>
    obtain ⟨s, hs⟩ := exists_definition? (h t (List.mem_cons_self ..))
    rw [List.filterMap_cons_some hs, List.filterMap_cons_some (table_of_definition? hs),
      ih fun t ht => h t (List.mem_cons_of_mem _ ht)]

theorem filterMap_table_isNone (statements : List Statement) :
    (statements.filter (·.table.isNone)).filterMap (·.table) = [] := by
  refine List.filterMap_eq_nil_iff.mpr fun s hs => ?_
  exact Option.isNone_iff_eq_none.mp (List.mem_filter.mp hs).2

/-! ### The visit behind an arrangement -/

variable {r : Registry}

/-- The visit that orders statements. -/
def finalProgress (statements : List Statement) (g : Outline) : Progress :=
  visitAll g (definedTables statements) g.names {}

theorem finalProgress_valid (statements : List Statement) (g : Outline) :
    (finalProgress statements g).Valid g (definedTables statements) (definedTables statements) :=
  (visitAll_valid (nodup_definedTables statements) g.names (Progress.Valid.empty _ _ _)).1

theorem mem_emitted_finalProgress {g : Outline} (hr : t ∈ g.names)
    (hd : t ∈ definedTables statements) : t ∈ (finalProgress statements g).emitted :=
  (visitAll_valid (nodup_definedTables statements) g.names (Progress.Valid.empty _ _ _)).2.2 t hr hd

/-- The tables that an arrangement defines, in the order of their definitions. -/
def Arrangement.tables (a : Arrangement) : List Text := a.statements.filterMap (·.table)

theorem tables_arrangeBy (statements : List Statement) (g : Outline) :
    (arrangeBy statements g).tables = (finalProgress statements g).emitted := by
  have hdef := filterMap_table_definitions (finalProgress_valid statements g).unopened
  change ((finalProgress statements g).emitted.filterMap (definition? statements) ++
    statements.filter (·.table.isNone)).filterMap (·.table) = _
  rw [List.filterMap_append, hdef, filterMap_table_isNone, List.append_nil]

theorem tables_arrange (statements : List Statement) (r : Registry) :
    (arrange statements r).tables = (finalProgress statements r.outline).emitted :=
  tables_arrangeBy statements r.outline

theorem nodup_tables_arrange (statements : List Statement) (r : Registry) :
    (arrange statements r).tables.Nodup := by
  rw [tables_arrange]
  exact (finalProgress_valid statements r.outline).nodup

theorem mem_tables_arrange (hr : t ∈ r.names) (hd : ∃ s ∈ statements, s.table = some t) :
    t ∈ (arrange statements r).tables := by
  rw [tables_arrange]
  exact mem_emitted_finalProgress hr (mem_definedTables.mpr hd)

/-- A table of an arrangement references another one that a statement defines. -/
def Refers (statements : List Statement) (r : Registry) (t d : Text) : Prop :=
  t ∈ (arrange statements r).tables ∧ d ∈ r.references t ∧ d ≠ t ∧
    ∃ s ∈ statements, s.table = some d

theorem refers_iff : Refers statements r t d ↔
    t ∈ (arrange statements r).tables ∧ Links r.outline (definedTables statements) t d := by
  unfold Refers Links
  rw [mem_definedTables]
  rfl

theorem Refers.mem (h : Refers statements r t d) : d ∈ (arrange statements r).tables := by
  obtain ⟨ht, hl⟩ := refers_iff.mp h
  rw [tables_arrange] at ht ⊢
  have hclosed := (finalProgress_valid statements r.outline).closed t ht d hl
  exact hclosed.resolve_right fun hf => hf hl.2.2

theorem mem_unresolved {a : Arrangement} : (t, d) ∈ a.unresolved ↔ .cycle t d ∈ a.issues := by
  constructor
  · intro h
    obtain ⟨i, hi, he⟩ := List.mem_filterMap.mp h
    cases i with
    | cycle t' d' =>
      obtain ⟨rfl, rfl⟩ := Prod.mk.inj (Option.some.inj he)
      exact hi
    | undefined t' d' => cases he
  · exact fun h => List.mem_filterMap.mpr ⟨_, h, rfl⟩

/-- What is known about a reported reference: its table is in the arrangement, and the referenced
table leads back to it. -/
theorem refers_of_mem_unresolved (h : (t, d) ∈ (arrange statements r).unresolved) :
    Refers statements r t d ∧ ReflTransGen (Links r.outline (definedTables statements)) d t := by
  have hv := finalProgress_valid statements r.outline
  obtain ⟨t', ht, d', href, he, hne, hb, hr⟩ := hv.noted _ (mem_unresolved.mp h)
  -- a cycle is noted only about a defined table
  have hd : d' ∈ definedTables statements := by
    by_contra hd
    rw [issueOf, if_neg hd] at he
    cases he
  rw [issueOf_of_mem hd] at he
  obtain ⟨rfl, rfl⟩ := Issue.cycle.inj he
  have hemitted : t ∈ (finalProgress statements r.outline).emitted :=
    hb.resolve_right fun hf => hf ht
  exact ⟨refers_iff.mpr ⟨tables_arrange statements r ▸ hemitted, href, hne, hd⟩, hr hd⟩

/-! ### References and places -/

theorem mem_before_iff {tables before after : List Text} (h : tables = before ++ t :: after)
    (ht : t ∉ before) : d ∈ before ↔ tables.idxOf d < tables.idxOf t := by
  have hidx : tables.idxOf t = before.length := by
    rw [h, List.idxOf_append_of_notMem ht, List.idxOf_cons_self, Nat.add_zero]
  rw [hidx, h]
  constructor
  · intro hd
    rw [List.idxOf_append_of_mem hd]
    exact List.idxOf_lt_length_of_mem hd
  · intro hlt
    by_contra hd
    rw [List.idxOf_append_of_notMem hd] at hlt
    omega

theorem mem_unresolved_iff_not_idxOf_lt (h : Refers statements r t d) :
    (t, d) ∈ (arrange statements r).unresolved ↔
      ¬ (arrange statements r).tables.idxOf d < (arrange statements r).tables.idxOf t := by
  obtain ⟨ht, href, hne, hd⟩ := refers_iff.mp h
  obtain ⟨before, after, hsplit⟩ := List.append_of_mem ht
  have hbefore : t ∉ before := fun hm => by
    have hnd := nodup_tables_arrange statements r
    rw [hsplit] at hnd
    exact (List.nodup_append.mp hnd).2.2 t hm t (List.mem_cons_self ..) rfl
  rw [← mem_before_iff hsplit hbefore, mem_unresolved, ← issueOf_of_mem hd]
  rw [tables_arrange] at hsplit
  exact (finalProgress_valid statements r.outline).accounted before t after hsplit d href hne

/-- Each registered table that a statement defines is in the arrangement, once. A reference of such
a table to another one that a statement defines has both ends in the arrangement; it is reported if
and only if the table comes before the one that it references, so that an unreported reference is
honoured by the order. Nothing else is reported. -/
theorem mem_unresolved_arrange (statements : List Statement) (r : Registry) :
    (arrange statements r).tables.Nodup ∧
    (∀ t ∈ r.names, (∃ s ∈ statements, s.table = some t) → t ∈ (arrange statements r).tables) ∧
    (∀ t d, Refers statements r t d →
      d ∈ (arrange statements r).tables ∧
      ((t, d) ∈ (arrange statements r).unresolved ↔
        (arrange statements r).tables.idxOf t < (arrange statements r).tables.idxOf d) ∧
      ((t, d) ∉ (arrange statements r).unresolved →
        (arrange statements r).tables.idxOf d < (arrange statements r).tables.idxOf t)) ∧
    ∀ t d, (t, d) ∈ (arrange statements r).unresolved → Refers statements r t d := by
  refine ⟨nodup_tables_arrange statements r, fun t hr hd => mem_tables_arrange hr hd,
    fun t d h => ⟨h.mem, ?_, ?_⟩, fun t d h => (refers_of_mem_unresolved h).1⟩
  · have hne : (arrange statements r).tables.idxOf t ≠ (arrange statements r).tables.idxOf d :=
      fun e => h.2.2.1 ((List.idxOf_inj h.1).mp e).symm
    rw [mem_unresolved_iff_not_idxOf_lt h]
    omega
  · intro hn
    rw [mem_unresolved_iff_not_idxOf_lt h] at hn
    exact not_not.mp hn

/-- Three tables that reference each other in a ring, and something that defines no table. -/
def ringStatements : List Statement :=
  [⟨"CREATE TABLE a", some "a".toList⟩, ⟨"SET @x = 1;", none⟩, ⟨"CREATE TABLE b", some "b".toList⟩,
    ⟨"CREATE TABLE c", some "c".toList⟩]

/-- The registry of the ring. The first table also references itself and one that is not defined. -/
def ringRegistry : Registry :=
  .ofList [⟨"a", [], ["a".toList, "b".toList, "x".toList]⟩, ⟨"b", [], ["c".toList]⟩,
    ⟨"c", [], ["a".toList]⟩]

theorem tables_arrange_ring :
    (arrange ringStatements ringRegistry).tables = ["c".toList, "b".toList, "a".toList] := by cbv

theorem unresolved_arrange_ring :
    (arrange ringStatements ringRegistry).unresolved = [("c".toList, "a".toList)] := by cbv

/-- The ring is cut open between its last and its first table; the other references are honoured. -/
theorem mem_unresolved_arrange_ring :
    ("c".toList, "a".toList) ∈ (arrange ringStatements ringRegistry).unresolved ∧
    (arrange ringStatements ringRegistry).tables.idxOf "c".toList <
      (arrange ringStatements ringRegistry).tables.idxOf "a".toList ∧
    ("a".toList, "b".toList) ∉ (arrange ringStatements ringRegistry).unresolved ∧
    (arrange ringStatements ringRegistry).tables.idxOf "b".toList <
      (arrange ringStatements ringRegistry).tables.idxOf "a".toList := by
  obtain ⟨-, -, hedges, hreports⟩ := mem_unresolved_arrange ringStatements ringRegistry
  have hca : ("c".toList, "a".toList) ∈ (arrange ringStatements ringRegistry).unresolved := by
    rw [unresolved_arrange_ring]; decide
  have hab : ("a".toList, "b".toList) ∉ (arrange ringStatements ringRegistry).unresolved := by
    rw [unresolved_arrange_ring]; decide
  have hrefers : Refers ringStatements ringRegistry "a".toList "b".toList :=
    ⟨by rw [tables_arrange_ring]; decide, by decide, by decide,
      ⟨"CREATE TABLE b", some "b".toList⟩, by decide, rfl⟩
  exact ⟨hca, (hedges _ _ (hreports _ _ hca)).2.1.mp hca, hab, (hedges _ _ hrefers).2.2 hab⟩

/-! ### References and cycles -/

theorem Refers.of_links (ht : t ∈ (arrange statements r).tables)
    (h : ReflTransGen (Links r.outline (definedTables statements)) t d) :
    ReflTransGen (Refers statements r) t d ∧ d ∈ (arrange statements r).tables := by
  induction h with
  | refl => exact ⟨ReflTransGen.refl, ht⟩
  | @tail b c _ hbc ih =>
    have hstep : Refers statements r b c := refers_iff.mpr ⟨ih.2, hbc⟩
    exact ⟨ih.1.tail hstep, hstep.mem⟩

/-- Along references that are all honoured the tables come earlier and earlier. -/
theorem idxOf_lt_of_transGen (hnone : (arrange statements r).unresolved = [])
    (h : TransGen (Refers statements r) t d) :
    (arrange statements r).tables.idxOf d < (arrange statements r).tables.idxOf t := by
  have hstep : ∀ a b, Refers statements r a b →
      (arrange statements r).tables.idxOf b < (arrange statements r).tables.idxOf a := by
    intro a b hab
    by_contra hn
    have hmem := (mem_unresolved_iff_not_idxOf_lt hab).mpr hn
    rw [hnone] at hmem
    exact List.not_mem_nil hmem
  induction h with
  | single hab => exact hstep _ _ hab
  | tail _ hbc ih => exact Nat.lt_trans (hstep _ _ hbc) ih

theorem transGen_of_mem_unresolved (h : (t, d) ∈ (arrange statements r).unresolved) :
    TransGen (Refers statements r) d t := by
  obtain ⟨hrefers, hlinks⟩ := refers_of_mem_unresolved h
  have hback := (Refers.of_links hrefers.mem hlinks).1
  rcases reflTransGen_iff_eq_or_transGen.mp hback with rfl | hback
  · exact absurd rfl hrefers.2.2.1
  · exact hback

/-- Something is reported if and only if the references make a cycle, and each report closes one. -/
theorem unresolved_arrange_eq_nil_iff (statements : List Statement) (r : Registry) :
    ((arrange statements r).unresolved = [] ↔ ∀ t, ¬ TransGen (Refers statements r) t t) ∧
    ∀ t d, (t, d) ∈ (arrange statements r).unresolved → TransGen (Refers statements r) d t := by
  refine ⟨⟨fun hnone t hcycle => ?_, fun hacyclic => ?_⟩, fun t d h => transGen_of_mem_unresolved h⟩
  · exact Nat.lt_irrefl _ (idxOf_lt_of_transGen hnone hcycle)
  · refine List.eq_nil_iff_forall_not_mem.mpr fun ⟨t, d⟩ h => ?_
    exact hacyclic t ((transGen_of_mem_unresolved h).head (refers_of_mem_unresolved h).1)

theorem unresolved_arrange_ring_cycle :
    TransGen (Refers ringStatements ringRegistry) "a".toList "c".toList ∧
    ¬ ∀ t, ¬ TransGen (Refers ringStatements ringRegistry) t t := by
  obtain ⟨hnil, hback⟩ := unresolved_arrange_eq_nil_iff ringStatements ringRegistry
  refine ⟨hback _ _ (by rw [unresolved_arrange_ring]; decide), fun hacyclic => ?_⟩
  have hnone := hnil.mpr hacyclic
  rw [unresolved_arrange_ring] at hnone
  exact List.cons_ne_nil _ _ hnone

end SchemaMill.Schema
