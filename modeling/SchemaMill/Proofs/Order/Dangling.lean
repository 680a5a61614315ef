import SchemaMill.Proofs.Order.Arrangement

/-!
# References to tables that are never defined

A strict arrangement is refused at the first reference to an undefined table that the visit meets
(`arrangeStrictly_cases`). What the visit meets depends on the order of the tables, on cycles, and
on what was visited before; that a reference dangles does not (`Dangles`). The two agree: a dangling
reference is met whatever comes before it, and an honoured or a cyclic one is never taken for one
(`mem_issues_undefined_iff`). So `arrangeStrictly_eq_error_iff` says when an arrangement is refused
without a word about the visit.
-/

namespace SchemaMill.Schema

variable {statements : List Statement} {r : Registry} {t d : Text}

/-- A registered table that a statement defines references another one that no statement defines. -/
def Dangles (statements : List Statement) (r : Registry) (t d : Text) : Prop :=
  t ∈ r.names ∧ (∃ s ∈ statements, s.table = some t) ∧ d ∈ r.references t ∧ d ≠ t ∧
    ¬∃ s ∈ statements, s.table = some d

theorem mem_names_of_mem_references (h : d ∈ r.references t) : t ∈ r.names := by
  unfold Registry.references at h
  split at h
  · next e he =>
    have hname : e.name = t := by simpa using List.find?_some he
    exact hname ▸ List.mem_map_of_mem (List.mem_of_find?_eq_some he)
  · cases h

/-- The undefined tables that an arrangement notes are those to which references dangle. -/
theorem mem_issues_undefined_iff :
    .undefined t d ∈ (arrange statements r).issues ↔ Dangles statements r t d := by
  have hv := finalProgress_valid statements r.outline
  constructor
  · intro hi
    obtain ⟨t', ht, d', hd, hissue, hne, -, -⟩ := hv.noted _ hi
    have hundefined : d' ∉ definedTables statements := fun hdef => by
      rw [issueOf_of_mem hdef] at hissue
      cases hissue
    rw [issueOf, if_neg hundefined] at hissue
    obtain ⟨rfl, rfl⟩ := Issue.undefined.inj hissue
    exact ⟨mem_names_of_mem_references hd, mem_definedTables.mp ht, hd, hne,
      fun h => hundefined (mem_definedTables.mpr h)⟩
  · rintro ⟨hr, hdefined, hd, hne, hundefined⟩
    rw [← mem_definedTables] at hundefined
    have ht := mem_tables_arrange hr hdefined
    rw [tables_arrange] at ht
    obtain ⟨before, after, hemitted⟩ := List.append_of_mem ht
    -- a table that is not defined is never emitted, so nothing hides the reference to it
    have hbefore : d ∉ before := fun hmem =>
      hundefined (hv.unopened d (by rw [hemitted]; simp [hmem]))
    have hnoted := (hv.accounted before t after hemitted d hd hne).mpr hbefore
    rwa [issueOf, if_neg hundefined] at hnoted

/-! ### Strict arrangements -/

/-- A strict arrangement is refused with a dangling reference, or it is the lenient one and there is
no dangling reference. -/
theorem arrangeStrictly_cases (statements : List Statement) (r : Registry) :
    (∃ e, arrangeStrictly statements r = .error e ∧ Dangles statements r e.table e.dependency) ∨
    arrangeStrictly statements r = .ok (arrange statements r) ∧
      ∀ t d, ¬Dangles statements r t d := by
  simp only [← mem_issues_undefined_iff]
  unfold arrangeStrictly
  dsimp only
  rw [List.span_eq_takeWhile_dropWhile]
  -- what is left after the other issues begins with an undefined table, or there is none
  cases hrest : (arrange statements r).issues.dropWhile (·.undefined?.isNone) with
  | nil =>
    have hnone := List.dropWhile_eq_nil_iff.mp hrest
    exact .inr ⟨rfl, fun t d hi => absurd (hnone _ hi) (by simp [Issue.undefined?])⟩
  | cons i is =>
    have hi : i.undefined?.isNone = false := by
      have hhead := List.head_dropWhile_not (fun i : Issue => i.undefined?.isNone)
        (l := (arrange statements r).issues) (by simp [hrest])
      simpa only [hrest, List.head_cons] using hhead
    have hmem : i ∈ (arrange statements r).issues :=
      (List.dropWhile_sublist _).subset (hrest ▸ List.mem_cons_self)
    cases i with
    | cycle t d => cases hi
    | undefined t d => exact .inl ⟨_, rfl, hmem⟩

theorem exists_arrangeStrictly_eq_ok_iff_not_dangles :
    (∃ a, arrangeStrictly statements r = .ok a) ↔ ∀ t d, ¬Dangles statements r t d := by
  rcases arrangeStrictly_cases statements r with ⟨e, he, hdangles⟩ | ⟨hok, hnone⟩
  · refine ⟨fun ⟨a, ha⟩ => ?_, fun hnone => absurd hdangles (hnone _ _)⟩
    rw [he] at ha
    cases ha
  · exact ⟨fun _ => hnone, fun _ => ⟨_, hok⟩⟩

/-- A strict arrangement is refused if and only if a registered table that a statement defines
references another one that no statement defines, and it is refused with such a reference. One that
is not refused is the lenient arrangement. -/
theorem arrangeStrictly_eq_error_iff (statements : List Statement) (r : Registry) :
    ((∃ e, arrangeStrictly statements r = .error e) ↔
      ∃ t ∈ r.names, (∃ s ∈ statements, s.table = some t) ∧
        ∃ d ∈ r.references t, d ≠ t ∧ ¬∃ s ∈ statements, s.table = some d) ∧
    (∀ e, arrangeStrictly statements r = .error e →
      Dangles statements r e.table e.dependency) ∧
    ∀ a, arrangeStrictly statements r = .ok a → a = arrange statements r := by
  rcases arrangeStrictly_cases statements r with ⟨e, he, hdangles⟩ | ⟨hok, hnone⟩
  · obtain ⟨hr, hdefined, hd, hne, hundefined⟩ := hdangles
    refine ⟨iff_of_true ⟨e, he⟩ ⟨_, hr, hdefined, _, hd, hne, hundefined⟩, fun e' he' => ?_,
      fun a ha => ?_⟩
    · obtain rfl := Except.error.inj (he.symm.trans he')
      exact ⟨hr, hdefined, hd, hne, hundefined⟩
    · rw [he] at ha
      cases ha
  · refine ⟨iff_of_false ?_ ?_, fun e he => ?_,
      fun a ha => (Except.ok.inj (hok.symm.trans ha)).symm⟩
    · rintro ⟨e, he⟩
      rw [hok] at he
      cases he
    · rintro ⟨t, hr, hdefined, d, hd, hne, hundefined⟩
      exact hnone t d ⟨hr, hdefined, hd, hne, hundefined⟩
    · rw [hok] at he
      cases he

/-- The definitions of two tables that make a ring. -/
def openRing : List Statement :=
  [⟨"CREATE TABLE a", some "a".toList⟩, ⟨"CREATE TABLE b", some "b".toList⟩]

/-- The registry of the ring. Behind the reference that closes the ring stands one to a table that
is not defined; so does one of a table that is not defined itself. -/
def openRingRegistry : Registry :=
  .ofList [⟨"a", [], ["b".toList]⟩, ⟨"b", [], ["b".toList, "a".toList, "x".toList]⟩,
    ⟨"c", [], ["y".toList]⟩]

/-- The ring with the table that it misses. -/
def closedRing : List Statement := ⟨"CREATE TABLE x", some "x".toList⟩ :: openRing

/-- The dangling reference is found behind the cycle. With its table there is none: that of a table
which is not defined does not count. -/
theorem arrangeStrictly_eq_error_iff_rings :
    (∃ e, arrangeStrictly openRing openRingRegistry = .error e ∧
      Dangles openRing openRingRegistry e.table e.dependency) ∧
    arrangeStrictly closedRing openRingRegistry = .ok (arrange closedRing openRingRegistry) := by
  obtain ⟨hopen, hnamed, -⟩ := arrangeStrictly_eq_error_iff openRing openRingRegistry
  obtain ⟨hclosed, -, hlenient⟩ := arrangeStrictly_eq_error_iff closedRing openRingRegistry
  obtain ⟨e, he⟩ := hopen.mpr (by decide)
  refine ⟨⟨e, he, hnamed e he⟩, ?_⟩
  cases hstrict : arrangeStrictly closedRing openRingRegistry with
  | error e => exact absurd (hclosed.mp ⟨e, hstrict⟩) (by decide)
  | ok a => rw [hlenient a hstrict]

end SchemaMill.Schema
