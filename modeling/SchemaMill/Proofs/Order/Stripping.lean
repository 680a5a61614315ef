import SchemaMill.Proofs.Order.Success

/-!
# Taking a prefix off table names

A table that is moved to a target depends on the tables of the same names without the prefix, each
once in the order of their first reference (`Target.dependencies_move`). Tables whose names become
the same are merged into the last one of them, which is also the last one of the name that it had
before: so its references are among those that were checked without the prefix, and stripping makes
no reference dangle (`IsClosed.map`). `dependencies_move_and_mergeDumps_strip` puts both together.
-/

namespace SchemaMill.Sql

/-- Repetitions may be dropped before or after a list is mapped. -/
theorem firstOccurrences_map (f : Text → Text) (ts : List Text) :
    firstOccurrences ((firstOccurrences ts).map f) = firstOccurrences (ts.map f) := by
  -- what is dropped before the mapping is dropped after it in any case
  have hfilter : ∀ (t : Text) (us : List Text),
      (firstOccurrences ((us.filter (· != t)).map f)).filter (· != f t) =
        (firstOccurrences (us.map f)).filter (· != f t) := by
    intro t us
    induction us with
    | nil => rfl
    | cons u us ih =>
      by_cases h : u = t
      · subst h
        simp [firstOccurrences, ih]
      · have hkeep : (u :: us).filter (· != t) = u :: us.filter (· != t) := by simp [h]
        rw [hkeep, List.map_cons, List.map_cons, firstOccurrences, firstOccurrences,
          List.filter_cons, List.filter_cons, List.filter_comm, ih, List.filter_comm]
  induction ts with
  | nil => rfl
  | cons t ts ih =>
    rw [firstOccurrences, List.map_cons, List.map_cons, firstOccurrences, firstOccurrences, hfilter,
      ih]

end SchemaMill.Sql

namespace SchemaMill.Schema

/-! ### References -/

theorem name_mapName (f : Text → Text) (p : Sql.Part) :
    ((p.mapName f).name?).map (·.name) = (p.name?.map (·.name)).map f := by
  cases p <;> rfl

theorem Target.references_moveElement (o : Target) (e : Sql.Element) :
    (o.moveElement e).references.map (·.name) =
      (e.references.map (·.name)).map (Target.bareName o.strip) := by
  have hparts : (o.moveElement e).parts = e.parts.map (Sql.Part.mapName (bareName o.strip)) := by
    cases e <;> rfl
  simp only [Sql.Element.references, hparts, List.filterMap_map, List.map_filterMap,
    Function.comp_def, name_mapName]

/-- A moved table depends on the tables of the same names without the prefix. -/
theorem Target.dependencies_move (o : Target) (t : Sql.Table) :
    (o.move t).dependencies =
      Sql.firstOccurrences (t.dependencies.map (Target.bareName o.strip)) := by
  have hreferences : (o.move t).references.map (·.name) =
      (t.references.map (·.name)).map (Target.bareName o.strip) := by
    unfold Sql.Table.references Target.move
    cases t.elements with
    | none => rfl
    | some es => simp [List.map_flatMap, List.flatMap_map, Target.references_moveElement]
  rw [Sql.Table.dependencies, Sql.Table.dependencies, hreferences, Sql.firstOccurrences_map]

/-! ### Names that become the same -/

/-- A change of names, under which the definitions reference what they referenced before, leaves no
reference dangling. -/
theorem IsClosed.map {α : Type} {f : Text → Text} {d d' : α → Definition} {ts : List α}
    (hname : ∀ t, (d' t).name = f (d t).name)
    (hreferences : ∀ t, ∀ u ∈ (d' t).references, ∃ v ∈ (d t).references, f v = u)
    (h : IsClosed (ts.map d)) : IsClosed (ts.map d') := by
  intro name e he u hu
  rw [← List.map_reverse, List.find?_map] at he
  obtain ⟨t, ht, rfl⟩ := Option.map_eq_some_iff.mp he
  obtain ⟨hnamed, later, earlier, hsplit, hlater⟩ := List.find?_eq_some_iff_append.mp ht
  obtain ⟨v, hv, rfl⟩ := hreferences t u hu
  -- a later table of the old name would have the new name too
  have hlast : ((ts.map d).reverse.find? fun e => e.name == (d t).name) = some (d t) := by
    rw [← List.map_reverse, List.find?_map]
    refine Option.map_eq_some_iff.mpr ⟨t, List.find?_eq_some_iff_append.mpr
      ⟨by simp, later, earlier, hsplit, fun s hs => ?_⟩, rfl⟩
    have hnew := hlater s hs
    simp only [Function.comp_apply, hname, Bool.not_eq_true', beq_eq_false_iff_ne] at hnamed hnew ⊢
    intro hsame
    rw [hsame] at hnew
    exact hnew (beq_iff_eq.mp hnamed)
  have hmem := h _ _ hlast v hv
  rw [List.map_map] at hmem ⊢
  obtain ⟨s, hs, hsv⟩ := List.mem_map.mp hmem
  exact List.mem_map.mpr ⟨s, hs, by rw [← hsv, Function.comp_apply, hname]; rfl⟩

/-! ### Merges -/

/-- Options that take a prefix off table names, or leave them. -/
def Options.stripping (o : Options) (strip : Option Text) : Options :=
  { o with target := { o.target with strip } }

/-- A target that takes a prefix off names makes closed definitions of tables of which a target that
leaves names makes closed definitions. -/
theorem IsClosed.strip {o : Options} {texts : List Text} (p : Text)
    (h : IsClosed (definitionsOf (o.stripping none).target texts)) :
    IsClosed (definitionsOf (o.stripping (some p)).target texts) := by
  refine h.map (f := Target.bareName (some p)) (fun t => rfl) fun t u hu => ?_
  have hold : (t.dependencies.map (Target.bareName none)) = t.dependencies := List.map_id _
  have hu' : u ∈ Sql.firstOccurrences (t.dependencies.map (Target.bareName (some p))) :=
    Target.dependencies_move (o.stripping (some p)).target t ▸ hu
  obtain ⟨v, hv, rfl⟩ := List.mem_map.mp (Sql.mem_firstOccurrences.mp hu')
  refine ⟨v, ?_, rfl⟩
  show v ∈ ((o.stripping none).target.move t).dependencies
  rw [Target.dependencies_move]
  exact Sql.mem_firstOccurrences.mpr (hold.symm ▸ hv)

/-- A table that is moved to a target is renamed by taking the prefix off its name, and depends on
what it depended on, renamed in the same way and without repetitions. A merge that succeeds where
names are left as they are succeeds also where a prefix is taken off them, even if names become the
same. -/
theorem dependencies_move_and_mergeDumps_strip (o : Options) (p : Text) :
    (∀ t : Sql.Table,
      ((o.stripping (some p)).target.move t).name.name = Target.bareName (some p) t.name.name ∧
      ((o.stripping (some p)).target.move t).dependencies =
        Sql.firstOccurrences (t.dependencies.map (Target.bareName (some p)))) ∧
    ∀ now texts result, mergeDumps (o.stripping none) now texts = .ok result →
      ∃ result', mergeDumps (o.stripping (some p)) now texts = .ok result' := by
  refine ⟨fun t => ⟨rfl, Target.dependencies_move _ t⟩, fun now texts result h => ?_⟩
  obtain ⟨hsplit, hclosed, hnow⟩ := exists_mergeDumps_eq_ok_iff.mp ⟨result, h⟩
  exact exists_mergeDumps_eq_ok_iff.mpr
    ⟨hsplit, fun hstrict => (hclosed hstrict).strip p, hnow⟩

/-- Two dumps with two tables whose names become the same without a prefix, and a table that
references both. -/
def collapsing : List Text :=
  ["CREATE TABLE wp_a (x INT REFERENCES wp_b(x));\nCREATE TABLE wp_b (x INT);",
    "CREATE TABLE a (y INT REFERENCES a(y));\nCREATE TABLE c (z INT REFERENCES wp_a(x), k INT,\n" ++
      "FOREIGN KEY (k) REFERENCES a (y));"]

/-- The strict merge succeeds with the prefix taken off, as it does without. -/
theorem mergeDumps_strip_collapsing :
    ∃ result result', mergeDumps { strictReferences := true } twoDumpsMoment collapsing =
        .ok result ∧
      mergeDumps { target := { strip := some "wp_" }, strictReferences := true } twoDumpsMoment
        collapsing = .ok result' := by
  have hsplit : ∀ t ∈ collapsing, ∃ split, splitDump false t = .ok split := fun t _ => by
    obtain ⟨notices, hsplit⟩ := exists_splitDump_eq_ok t
    exact ⟨_, hsplit⟩
  have hdefined : ∀ d ∈ definitionsOf {} collapsing, ∀ u ∈ d.references,
      u ∈ (definitionsOf {} collapsing).map Definition.name := by decide +kernel
  obtain ⟨result, h⟩ := exists_mergeDumps_eq_ok_iff (o := { strictReferences := true }).mpr
    ⟨hsplit, fun _ _ d hd => hdefined d (List.mem_reverse.mp (List.mem_of_find?_eq_some hd)),
      _, timestamp?_twoDumpsMoment⟩
  obtain ⟨result', h'⟩ := (dependencies_move_and_mergeDumps_strip { strictReferences := true }
    "wp_".toList).2 twoDumpsMoment collapsing result h
  exact ⟨result, result', h, h'⟩

end SchemaMill.Schema
