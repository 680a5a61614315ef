import SchemaMill.Proofs.Order.Success
import SchemaMill.Proofs.Record.Fields

/-!
# What statements leave in the registry

A statement that no table can be read from is passed on (`Passes`). What any statement gives is told
by the statement alone (`statements_convertStatements_eq`), and only the definitions are registered,
so that a statement which is passed on can be taken away without a trace.

The registry keeps the place of a name at which it was first registered (`names_foldl_register`)
and the last definition of it (`exists_last_definition`). It stands for two maps that are written
one beside the other (`maps_register`), and each registration keeps them in agreement
(`Maps.Agree.register`). The main result is `convertStatements_traceless`.
-/

namespace SchemaMill.Schema

variable {o : Target} {r : Registry} {sql t : Text} {sqls : List Text} {ds : List Definition}

/-! ### Statements that are passed on -/

/-- A statement that does not begin like a table definition, or is one that cannot be read. -/
def Passes (sql : Text) : Prop := isDefinition sql = false ∨ ∃ e, Sql.readTable sql = .error e

theorem tableOf?_eq_none_iff : tableOf? sql = none ↔ Passes sql := by
  unfold tableOf? Passes
  split
  · next h => cases Sql.readTable sql <;> simp [h, Except.toOption]
  · next h => simp [h]

/-- The definition that a target makes of a statement, if it is not passed on. -/
def Target.definition? (o : Target) (sql : Text) : Option Definition :=
  (tableOf? sql).map o.definition

/-- What a target makes of a statement. -/
def Target.output (o : Target) (sql : Text) : Statement :=
  ((tableOf? sql).map o.statement).getD ⟨sql, none⟩

theorem output_of_passes (h : Passes sql) : o.output sql = ⟨sql, none⟩ := by
  rw [Target.output, tableOf?_eq_none_iff.mpr h]
  rfl

theorem definition?_of_passes (h : Passes sql) : o.definition? sql = none := by
  rw [Target.definition?, tableOf?_eq_none_iff.mpr h]
  rfl

theorem table_output (o : Target) (sql : Text) :
    (o.output sql).table = (o.definition? sql).map Definition.name := by
  unfold Target.output Target.definition?
  cases tableOf? sql <;> rfl

theorem statements_convertStatement_eq (o : Target) (r : Registry) (sql : Text) :
    (convertStatement o r sql).statements = [o.output sql] := by
  unfold convertStatement Target.output tableOf?
  split
  · cases Sql.readTable sql <;> rfl
  · rfl

theorem statements_convertStatements_eq (o : Target) (r : Registry) (sqls : List Text) :
    (convertStatements o r sqls).statements = sqls.map o.output := by
  induction sqls generalizing r with
  | nil => rfl
  | cons sql rest ih =>
    show (convertStatement o r sql).statements ++
      (convertStatements o (convertStatement o r sql).registry rest).statements = _
    rw [statements_convertStatement_eq, ih, List.map_cons, List.singleton_append]

theorem registry_convertStatements_eq (o : Target) (r : Registry) (sqls : List Text) :
    (convertStatements o r sqls).registry =
      (sqls.filterMap o.definition?).foldl Registry.register r := by
  rw [(convertStatements_of_tableOf? o r sqls).1, List.map_filterMap]
  rfl

/-- A statement that is passed on is its own output and defines no table, and the others define
one. -/
theorem forall₂_outputs (o : Target) (sqls : List Text) :
    List.Forall₂ (fun sql s => (Passes sql → s = ⟨sql, none⟩) ∧ (¬Passes sql → s.table.isSome))
      sqls (sqls.map o.output) := by
  rw [List.forall₂_map_right_iff, List.forall₂_same]
  refine fun sql _ => ⟨output_of_passes, fun h => ?_⟩
  rw [← tableOf?_eq_none_iff] at h
  rw [table_output, Option.isSome_map, Target.definition?, Option.isSome_map]
  exact Option.isSome_iff_ne_none.mpr h

/-- The tables that the outputs of statements define are those whose definitions are registered. -/
theorem definedTables_outputs (o : Target) (sqls : List Text) :
    definedTables (sqls.map o.output) =
      Sql.firstOccurrences ((sqls.filterMap o.definition?).map Definition.name) := by
  rw [definedTables, List.filterMap_map, List.map_filterMap]
  exact congrArg Sql.firstOccurrences (List.filterMap_congr fun sql _ => table_output o sql)

/-- Of marked statements those without the mark are taken away: if they are all passed on, the
others have the same definitions among them. -/
theorem filterMap_definition?_marked {marked : List (Text × Bool)}
    (h : ∀ m ∈ marked, m.2 = false → Passes m.1) :
    ((marked.filter Prod.snd).map Prod.fst).filterMap o.definition? =
      (marked.map Prod.fst).filterMap o.definition? := by
  induction marked with
  | nil => rfl
  | cons m marked ih =>
    obtain ⟨hm, hrest⟩ := List.forall_mem_cons.mp h
    cases hmark : m.2 with
    | true =>
      rw [List.filter_cons_of_pos hmark, List.map_cons, List.map_cons, List.filterMap_cons,
        List.filterMap_cons, ih hrest]
    | false =>
      rw [List.filter_cons_of_neg (by simp [hmark]), List.map_cons,
        List.filterMap_cons_none (definition?_of_passes (hm hmark)), ih hrest]

/-- The outputs of the marked statements stand at the places of the marks. -/
theorem outputs_marked (o : Target) (marked : List (Text × Bool)) :
    ((marked.filter Prod.snd).map Prod.fst).map o.output =
      ((((marked.map Prod.fst).map o.output).zip marked).filter fun s => s.2.2).map Prod.fst := by
  have hzip : (marked.map (o.output ∘ Prod.fst)).zip marked =
      marked.map fun m => (o.output m.1, m) := by
    conv_lhs => rw [← List.map_id marked, List.map_map, List.zip_map']
    rfl
  rw [List.map_map, List.map_map, hzip, List.filter_map, List.map_map]
  rfl

/-! ### Names and their definitions -/

/-- New names come behind the old ones, in the order of their first registration. -/
theorem names_foldl_register (ds : List Definition) (r : Registry) :
    (ds.foldl Registry.register r).names =
      r.names ++ (Sql.firstOccurrences (ds.map Definition.name)).filter (· ∉ r.names) := by
  induction ds generalizing r with
  | nil => exact (List.append_nil _).symm
  | cons d ds ih =>
    rw [List.foldl_cons, ih, List.map_cons, Sql.firstOccurrences, Registry.names_register]
    by_cases hd : d.name ∈ r.names
    · rw [if_pos hd, List.filter_cons_of_neg (by simpa using hd), List.filter_filter]
      -- the name of `d` is not new, and so the filter for new names leaves it out anyway
      refine congrArg (r.names ++ ·) (List.filter_congr fun t _ => ?_)
      by_cases ht : t = d.name
      · simp [ht, hd]
      · simp [ht]
    · rw [if_neg hd, List.filter_cons_of_pos (by simpa using hd), List.filter_filter,
        List.append_assoc, List.singleton_append]
      refine congrArg (fun ts => r.names ++ d.name :: ts) (List.filter_congr fun t _ => ?_)
      rw [Bool.eq_iff_iff]
      simp [not_or]

theorem exists_last_statement (h : t ∈ (sqls.filterMap o.definition?).map Definition.name) :
    ∃ before sql after d, sqls = before ++ sql :: after ∧ o.definition? sql = some d ∧
      d.name = t ∧ ∀ later ∈ after, ∀ d', o.definition? later = some d' → d'.name ≠ t := by
  induction sqls with
  | nil => exact absurd h List.not_mem_nil
  | cons sql rest ih =>
    by_cases hrest : t ∈ (rest.filterMap o.definition?).map Definition.name
    · obtain ⟨before, last, after, d, hsplit, hd, ht, hafter⟩ := ih hrest
      exact ⟨sql :: before, last, after, d, by rw [hsplit, List.cons_append], hd, ht, hafter⟩
    · obtain ⟨d, hd, ht⟩ := List.mem_map.mp h
      obtain ⟨last, hlast, hdef⟩ := List.mem_filterMap.mp hd
      rcases List.mem_cons.mp hlast with rfl | hlast
      · refine ⟨[], last, rest, d, rfl, hdef, ht, fun later hlater d' hd' hname => hrest ?_⟩
        exact List.mem_map.mpr ⟨d', List.mem_filterMap.mpr ⟨later, hlater, hd'⟩, hname⟩
      · exact absurd (List.mem_map.mpr ⟨d, List.mem_filterMap.mpr ⟨last, hlast, hdef⟩, ht⟩) hrest

theorem find?_foldl_register_of_notMem (h : t ∉ ds.map Definition.name) :
    (ds.foldl Registry.register r).find? t = r.find? t := by
  have hnone : (ds.reverse.find? fun d => d.name == t) = none := by
    refine List.find?_eq_none.mpr fun d hd hname => h ?_
    exact List.mem_map.mpr ⟨d, List.mem_reverse.mp hd, by simpa using hname⟩
  rw [find?_foldl_register, hnone, Option.none_or]

theorem find?_foldl_register_of_last {d : Definition} {earlier later : List Definition}
    (h : d.name ∉ later.map Definition.name) :
    ((earlier ++ d :: later).foldl Registry.register r).find? d.name = some d := by
  rw [List.foldl_append, List.foldl_cons, find?_foldl_register_of_notMem h,
    Registry.find?_register, if_pos rfl]

/-- A registry tells about a table what the last statement that defines it does. -/
theorem exists_last_definition (h : t ∈ (sqls.filterMap o.definition?).map Definition.name) :
    ∃ before sql after d, sqls = before ++ sql :: after ∧ o.definition? sql = some d ∧
      d.name = t ∧ (∀ later ∈ after, ∀ d', o.definition? later = some d' → d'.name ≠ t) ∧
      ((sqls.filterMap o.definition?).foldl Registry.register r).find? t = some d := by
  obtain ⟨before, sql, after, d, hsplit, hd, rfl, hlast⟩ := exists_last_statement h
  refine ⟨before, sql, after, d, hsplit, hd, rfl, hlast, ?_⟩
  rw [hsplit, List.filterMap_append, List.filterMap_cons_some hd]
  refine find?_foldl_register_of_last fun hmem => ?_
  obtain ⟨d', hd', hname⟩ := List.mem_map.mp hmem
  obtain ⟨later, hlater, hdef⟩ := List.mem_filterMap.mp hd'
  exact hlast later hlater d' hdef hname

/-! ### Two maps -/

/-- A registry as two maps: what is told about each table, and which tables it references. -/
structure Maps where
  /-- The definition of each table. -/
  tables : List (Text × Definition)
  /-- The tables that each table references. -/
  dependencies : List (Text × List Text)

/-- Writes a definition into both maps. -/
def Maps.register (m : Maps) (d : Definition) : Maps :=
  ⟨setField d.name d m.tables, setField d.name d.references m.dependencies⟩

/-- The two maps that a registry stands for. -/
def Registry.maps (r : Registry) : Maps :=
  ⟨r.definitions.map fun d => (d.name, d), r.definitions.map fun d => (d.name, d.references)⟩

/-- The maps have the same keys in the same order, and the dependencies of a table are those that
its definition tells. -/
structure Maps.Agree (m : Maps) : Prop where
  keys : m.dependencies.map Prod.fst = m.tables.map Prod.fst
  stored : ∀ t, m.dependencies.lookup t = (m.tables.lookup t).map Definition.references

theorem map_place {α : Type} (f : Definition → α) (d : Definition) (ds : List Definition) :
    (place d ds).map (fun e => (e.name, f e)) =
      setField d.name (f d) (ds.map fun e => (e.name, f e)) := by
  induction ds with
  | nil => rfl
  | cons e rest ih =>
    rw [place, List.map_cons, setField]
    split
    · next h => rw [List.map_cons, h]
    · rw [List.map_cons, ih]

theorem maps_register (r : Registry) (d : Definition) :
    (r.register d).maps = r.maps.register d :=
  congrArg₂ Maps.mk (map_place id d r.definitions) (map_place Definition.references d r.definitions)

theorem maps_foldl_register (ds : List Definition) (r : Registry) :
    (ds.foldl Registry.register r).maps = ds.foldl Maps.register r.maps := by
  induction ds generalizing r with
  | nil => rfl
  | cons d ds ih => rw [List.foldl_cons, ih, maps_register, List.foldl_cons]

namespace Maps.Agree

variable {m : Maps}

theorem maps (r : Registry) : r.maps.Agree where
  keys := by simp [Registry.maps]
  stored t := by
    unfold Registry.maps
    induction r.definitions with
    | nil => rfl
    | cons d ds ih =>
      simp only [List.map_cons, List.lookup_cons, ih]
      split <;> rfl

theorem register (h : m.Agree) (d : Definition) : (m.register d).Agree where
  keys := by
    simp only [Maps.register, map_fst_setField, h.keys]
  stored t := by
    simp only [Maps.register, lookup_setField, h.stored]
    split <;> rfl

theorem foldl_register (h : m.Agree) (ds : List Definition) : (ds.foldl Maps.register m).Agree := by
  induction ds generalizing m with
  | nil => exact h
  | cons d ds ih => exact ih (h.register d)

end Maps.Agree

/-! ### Outcomes -/

/-- Each statement has one output at its own position: a statement that is passed on is its own
output and defines no table, and the others define one. If any of those that are passed on are taken
away, the outputs of the others and the registry stay as they are.

The registry has the tables of the outputs behind those that it had before, in the order in which
they are first defined. A table that is not among them is told about as before, and one of them as
its last definition tells. Written as two maps, one beside the other, the registry holds the same
tables in both, and the dependencies are the references that are stored with the tables; no
registration takes two maps out of this agreement. -/
theorem convertStatements_traceless (o : Target) (r : Registry) (sqls : List Text) :
    let out := convertStatements o r sqls
    List.Forall₂ (fun sql s => (Passes sql → s = ⟨sql, none⟩) ∧ (¬Passes sql → s.table.isSome))
      sqls out.statements ∧
    (∀ marked : List (Text × Bool), marked.map Prod.fst = sqls →
      (∀ m ∈ marked, m.2 = false → Passes m.1) →
      let left := convertStatements o r ((marked.filter Prod.snd).map Prod.fst)
      left.statements = ((out.statements.zip marked).filter fun s => s.2.2).map Prod.fst ∧
      left.registry = out.registry) ∧
    out.registry.names = r.names ++ (definedTables out.statements).filter (· ∉ r.names) ∧
    (∀ t, t ∉ definedTables out.statements → out.registry.find? t = r.find? t) ∧
    (∀ t ∈ definedTables out.statements, ∃ before sql after d, sqls = before ++ sql :: after ∧
      o.definition? sql = some d ∧ d.name = t ∧
      (∀ later ∈ after, ∀ d', o.definition? later = some d' → d'.name ≠ t) ∧
      out.registry.find? t = some d) ∧
    out.registry.maps = (sqls.filterMap o.definition?).foldl Maps.register r.maps ∧
    out.registry.maps.Agree ∧
    ∀ m : Maps, m.Agree → ((sqls.filterMap o.definition?).foldl Maps.register m).Agree := by
  intro out
  have hstatements : out.statements = sqls.map o.output := statements_convertStatements_eq o r sqls
  have hregistry : out.registry = (sqls.filterMap o.definition?).foldl Registry.register r :=
    registry_convertStatements_eq o r sqls
  have hdefined : definedTables out.statements =
      Sql.firstOccurrences ((sqls.filterMap o.definition?).map Definition.name) := by
    rw [hstatements, definedTables_outputs]
  refine ⟨?_, fun marked hmarked hpasses => ⟨?_, ?_⟩, ?_, fun t ht => ?_, fun t ht => ?_, ?_,
    Maps.Agree.maps _, fun m hm => hm.foldl_register _⟩
  · rw [hstatements]
    exact forall₂_outputs o sqls
  · rw [statements_convertStatements_eq, hstatements, ← hmarked, outputs_marked]
  · rw [registry_convertStatements_eq, hregistry, ← hmarked, filterMap_definition?_marked hpasses]
  · rw [hdefined, hregistry, names_foldl_register]
  · rw [hdefined, Sql.mem_firstOccurrences] at ht
    rw [hregistry, find?_foldl_register_of_notMem ht]
  · rw [hdefined, Sql.mem_firstOccurrences] at ht
    rw [hregistry]
    exact exists_last_definition ht
  · rw [hregistry, maps_foldl_register]

/-- Two definitions of a table, with a definition that cannot be read and something else between
them. These two are marked to be taken away. -/
def mixedStatements : List (Text × Bool) :=
  [("CREATE TABLE a (x INT)", true), ("CREATE TABLE a (y", false), ("SET @n = 1;", false),
    ("CREATE TABLE a (z INT)", true)]

/-- A registry of two other tables. -/
def earlierRegistry : Registry := .ofList [⟨"c", [], ["b".toList]⟩, ⟨"b", [], []⟩]

theorem tableOf?_mixedStatements :
    ∀ m ∈ mixedStatements, m.2 = false → (tableOf? m.1).isNone := by decide +kernel

theorem statements_mixedStatements :
    (convertStatements {} earlierRegistry (mixedStatements.map Prod.fst)).statements =
      [⟨"CREATE TABLE a (\n  x INT\n)", some "a".toList⟩, ⟨"CREATE TABLE a (y", none⟩,
        ⟨"SET @n = 1;", none⟩, ⟨"CREATE TABLE a (\n  z INT\n)", some "a".toList⟩] := by
  decide +kernel

/-- The definitions come out as they did, and the registry is the same: the new table stands behind
the ones that it had. -/
theorem convertStatements_traceless_mixedStatements :
    (convertStatements {} earlierRegistry
      ((mixedStatements.filter Prod.snd).map Prod.fst)).statements =
        [⟨"CREATE TABLE a (\n  x INT\n)", some "a".toList⟩,
          ⟨"CREATE TABLE a (\n  z INT\n)", some "a".toList⟩] ∧
    (convertStatements {} earlierRegistry
      ((mixedStatements.filter Prod.snd).map Prod.fst)).registry =
        (convertStatements {} earlierRegistry (mixedStatements.map Prod.fst)).registry ∧
    (convertStatements {} earlierRegistry (mixedStatements.map Prod.fst)).registry.names =
      ["c".toList, "b".toList, "a".toList] ∧
    (convertStatements {} earlierRegistry (mixedStatements.map Prod.fst)).registry.maps.Agree := by
  obtain ⟨-, hremoved, hnames, -, -, -, hagree, -⟩ :=
    convertStatements_traceless {} earlierRegistry (mixedStatements.map Prod.fst)
  obtain ⟨hleft, hsame⟩ := hremoved mixedStatements rfl fun m hm hmark =>
    tableOf?_eq_none_iff.mp (Option.isNone_iff_eq_none.mp (tableOf?_mixedStatements m hm hmark))
  rw [statements_mixedStatements] at hleft hnames
  exact ⟨hleft, hsame, hnames, hagree⟩

end SchemaMill.Schema
