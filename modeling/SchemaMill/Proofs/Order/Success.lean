import SchemaMill.Proofs.Order.Dangling
import SchemaMill.Proofs.Order.Merge

/-!
# When a merge succeeds

A merge fails for one of three reasons: a dump ends inside a statement where that is an error, the
definitions that are kept reference a table that is never defined where that is an error, or the
moment has no time stamp. `exists_mergeDumps_eq_ok_iff` says that there are no others.

The definitions of some dumps are those of the tables that can be read in them (`tablesOf`), so the
registry is told by these tables alone (`registry_of_convertDumps`), and so are the statements that
define tables (`filter_rawStatements`). A strict arrangement fails exactly if a reference dangles,
and in a merge the registered tables are those that are defined, so that the definitions alone make
the criterion (`IsClosed`).
-/

namespace SchemaMill.Schema

variable {o : Options} {r : Registry}

/-! ### Registries that grow -/

theorem find?_foldl_register (ds : List Definition) (r : Registry) (table : Text) :
    (ds.foldl Registry.register r).find? table =
      (ds.reverse.find? fun d => d.name == table).or (r.find? table) := by
  induction ds generalizing r with
  | nil => rfl
  | cons d ds ih =>
    rw [List.foldl_cons, ih, Registry.find?_register, List.reverse_cons, List.find?_append]
    by_cases h : d.name = table
    · simp [h]
    · simp [h]

/-- The definitions that are kept reference no table that is not defined. -/
def IsClosed (ds : List Definition) : Prop :=
  ∀ table d, (ds.reverse.find? fun d => d.name == table) = some d →
    ∀ u ∈ d.references, u ∈ ds.map Definition.name

/-! ### The tables in dumps -/

/-- The table that a statement defines, if it can be read. -/
def tableOf? (sql : Text) : Option Sql.Table :=
  if isDefinition sql then (Sql.readTable sql).toOption else none

/-- The tables that the statements of dumps define. -/
def tablesOf (texts : List Text) : List Sql.Table :=
  texts.flatMap fun t => (Script.ofText t).statements.filterMap tableOf?

/-- What is told about a table that is moved to a target. -/
def Target.definition (o : Target) (t : Sql.Table) : Definition := describe o.dialect (o.move t)

/-- The definitions that a target makes of dumps. -/
def definitionsOf (o : Target) (texts : List Text) : List Definition :=
  (tablesOf texts).map o.definition

/-- The statement that defines a table that is moved to a target. -/
def Target.statement (o : Target) (t : Sql.Table) : Statement :=
  ⟨(o.move t).render o.dialect, some (o.definition t).name⟩

theorem convertStatement_of_tableOf? (o : Target) (r : Registry) (sql : Text) :
    (convertStatement o r sql).registry =
      ((tableOf? sql).toList.map o.definition).foldl Registry.register r ∧
    (convertStatement o r sql).statements.filter (·.table.isSome) =
      (tableOf? sql).toList.map o.statement := by
  unfold convertStatement tableOf?
  split
  · cases Sql.readTable sql with
    | ok t => exact ⟨rfl, rfl⟩
    | error e => exact ⟨rfl, rfl⟩
  · exact ⟨rfl, rfl⟩

theorem convertStatements_of_tableOf? (o : Target) (r : Registry) (sqls : List Text) :
    (convertStatements o r sqls).registry =
      ((sqls.filterMap tableOf?).map o.definition).foldl Registry.register r ∧
    (convertStatements o r sqls).statements.filter (·.table.isSome) =
      (sqls.filterMap tableOf?).map o.statement := by
  induction sqls generalizing r with
  | nil => exact ⟨rfl, rfl⟩
  | cons sql rest ih =>
    obtain ⟨hregistry, hdefinitions⟩ := convertStatement_of_tableOf? o r sql
    obtain ⟨ihregistry, ihdefinitions⟩ := ih (convertStatement o r sql).registry
    have hcons : (sql :: rest).filterMap tableOf? =
        (tableOf? sql).toList ++ rest.filterMap tableOf? := by
      cases h : tableOf? sql <;> simp [h]
    constructor
    · show (convertStatements o (convertStatement o r sql).registry rest).registry = _
      rw [ihregistry, hregistry, hcons, List.map_append, List.foldl_append]
    · show ((convertStatement o r sql).statements ++
        (convertStatements o (convertStatement o r sql).registry rest).statements).filter _ = _
      rw [List.filter_append, hdefinitions, ihdefinitions, hcons, List.map_append]

/-- The registry after some dumps is told by their tables. -/
theorem registry_of_convertDumps {texts : List Text} {outcome : Outcome}
    (h : convertDumps o r texts = .ok outcome) :
    outcome.registry = (definitionsOf o.target texts).foldl Registry.register r := by
  induction texts generalizing r outcome with
  | nil =>
    obtain rfl := Except.ok.inj h
    rfl
  | cons t rest ih =>
    obtain ⟨others, hothers, -, hreg⟩ := convertDumps_cons_eq_ok h
    rw [hreg, ih hothers, (convertStatements_of_tableOf? ..).1]
    simp [definitionsOf, tablesOf, List.foldl_append]

/-- The statements of some dumps that define tables. -/
theorem filter_rawStatements (o : Target) (texts : List Text) :
    (rawStatements o texts).filter (·.table.isSome) = (tablesOf texts).map o.statement := by
  simp only [rawStatements, tablesOf, List.filter_flatMap, List.map_flatMap]
  exact congrArg (texts.flatMap ·) (funext fun t => (convertStatements_of_tableOf? o .empty _).2)

/-- The tables that the statements of some dumps define are those that are registered. -/
theorem mem_definedTables_rawStatements {o : Target} {texts : List Text} {t : Text} :
    t ∈ definedTables (rawStatements o texts) ↔
      t ∈ (definitionsOf o texts).map Definition.name := by
  have hdefinitions : (definitionsOf o texts).map Definition.name =
      (tablesOf texts).map fun t => (o.definition t).name := List.map_map
  have hmem : (∃ s ∈ rawStatements o texts, s.table = some t) ↔
      ∃ s ∈ (rawStatements o texts).filter (·.table.isSome), s.table = some t := by
    refine exists_congr fun s => ?_
    rw [List.mem_filter, and_assoc]
    exact and_congr_right fun _ => ⟨fun ht => ⟨ht ▸ rfl, ht⟩, And.right⟩
  rw [mem_definedTables, hmem, filter_rawStatements, hdefinitions, List.mem_map]
  simp [Target.statement]

/-! ### Cutting dumps -/

theorem exists_convertDumps_eq_ok_iff {texts : List Text} :
    (∃ outcome, convertDumps o r texts = .ok outcome) ↔
      ∀ t ∈ texts, ∃ split, splitDump o.strictStatements t = .ok split := by
  induction texts generalizing r with
  | nil => exact ⟨fun _ _ ht => absurd ht List.not_mem_nil, fun _ => ⟨_, rfl⟩⟩
  | cons t rest ih =>
    rw [List.forall_mem_cons]
    cases hsplit : splitDump o.strictStatements t with
    | error e =>
      constructor
      · rintro ⟨outcome, h⟩
        rw [convertDumps, hsplit] at h
        cases h
      · rintro ⟨⟨split, h⟩, -⟩
        cases h
    | ok split =>
      rw [← ih (r := (convertStatements o.target r split.1).registry)]
      constructor
      · rintro ⟨outcome, h⟩
        obtain ⟨others, hothers, -⟩ := convertDumps_cons_eq_ok h
        obtain ⟨statements, notices⟩ := split
        obtain rfl := statements_of_splitDump hsplit
        exact ⟨⟨_, rfl⟩, others, hothers⟩
      · rintro ⟨-, others, hothers⟩
        rw [convertDumps, hsplit]
        simp only [bind, Except.bind, hothers]
        exact ⟨_, rfl⟩

/-! ### Strict arrangements -/

/-- The statements of dumps can be arranged strictly exactly if the definitions that are kept
reference no table that is not defined. -/
theorem exists_arrangeStrictly_eq_ok_iff {texts : List Text}
    (hregs : Registers .empty (rawStatements o.target texts) r)
    (hr : r = (definitionsOf o.target texts).foldl Registry.register .empty) :
    (∃ a, arrangeStrictly (rawStatements o.target texts) r = .ok a) ↔
      IsClosed (definitionsOf o.target texts) := by
  have hfind : ∀ t, r.find? t = ((definitionsOf o.target texts).reverse.find? (·.name == t)) := by
    intro t
    rw [hr, find?_foldl_register]
    exact Option.or_none
  have hdefined : ∀ t, (∃ s ∈ rawStatements o.target texts, s.table = some t) ↔
      t ∈ (definitionsOf o.target texts).map Definition.name := fun t => by
    rw [← mem_definedTables, mem_definedTables_rawStatements]
  rw [exists_arrangeStrictly_eq_ok_iff_not_dangles]
  constructor
  · intro h t d hd u hu
    by_contra hundefined
    have hname : d.name = t := by simpa using List.find?_some hd
    have ht : t ∈ (definitionsOf o.target texts).map Definition.name :=
      hname ▸ List.mem_map_of_mem (List.mem_reverse.mp (List.mem_of_find?_eq_some hd))
    obtain ⟨s, hs, hst⟩ := (hdefined t).mpr ht
    refine h t u ⟨hregs.defines s hs t hst, ⟨s, hs, hst⟩, ?_, ?_, mt (hdefined u).mp hundefined⟩
    · rwa [Registry.references, hfind, hd]
    · rintro rfl
      exact hundefined ht
  · rintro h t d ⟨-, -, hd, -, hundefined⟩
    rw [Registry.references, hfind] at hd
    split at hd
    · next e he => exact hundefined ((hdefined d).mpr (h t e he d hd))
    · exact absurd hd List.not_mem_nil

/-! ### Merges -/

/-- A merge succeeds exactly if every dump can be cut, the definitions that are kept reference no
undefined table where that is an error, and the moment has a time stamp. -/
theorem exists_mergeDumps_eq_ok_iff {now : Moment} {texts : List Text} :
    (∃ result, mergeDumps o now texts = .ok result) ↔
      (∀ t ∈ texts, ∃ split, splitDump o.strictStatements t = .ok split) ∧
      (o.strictReferences = true → IsClosed (definitionsOf o.target texts)) ∧
      ∃ timestamp, now.timestamp? = some timestamp := by
  unfold mergeDumps convert
  rw [← exists_convertDumps_eq_ok_iff (o := { o with merge := true }) (r := .empty)]
  cases houtcome : convertDumps { o with merge := true } .empty texts with
  | error e =>
    refine ⟨?_, ?_⟩
    · rintro ⟨result, h⟩
      cases h
    · rintro ⟨⟨outcome, h⟩, -⟩
      cases h
  | ok outcome =>
    obtain ⟨hraw, hregs⟩ := convertDumps_eq_ok houtcome
    have hregistry := registry_of_convertDumps houtcome
    rw [hraw] at hregs
    have hstrict := exists_arrangeStrictly_eq_ok_iff (o := { o with merge := true }) hregs hregistry
    have harrange : (∃ a, arrangeFor { o with merge := true } outcome.statements outcome.registry =
        .ok a) ↔ (o.strictReferences = true → IsClosed (definitionsOf o.target texts)) := by
      rw [← hstrict, hraw]
      cases o.strictReferences with
      | false => simp [arrangeFor]
      | true =>
        simp only [arrangeFor, Bool.not_true, Bool.false_eq_true, if_false, if_true, forall_const]
        cases arrangeStrictly (rawStatements o.target texts) outcome.registry with
        | error e => simp [Except.mapError]
        | ok a => simp [Except.mapError]
    rw [← harrange]
    simp only [bind, Except.bind]
    cases arrangeFor { o with merge := true } outcome.statements outcome.registry with
    | error e => simp
    | ok a => cases now.timestamp? <;> simp

end SchemaMill.Schema
