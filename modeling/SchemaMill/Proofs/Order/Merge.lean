import SchemaMill.Proofs.Order.Arrangement
import SchemaMill.Schema.Dump

/-!
# What a merge of dumps keeps

The statements that dumps give do not depend on the registry (`rawStatements`), and each table that
they define is registered on the way (`Registers`). So the visit of the registered tables meets each
defined table once, and `mergeDumps_statements` says that a merge keeps the last definition of each
table and, after the definitions, every other statement.
-/

namespace SchemaMill.Schema

variable {o : Options} {r : Registry}

/-! ### Statements without a registry -/

theorem statements_convertStatement (o : Target) (r r' : Registry) (sql : Text) :
    (convertStatement o r sql).statements = (convertStatement o r' sql).statements := by
  unfold convertStatement
  split
  · split
    · rfl
    · rfl
  · rfl

theorem statements_convertStatements (o : Target) (r r' : Registry) (sqls : List Text) :
    (convertStatements o r sqls).statements = (convertStatements o r' sqls).statements := by
  induction sqls generalizing r r' with
  | nil => rfl
  | cons sql rest ih =>
    change _ ++ _ = _ ++ _
    rw [statements_convertStatement o r r' sql, ih _ (convertStatement o r' sql).registry]

/-- The statements that dumps give one after the other, before they are ordered. -/
def rawStatements (o : Target) (texts : List Text) : List Statement :=
  texts.flatMap fun t => (convertStatements o .empty (Script.ofText t).statements).statements

/-! ### Registered tables -/

/-- Conversion from a registry on registers each table that its statements define, and forgets
none. -/
structure Registers (r : Registry) (statements : List Statement) (r' : Registry) : Prop where
  keeps : ∀ t ∈ r.names, t ∈ r'.names
  defines : ∀ s ∈ statements, ∀ t, s.table = some t → t ∈ r'.names

namespace Registers

variable {r₁ r₂ r₃ : Registry} {ss ss' : List Statement}

theorem nil (r : Registry) : Registers r [] r :=
  ⟨fun _ h => h, fun _ h => absurd h List.not_mem_nil⟩

theorem append (h : Registers r₁ ss r₂) (h' : Registers r₂ ss' r₃) :
    Registers r₁ (ss ++ ss') r₃ where
  keeps t ht := h'.keeps t (h.keeps t ht)
  defines s hs t ht := by
    rcases List.mem_append.mp hs with hs | hs
    · exact h'.keeps t (h.defines s hs t ht)
    · exact h'.defines s hs t ht

theorem untagged (r : Registry) (text : Text) : Registers r [⟨text, none⟩] r where
  keeps _ h := h
  defines s hs t ht := by
    obtain rfl := List.mem_singleton.mp hs
    cases ht

theorem tagged (r : Registry) (text : Text) (d : Definition) :
    Registers r [⟨text, some d.name⟩] (r.register d) where
  keeps t ht := by
    rw [Registry.names_register]
    split
    · exact ht
    · exact List.mem_append_left _ ht
  defines s hs t ht := by
    obtain rfl := List.mem_singleton.mp hs
    obtain rfl := Option.some.inj ht
    rw [Registry.names_register]
    split
    · assumption
    · exact List.mem_append_right _ (List.mem_singleton_self _)

end Registers

theorem registers_convertStatement (o : Target) (r : Registry) (sql : Text) :
    Registers r (convertStatement o r sql).statements (convertStatement o r sql).registry := by
  unfold convertStatement
  split
  · split
    · exact Registers.tagged r _ _
    · exact Registers.untagged r sql
  · exact Registers.untagged r sql

theorem registers_convertStatements (o : Target) (r : Registry) (sqls : List Text) :
    Registers r (convertStatements o r sqls).statements (convertStatements o r sqls).registry := by
  induction sqls generalizing r with
  | nil => exact Registers.nil r
  | cons sql rest ih => exact (registers_convertStatement o r sql).append (ih _)

/-! ### Several dumps -/

theorem statements_of_splitDump {strict : Bool} {t : Text} {statements : List Text}
    {notices : List Notice} (h : splitDump strict t = .ok (statements, notices)) :
    statements = (Script.ofText t).statements := by
  unfold splitDump at h
  dsimp only at h
  split at h
  · exact (Prod.mk.inj (Except.ok.inj h)).1.symm
  · split at h
    · cases h
    · exact (Prod.mk.inj (Except.ok.inj h)).1.symm

theorem convertDumps_cons_eq_ok {t : Text} {rest : List Text} {outcome : Outcome}
    (h : convertDumps o r (t :: rest) = .ok outcome) :
    ∃ others, convertDumps o (convertStatements o.target r (Script.ofText t).statements).registry
        rest = .ok others ∧
      outcome.statements =
        (convertStatements o.target r (Script.ofText t).statements).statements ++
          others.statements ∧
      outcome.registry = others.registry := by
  rw [convertDumps] at h
  cases hsplit : splitDump o.strictStatements t with
  | error e => rw [hsplit] at h; cases h
  | ok split =>
    obtain ⟨statements, notices⟩ := split
    obtain rfl := statements_of_splitDump hsplit
    rw [hsplit] at h
    simp only [bind, Except.bind] at h
    split at h
    · cases h
    · next others hothers =>
      obtain rfl := Except.ok.inj h
      exact ⟨others, hothers, rfl, rfl⟩

theorem convertDumps_eq_ok {texts : List Text} {outcome : Outcome}
    (h : convertDumps o r texts = .ok outcome) :
    outcome.statements = rawStatements o.target texts ∧
      Registers r outcome.statements outcome.registry := by
  induction texts generalizing r outcome with
  | nil =>
    obtain rfl := Except.ok.inj h
    exact ⟨rfl, Registers.nil r⟩
  | cons t rest ih =>
    obtain ⟨others, hothers, hss, hreg⟩ := convertDumps_cons_eq_ok h
    obtain ⟨hraw, hregs⟩ := ih hothers
    constructor
    · rw [hss, hraw, statements_convertStatements o.target r .empty]
      rfl
    · rw [hss, hreg]
      exact (registers_convertStatements o.target r _).append hregs

theorem arrangeFor_eq_ok {statements : List Statement} {a : Arrangement} (hmerge : o.merge = true)
    (h : arrangeFor o statements r = .ok a) : a = arrange statements r := by
  unfold arrangeFor at h
  rw [hmerge] at h
  split at h
  · next hm => cases hm
  · split at h
    · unfold arrangeStrictly at h
      dsimp only at h
      split at h
      · cases h
      · exact (Except.ok.inj h).symm
    · exact (Except.ok.inj h).symm

/-- The statements of a merge are the arrangement of the statements that the dumps give. -/
theorem mergeDumps_eq_ok {now : Moment} {texts : List Text} {result : Result}
    (h : mergeDumps o now texts = .ok result) :
    ∃ r : Registry, Registers .empty (rawStatements o.target texts) r ∧
      result.statements = (arrange (rawStatements o.target texts) r).statements := by
  unfold mergeDumps convert at h
  simp only [bind, Except.bind] at h
  split at h
  · cases h
  · next outcome houtcome =>
    split at h
    · cases h
    · next a ha =>
      obtain ⟨hraw, hregs⟩ := convertDumps_eq_ok houtcome
      obtain rfl := arrangeFor_eq_ok rfl ha
      split at h
      · cases h
      · obtain rfl := Except.ok.inj h
        rw [hraw] at hregs
        exact ⟨outcome.registry, hregs, by rw [← hraw]⟩

/-- Where an open statement is no error, every dump can be cut. -/
theorem exists_splitDump_eq_ok (t : Text) :
    ∃ notices, splitDump false t = .ok ((Script.ofText t).statements, notices) := by
  unfold splitDump
  dsimp only
  split
  · exact ⟨_, rfl⟩
  · exact ⟨_, rfl⟩

theorem exists_convertDumps_eq_ok (hs : o.strictStatements = false) (r : Registry)
    (texts : List Text) : ∃ outcome, convertDumps o r texts = .ok outcome := by
  induction texts generalizing r with
  | nil => exact ⟨_, rfl⟩
  | cons t rest ih =>
    obtain ⟨notices, hsplit⟩ := exists_splitDump_eq_ok t
    obtain ⟨others, hothers⟩ :=
      ih (convertStatements o.target r (Script.ofText t).statements).registry
    rw [convertDumps, hs, hsplit]
    simp only [bind, Except.bind, hothers]
    exact ⟨_, rfl⟩

/-- Where nothing is strict and the moment has a time stamp, a merge gives a result. -/
theorem exists_mergeDumps_eq_ok (hs : o.strictStatements = false) (hr : o.strictReferences = false)
    {now : Moment} {timestamp : Text} (hnow : now.timestamp? = some timestamp)
    (texts : List Text) : ∃ result, mergeDumps o now texts = .ok result := by
  obtain ⟨outcome, houtcome⟩ :=
    exists_convertDumps_eq_ok (o := { o with merge := true }) hs .empty texts
  have harrange : arrangeFor { o with merge := true } outcome.statements outcome.registry =
      .ok (arrange outcome.statements outcome.registry) := by
    simp [arrangeFor, hr]
  unfold mergeDumps convert
  simp only [bind, Except.bind, houtcome, harrange, hnow]
  exact ⟨_, rfl⟩

/-! ### The last definitions -/

/-- Of some statements, the last one that defines a table. -/
def IsLastDefinition (statements : List Statement) (t : Text) (s : Statement) : Prop :=
  ∃ before after, statements = before ++ s :: after ∧ s.table = some t ∧
    ∀ s' ∈ after, s'.table ≠ some t

variable {statements : List Statement} {s : Statement} {t : Text}

theorem isLastDefinition_iff :
    IsLastDefinition statements t s ↔ definition? statements t = some s := by
  rw [definition?, List.find?_eq_some_iff_append]
  constructor
  · rintro ⟨before, after, rfl, ht, hafter⟩
    refine ⟨beq_iff_eq.mpr ht, after.reverse, before.reverse, by simp, fun s' hs' => ?_⟩
    have hne := hafter s' (List.mem_reverse.mp hs')
    simpa using hne
  · rintro ⟨hs, as, bs, hrev, has⟩
    refine ⟨bs.reverse, as.reverse, ?_, beq_iff_eq.mp hs, fun s' hs' => ?_⟩
    · rw [← List.reverse_reverse statements, hrev]
      simp
    · have hne := has s' (List.mem_reverse.mp hs')
      simpa using hne

theorem filter_definitions {tables : List Text} (hnd : tables.Nodup)
    (hdef : ∀ u ∈ tables, u ∈ definedTables statements) (ht : t ∈ tables)
    (hs : definition? statements t = some s) :
    (tables.filterMap (definition? statements)).filter (·.table == some t) = [s] := by
  have hnone : ∀ us : List Text, t ∉ us →
      (us.filterMap (definition? statements)).filter (·.table == some t) = [] := by
    intro us hus
    refine List.filter_eq_nil_iff.mpr fun s' hs' hb => hus ?_
    obtain ⟨u, hu, hsu⟩ := List.mem_filterMap.mp hs'
    rw [table_of_definition? hsu] at hb
    obtain rfl := Option.some.inj (beq_iff_eq.mp hb)
    exact hu
  induction tables with
  | nil => exact absurd ht List.not_mem_nil
  | cons u rest ih =>
    obtain ⟨hu, hrest⟩ := List.nodup_cons.mp hnd
    obtain ⟨su, hsu⟩ := exists_definition? (hdef u (List.mem_cons_self ..))
    rw [List.filterMap_cons_some hsu]
    rcases List.mem_cons.mp ht with rfl | ht
    · obtain rfl := Option.some.inj (hs.symm.trans hsu)
      have htag : (s.table == some t) = true := beq_iff_eq.mpr (table_of_definition? hs)
      rw [List.filter_cons, if_pos htag, hnone rest hu]
    · have htag : ¬ (su.table == some t) = true := by
        rw [table_of_definition? hsu]
        intro hb
        obtain rfl := Option.some.inj (beq_iff_eq.mp hb)
        exact hu ht
      rw [List.filter_cons, if_neg htag]
      exact ih hrest (fun u hu => hdef u (List.mem_cons_of_mem _ hu)) ht

/-- The statements of a merge are definitions followed by the statements that define no table, in
the order in which the dumps give them. Of each table that the dumps define there is one definition,
the last that they give, and there are no other definitions. -/
theorem mergeDumps_statements {now : Moment} {texts : List Text} {result : Result}
    (h : mergeDumps o now texts = .ok result) :
    ∃ definitions, result.statements =
        definitions ++ (rawStatements o.target texts).filter (·.table.isNone) ∧
      (∀ t, (∃ s ∈ rawStatements o.target texts, s.table = some t) →
        ∃ s, IsLastDefinition (rawStatements o.target texts) t s ∧
          definitions.filter (·.table == some t) = [s]) ∧
      ∀ s ∈ definitions, ∃ t, s.table = some t ∧
        ∃ s' ∈ rawStatements o.target texts, s'.table = some t := by
  obtain ⟨r, hregs, hstatements⟩ := mergeDumps_eq_ok h
  have hvalid := finalProgress_valid (rawStatements o.target texts) r.outline
  refine ⟨(finalProgress (rawStatements o.target texts) r.outline).emitted.filterMap
    (definition? (rawStatements o.target texts)), hstatements, ?_, ?_⟩
  · rintro t ⟨s', hs', ht⟩
    have hdef : ∃ s ∈ rawStatements o.target texts, s.table = some t := ⟨s', hs', ht⟩
    obtain ⟨s, hs⟩ := exists_definition? (mem_definedTables.mpr hdef)
    have hemitted := mem_tables_arrange (hregs.defines s' hs' t ht) hdef
    rw [tables_arrange] at hemitted
    exact ⟨s, isLastDefinition_iff.mpr hs,
      filter_definitions hvalid.nodup hvalid.unopened hemitted hs⟩
  · intro s hs
    obtain ⟨t, ht, hst⟩ := List.mem_filterMap.mp hs
    exact ⟨t, table_of_definition? hst, mem_definedTables.mp (hvalid.unopened t ht)⟩

/-- Two dumps whose tables reference each other; the second dump defines a table again. -/
def twoDumps : List Text :=
  ["CREATE TABLE a (x INT REFERENCES b(y));\nCREATE TABLE b (y INT REFERENCES a(x));",
    "SET @n = 1;\nCREATE TABLE a (z INT REFERENCES a(z));"]

theorem rawStatements_twoDumps : rawStatements {} twoDumps =
    [⟨"CREATE TABLE a (\n  x INT REFERENCES b(y)\n)", some "a".toList⟩,
      ⟨"CREATE TABLE b (\n  y INT REFERENCES a(x)\n)", some "b".toList⟩,
      ⟨"SET @n = 1;", none⟩,
      ⟨"CREATE TABLE a (\n  z INT REFERENCES a(z)\n)", some "a".toList⟩] := by decide +kernel

/-- The moment at which the two dumps are merged. -/
def twoDumpsMoment : Moment := ⟨⟨2024, 1, 2⟩, 3, 4, 5, 0, some 0⟩

theorem timestamp?_twoDumpsMoment :
    twoDumpsMoment.timestamp? = some "2024-01-02T03:04:05.000Z".toList := by decide +kernel

/-- The merge keeps the table as the second dump defines it. -/
theorem mergeDumps_statements_twoDumps :
    ∃ result definitions, mergeDumps {} twoDumpsMoment twoDumps = .ok result ∧
      result.statements = definitions ++ [⟨"SET @n = 1;", none⟩] ∧
      definitions.filter (·.table == some "a".toList) =
        [⟨"CREATE TABLE a (\n  z INT REFERENCES a(z)\n)", some "a".toList⟩] := by
  obtain ⟨result, h⟩ :=
    exists_mergeDumps_eq_ok (o := {}) rfl rfl timestamp?_twoDumpsMoment twoDumps
  obtain ⟨definitions, hstatements, hlast, -⟩ := mergeDumps_statements h
  rw [rawStatements_twoDumps] at hstatements hlast
  obtain ⟨s, hs, hfilter⟩ := hlast "a".toList
    ⟨⟨"CREATE TABLE a (\n  z INT REFERENCES a(z)\n)", some "a".toList⟩, by decide, rfl⟩
  obtain rfl := Option.some.inj (isLastDefinition_iff.mp hs)
  exact ⟨result, definitions, h, hstatements, hfilter⟩

end SchemaMill.Schema
