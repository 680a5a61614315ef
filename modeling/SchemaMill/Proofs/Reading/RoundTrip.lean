import SchemaMill.Proofs.Reading.Tables
import SchemaMill.Schema.Statement

/-!
# Round trips

What was read from a statement is read again from the text that MySQL gets of it, as far as that
text is legible (`readTable_render`). So the registry tells of each definition what can be read in
the statement of the output that it belongs to (`readTable_convertStatements`).
-/

namespace SchemaMill.Sql

theorem dataType_ne_nil_of_isLegible {t : Table} (h : t.isLegible) :
    ∀ c ∈ t.columns, c.dataType ≠ [] := by
  intro c hc
  rw [Table.isLegible, Bool.and_eq_true] at h
  obtain ⟨e, he, hcolumn⟩ := List.mem_filterMap.mp hc
  cases e with
  | constraint c => cases hcolumn
  | column c =>
    cases hcolumn
    cases helements : t.elements with
    | none => simp [helements] at he
    | some es =>
      rw [helements, Option.getD_some] at he
      have htype : (⟨[' '], wordToken c.dataType⟩ : Placed) ∈ placeElements es :=
        mem_placeElements he (by simp [Element.place, Column.place])
      have hplace : (⟨[' '], wordToken c.dataType⟩ : Placed) ∈ t.place := by
        rw [Table.place, helements]
        simp [htype]
      obtain ⟨before, rest, hapart⟩ := exists_isApart h.1 hplace
      obtain ⟨kind, ⟨d, u, hvalue, -⟩, -⟩ := lexesAs_of_isApart hapart
      exact List.ne_nil_of_mem (hvalue ▸ List.mem_cons_self)

/-- What was read is read again from its own text, if that is legible: the text is the same again,
and so are the summary, the number of columns and the number of elements. No column has lost its
type. -/
theorem readTable_render {sql : Text} {t : Table} (hread : readTable sql = .ok t)
    (h : t.isLegible) : ∃ t', readTable (t.render .mysql) = .ok t' ∧
      t'.render .mysql = t.render .mysql ∧
      Schema.describe .mysql t' = Schema.describe .mysql t ∧
      t'.columns.length = t.columns.length ∧
      t'.elements.map List.length = t.elements.map List.length ∧
      ∀ c ∈ t.columns, c.dataType ≠ [] := by
  obtain ⟨t', hread', halike⟩ :=
    readTable_render_of_wellFormed (wellFormed_of_readTable hread) h
  have hcolumns : (Schema.describe .mysql t').columns.length =
      (Schema.describe .mysql t).columns.length := by rw [halike.describe]
  refine ⟨t', hread', halike.render, halike.describe, ?_, halike.size,
    dataType_ne_nil_of_isLegible h⟩
  simpa [Schema.describe] using hcolumns

/-- A definition with names and clauses of several kinds. -/
def orders : Text :=
  "create table `or``ders` (id int NOT  NULL /* key */, [c] enum('x', 'it''s'), UNIQUE (id))"

/-- The definition is read again from its text. -/
theorem readTable_render_orders : ∃ t t', readTable orders = .ok t ∧ t.isLegible ∧
    readTable (t.render .mysql) = .ok t' ∧ t'.render .mysql = t.render .mysql ∧
    Schema.describe .mysql t' = Schema.describe .mysql t ∧ t.columns.length = 2 ∧
    t'.columns.length = 2 := by
  have horders : (readTable orders).toOption.any fun t => t.isLegible && t.columns.length == 2 := by
    decide +kernel
  cases hread : readTable orders with
  | error e => simp [hread, Except.toOption] at horders
  | ok t =>
    simp only [hread, Except.toOption, Option.any_some, Bool.and_eq_true, beq_iff_eq] at horders
    obtain ⟨hlegible, hlength⟩ := horders
    obtain ⟨t', hread', hrender, hdescribe, hcolumns, -⟩ := readTable_render hread hlegible
    exact ⟨t, t', rfl, hlegible, hread', hrender, hdescribe, hlength, hcolumns.trans hlength⟩

/-- A type in brackets is no word, so it is lost. -/
example : (readTable "CREATE TABLE t ([id] [int] NOT NULL)").toOption.map (·.render .mysql) =
    some "CREATE TABLE t (\n  `id`  NOT NULL\n)".toList := by decide +kernel

end SchemaMill.Sql

namespace SchemaMill.Schema

open Sql

/-! ### The statements of the output -/

/-- Each statement gives one statement of the output. -/
theorem getElem?_convertStatements {o : Target} {r : Registry} {sqls : List Text} {i : Nat}
    {s : Statement} (hs : (convertStatements o r sqls).statements[i]? = some s) :
    ∃ sql, sqls[i]? = some sql ∧
      (convertStatement o (convertStatements o r (sqls.take i)).registry sql).statements = [s] ∧
      (convertStatements o r (sqls.take (i + 1))).registry =
        (convertStatement o (convertStatements o r (sqls.take i)).registry sql).registry := by
  induction sqls generalizing r i with
  | nil => simp [convertStatements] at hs
  | cons sql rest ih =>
    have hone : ∃ s', (convertStatement o r sql).statements = [s'] := by
      unfold convertStatement
      split
      · split <;> exact ⟨_, rfl⟩
      · exact ⟨_, rfl⟩
    obtain ⟨s', hs'⟩ := hone
    simp only [convertStatements, Outcome.andThen, hs', List.singleton_append] at hs
    cases i with
    | zero =>
      cases hs
      exact ⟨sql, rfl, by simpa [convertStatements] using hs', rfl⟩
    | succ i => exact ih hs

/-- A statement of the output that defines a table is the text of a definition that was read and
moved, and the definition is registered. -/
theorem convertStatement_tagged {o : Target} {r : Registry} {sql name : Text} {s : Statement}
    (hs : (convertStatement o r sql).statements = [s]) (hname : s.table = some name) :
    ∃ t, readTable sql = .ok t ∧ s.text = (o.move t).render o.dialect ∧
      (describe o.dialect (o.move t)).name = name ∧
      (convertStatement o r sql).registry.find? name = some (describe o.dialect (o.move t)) := by
  unfold convertStatement at hs ⊢
  split at hs
  · next hdefinition =>
    rw [if_pos hdefinition]
    split at hs
    · next t hread =>
      cases hs
      cases hname
      rw [hread]
      exact ⟨t, rfl, rfl, rfl, by simp [defineTable, Registry.find?_register]⟩
    · cases hs
      cases hname
  · cases hs
    cases hname

/-- The registry tells what can be read in the output: the statement of the output that defines a
table is read as the definition of that table, and what is told of it is what was registered, as far
as the text of the definition is legible once it is moved. -/
theorem readTable_convertStatements {o : Target} (ho : o.dialect = .mysql) {r : Registry}
    {sqls : List Text} {i : Nat} {s : Statement} {name : Text}
    (hs : (convertStatements o r sqls).statements[i]? = some s) (hname : s.table = some name) :
    ∃ sql t, sqls[i]? = some sql ∧ readTable sql = .ok t ∧ ((o.move t).isLegible →
      ∃ t', readTable s.text = .ok t' ∧ t'.name.name = name ∧
        t'.dependencies = (convertStatements o r (sqls.take (i + 1))).registry.references name ∧
        (convertStatements o r (sqls.take (i + 1))).registry.find? name =
          some (describe .mysql t')) := by
  obtain ⟨sql, hsql, hone, hregistry⟩ := getElem?_convertStatements hs
  obtain ⟨t, hread, htext, htag, hfind⟩ := convertStatement_tagged hone hname
  rw [ho] at htext htag hfind
  refine ⟨sql, t, hsql, hread, fun hlegible => ?_⟩
  obtain ⟨t', hread', halike⟩ :=
    readTable_render_of_wellFormed ((wellFormed_of_readTable hread).move o) hlegible
  rw [← htext] at hread'
  rw [hregistry]
  rw [← halike.describe] at htag hfind
  exact ⟨t', hread', htag, by simp [Registry.references, hfind]; rfl, hfind⟩

/-- A target that takes a prefix off table names. -/
def unprefixed : Target := { strip := some "wp_" }

/-- A definition that references another table. -/
def posts : Text := "CREATE TABLE wp_posts (author INT REFERENCES `wp_users`)"

/-- The definition is read from the output under the name without the prefix. -/
theorem readTable_convertStatements_posts : ∃ s t',
    (convertStatements unprefixed .empty ["SET @n = 1", posts]).statements[1]? = some s ∧
      s.table = some "posts".toList ∧ readTable s.text = .ok t' ∧ t'.name.name = "posts".toList ∧
      t'.dependencies = ["users".toList] := by
  have htable : ((convertStatements unprefixed .empty ["SET @n = 1", posts]).statements[1]?.bind
      (·.table)) = some "posts".toList := by decide +kernel
  have hreferences : (convertStatements unprefixed .empty
      ["SET @n = 1", posts]).registry.references "posts" = ["users".toList] := by decide +kernel
  have hposts : (readTable posts).toOption.any (unprefixed.move · |>.isLegible) := by
    decide +kernel
  obtain ⟨s, hs, hname⟩ := Option.bind_eq_some_iff.mp htable
  obtain ⟨sql, t, hsql, hread, hmoved⟩ := readTable_convertStatements rfl hs hname
  cases hsql
  rw [hread] at hposts
  obtain ⟨t', hread', hname', hdependencies, -⟩ := hmoved hposts
  exact ⟨s, t', hs, hname, hread', hname', hdependencies.trans hreferences⟩

/-- What a prefix leaves of a name may be no name. -/
example : (convertStatements unprefixed .empty ["CREATE TABLE wp_1 (id INT)"]).statements =
      [⟨"CREATE TABLE 1 (\n  id INT\n)", some "1".toList⟩] ∧
    (readTable "CREATE TABLE 1 (\n  id INT\n)").toOption = none := by decide +kernel

end SchemaMill.Schema
