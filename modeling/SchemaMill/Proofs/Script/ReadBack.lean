import SchemaMill.Proofs.Order.Success
import SchemaMill.Proofs.Script.Joining
import SchemaMill.Proofs.Script.Layout

/-!
# Reading a document back

The document of a dump is cut into statements again. Those that only passed through are cut out as
they were, and so is each table definition that is laid out (`Table.IsLaidOut`); the document reads
back as its own statements exactly if all the definitions in it are (`splitDump_document_iff`).
-/

namespace SchemaMill.Schema

open Sql

variable {o : Options} {now : Moment} {r : Registry} {texts : List Text} {result : Result}
  {s : Statement}

/-! ### The statements of a document -/

theorem mem_of_definition? {ss : List Statement} {table : Text}
    (h : definition? ss table = some s) :
    s ∈ ss :=
  List.mem_reverse.mp (List.mem_of_find?_eq_some h)

theorem subset_of_arrangeFor {ss : List Statement} {a : Arrangement}
    (h : arrangeFor o ss r = .ok a) : a.statements ⊆ ss := by
  cases hmerge : o.merge with
  | false =>
    rw [arrangeFor, hmerge] at h
    cases h
    exact List.Subset.refl _
  | true =>
    rw [arrangeFor_eq_ok hmerge h, arrange]
    refine List.append_subset.mpr ⟨fun s hs => ?_, List.filter_subset_self _⟩
    obtain ⟨table, -, hdef⟩ := List.mem_filterMap.mp hs
    exact mem_of_definition? hdef

theorem convert_eq_ok (h : convert o now texts = .ok result) :
    ∃ timestamp, now.timestamp? = some timestamp ∧
      result.document = document o.target.dialect o.target.charset timestamp
        (result.statements.map (·.text)) ∧
      result.statements ⊆ rawStatements o.target texts := by
  unfold convert at h
  simp only [bind, Except.bind] at h
  split at h
  · cases h
  · next outcome houtcome =>
    split at h
    · cases h
    · next a ha =>
      split at h
      · cases h
      · next timestamp htimestamp =>
        cases h
        refine ⟨timestamp, htimestamp, rfl, ?_⟩
        rw [← (convertDumps_eq_ok houtcome).1]
        exact subset_of_arrangeFor ha

/-- The text of a statement is that of a dump, or of a table that a dump defines. -/
theorem text_of_mem_rawStatements {o : Target} (h : s ∈ rawStatements o texts) :
    (∃ t ∈ texts, s.text ∈ (Script.ofText t).statements) ∨
      ∃ t ∈ tablesOf texts, s.text = (o.move t).render o.dialect := by
  have hone (sql : Text) {r : Registry} (hs : s ∈ (convertStatement o r sql).statements) :
      s.text = sql ∨ ∃ t ∈ tableOf? sql, s.text = (o.move t).render o.dialect := by
    unfold convertStatement at hs
    unfold tableOf?
    split at hs
    · next hdef =>
      rw [if_pos hdef]
      split at hs
      · next t hread =>
        rw [hread]
        rw [List.mem_singleton.mp hs]
        exact .inr ⟨t, rfl, rfl⟩
      · rw [List.mem_singleton.mp hs]
        exact .inl rfl
    · rw [List.mem_singleton.mp hs]
      exact .inl rfl
  have hall {sqls : List Text} {r : Registry} (hs : s ∈ (convertStatements o r sqls).statements) :
      ∃ sql ∈ sqls, s.text = sql ∨ ∃ t ∈ tableOf? sql, s.text = (o.move t).render o.dialect := by
    induction sqls generalizing r with
    | nil => cases hs
    | cons sql rest ih =>
      rcases List.mem_append.mp hs with hs | hs
      · exact ⟨sql, List.mem_cons_self, hone sql hs⟩
      · obtain ⟨sql', hsql', htext⟩ := ih hs
        exact ⟨sql', List.mem_cons_of_mem _ hsql', htext⟩
  obtain ⟨text, htext, hs⟩ := List.mem_flatMap.mp h
  obtain ⟨sql, hsql, hcases⟩ := hall hs
  rcases hcases with rfl | ⟨t, ht, hrender⟩
  · exact .inl ⟨text, htext, hsql⟩
  · exact .inr
      ⟨t, List.mem_flatMap.mpr ⟨text, htext, List.mem_filterMap.mpr ⟨sql, hsql, ht⟩⟩, hrender⟩

theorem fits_of_mem_tablesOf {t : Table} (h : t ∈ tablesOf texts) : t.Fits ∧ t.WellFormed := by
  obtain ⟨text, -, ht⟩ := List.mem_flatMap.mp h
  obtain ⟨sql, hsql, ht⟩ := List.mem_filterMap.mp ht
  have hstatement := isStatement_of_mem_statements hsql
  unfold tableOf? at ht
  split at ht
  · cases hread : readTable sql with
    | error e => rw [hread] at ht; cases ht
    | ok t' =>
      rw [hread] at ht
      cases ht
      exact ⟨fits_of_readTable hstatement.steady hstatement.runsOn hread,
        wellFormed_of_readTable hread⟩
  · cases ht

/-! ### Reading back -/

/-- A document reads back as its own statements exactly if each table definition in it has a row
between its parentheses, no column that looks like a comment, and no line in its body that ends in
a semicolon. -/
theorem splitDump_document_iff {text : Text} (hcharset : Unbroken o.target.charset)
    (h : convertOne o now text = .ok result) :
    splitDump true result.document = .ok (documentStatements o.target.dialect o.target.charset
        (result.statements.map (·.text)), []) ↔
      ∀ t ∈ tablesOf [text],
        (o.target.move t).render o.target.dialect ∈ result.statements.map (·.text) →
          (o.target.move t).IsLaidOut o.target.dialect := by
  obtain ⟨timestamp, htimestamp, hdocument, hraw⟩ := convert_eq_ok h
  have htable {t : Table} (ht : t ∈ tablesOf [text]) :
      IsStatement (dropTerminator ((o.target.move t).render o.target.dialect) ++ [';']) ↔
        (o.target.move t).IsLaidOut o.target.dialect := by
    obtain ⟨hfits, hform⟩ := fits_of_mem_tablesOf ht
    exact isStatement_render_iff (hfits.move hcharset) (hform.move o.target)
  rw [splitDump_eq_ok_iff, hdocument, ofText_document_iff (unbroken_timestamp htimestamp) hcharset]
  constructor
  · intro hall t ht hmem
    obtain ⟨hfits, hform⟩ := fits_of_mem_tablesOf ht
    exact (htable ht).mp (hall _ hmem
      (dropTerminator_render_ne_nil (hfits.move hcharset) (hform.move o.target) _))
  · intro hall text' htext hne
    obtain ⟨s, hs, rfl⟩ := List.mem_map.mp htext
    rcases text_of_mem_rawStatements (hraw hs) with ⟨t, -, hstatement⟩ | ⟨t, ht, hrender⟩
    · exact (isStatement_of_mem_statements hstatement).toLeads.dropTerminator hne
    · rw [hrender] at htext ⊢
      exact (htable ht).mpr (hall t ht htext)

theorem exists_convertOne_eq_ok {text : Text} {ss : List Text}
    (h : (convertOne o now text).toOption.map (·.statements.map (·.text)) = some ss) :
    ∃ result, convertOne o now text = .ok result ∧ result.statements.map (·.text) = ss := by
  cases hresult : convertOne o now text with
  | error e => rw [hresult] at h; cases h
  | ok result =>
    rw [hresult] at h
    exact ⟨result, rfl, Option.some.inj h⟩

/-- A dump with a table, a comment and a statement that passes through. -/
def plainDump : Text := "CREATE TABLE t (id INT);;\n-- done\nINSERT INTO t\n  VALUES (1);"

/-- A dump with a table that has keys only, for which one of the dialects has no place. -/
def keysDump : Text := "CREATE TABLE u (KEY k (id)) SELECT id FROM t;"

/-- The document of the one reads back, and that of the other does not: a blank line stands between
the parentheses of the table. -/
theorem splitDump_document_plainDump_and_keysDump :
    (∃ result, convertOne {} twoDumpsMoment plainDump = .ok result ∧
      splitDump true result.document = .ok (documentStatements .mysql "utf8mb4"
        ["CREATE TABLE t (\n  id INT\n)", "INSERT INTO t\n  VALUES (1);"], [])) ∧
      ∃ result, convertOne { target.dialect := .postgres } twoDumpsMoment keysDump = .ok result ∧
        splitDump true result.document ≠ .ok (documentStatements .postgres "utf8mb4"
          ["CREATE TABLE u (\n\n)"], []) := by
  have hplain : (convertOne {} twoDumpsMoment plainDump).toOption.map (·.statements.map (·.text)) =
      some ["CREATE TABLE t (\n  id INT\n)".toList, "INSERT INTO t\n  VALUES (1);".toList] := by
    decide +kernel
  have hkeys : (convertOne { target.dialect := .postgres } twoDumpsMoment keysDump).toOption.map
      (·.statements.map (·.text)) = some ["CREATE TABLE u (\n\n)".toList] := by decide +kernel
  obtain ⟨plain, hconvert, htexts⟩ := exists_convertOne_eq_ok hplain
  obtain ⟨keys, hconvert', htexts'⟩ := exists_convertOne_eq_ok hkeys
  refine ⟨⟨plain, hconvert, ?_⟩, keys, hconvert', ?_⟩
  · have hiff := splitDump_document_iff (by decide) hconvert
    rw [htexts] at hiff
    exact hiff.mpr (by decide +kernel)
  · have hiff := splitDump_document_iff (by decide) hconvert'
    rw [htexts'] at hiff
    exact mt hiff.mp (by decide +kernel)

end SchemaMill.Schema
