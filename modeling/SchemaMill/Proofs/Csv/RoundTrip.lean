import SchemaMill.Csv.Writer
import SchemaMill.Proofs.Charset.Lowering
import SchemaMill.Proofs.Conversion.Commas
import SchemaMill.Proofs.Record.Fields

/-!
# Reading written rows

Every field is written in quotes, so the reader takes whatever stands in it, line breaks and quotes
included, and is past the closing quote when the separator comes (`readRowsFrom_writeField`). The
rows that are read are therefore those that were written (`readRows_flatMap_writeRow`), and the
records are those with a cell that is not blank, under the same columns (`read_write`).
-/

namespace SchemaMill.Csv

/-! ### Characters -/

section Steps

variable {s s' : State} {c : Char} {taken : List (List Text)}

theorem readRowsFrom_of_step (hopen : (c == '\n' && s.place != .quoted) = false)
    (hstep : s.step c = .ok s') (rest : Text) :
    readRowsFrom taken s (c :: rest) = readRowsFrom taken s' rest := by
  rw [readRowsFrom, hopen, if_neg Bool.false_ne_true, hstep]

/-- Inside quotes a line feed ends no row. -/
theorem readRowsFrom_of_quoted (hplace : s.place = .quoted) (hstep : s.step c = .ok s')
    (rest : Text) : readRowsFrom taken s (c :: rest) = readRowsFrom taken s' rest :=
  readRowsFrom_of_step (by rw [hplace]; simp) hstep rest

theorem State.step_quote (hplace : s.place = .quoted) :
    s.step '"' = .ok { s with place := .quoteSeen } := by
  rw [State.step, hplace]
  rfl

theorem State.step_quoted (hplace : s.place = .quoted) (hc : c ≠ '"')
    (hroom : s.length < fieldLimit) :
    s.step c = .ok ⟨.quoted, c :: s.field, s.length + 1, s.fields⟩ := by
  rw [State.step, hplace]
  dsimp only
  rw [if_neg (by simpa using hc), State.push, if_neg (by omega)]

theorem State.step_quoteSeen (hplace : s.place = .quoteSeen) (hroom : s.length < fieldLimit) :
    s.step '"' = .ok ⟨.quoted, '"' :: s.field, s.length + 1, s.fields⟩ := by
  rw [State.step, hplace]
  dsimp only
  rw [if_pos (by decide), State.push, if_neg (by omega)]

end Steps

/-! ### Fields and rows -/

theorem readRowsFrom_escapedField (taken : List (List Text)) {s : State}
    (hplace : s.place = .quoted) (t rest : Text) (hroom : s.length + t.length ≤ fieldLimit) :
    readRowsFrom taken s (escapedField t ++ '"' :: rest) =
      readRowsFrom taken ⟨.quoteSeen, t.reverse ++ s.field, s.length + t.length, s.fields⟩
        rest := by
  induction t generalizing s with
  | nil => exact readRowsFrom_of_quoted hplace (State.step_quote hplace) rest
  | cons c t ih =>
    rw [List.length_cons] at hroom
    have hfield : (c :: t).reverse ++ s.field = t.reverse ++ c :: s.field := by simp
    have hlength : s.length + (c :: t).length = s.length + 1 + t.length := by
      rw [List.length_cons]
      omega
    rw [hfield, hlength, escapedField]
    by_cases hc : c = '"'
    · subst hc
      have hseen : ({ s with place := .quoteSeen } : State).step '"' =
          .ok ⟨.quoted, '"' :: s.field, s.length + 1, s.fields⟩ :=
        State.step_quoteSeen rfl (show s.length < _ by omega)
      rw [if_pos rfl, List.cons_append, List.cons_append,
        readRowsFrom_of_quoted hplace (State.step_quote hplace), readRowsFrom_of_step rfl hseen,
        ih rfl (show s.length + 1 + t.length ≤ _ by omega)]
    · rw [if_neg hc, List.cons_append,
        readRowsFrom_of_quoted hplace (State.step_quoted hplace hc (by omega)),
        ih rfl (show s.length + 1 + t.length ≤ _ by omega)]

theorem readRowsFrom_writeField (taken : List (List Text)) {place : Place}
    (hplace : place = .rowStart ∨ place = .fieldStart) (fields : List Text) {t : Text}
    (ht : t.length ≤ fieldLimit) (rest : Text) :
    readRowsFrom taken ⟨place, [], 0, fields⟩ (writeField t ++ rest) =
      readRowsFrom taken ⟨.quoteSeen, t.reverse, t.length, fields⟩ rest := by
  have hopen : (⟨place, [], 0, fields⟩ : State).step '"' = .ok ⟨.quoted, [], 0, fields⟩ := by
    rcases hplace with rfl | rfl <;> rfl
  rw [writeField, List.cons_append, List.cons_append, List.append_assoc, List.singleton_append,
    readRowsFrom_of_step rfl hopen, readRowsFrom_escapedField taken rfl t rest (by simpa using ht)]
  simp

theorem readRowsFrom_fields (taken : List (List Text)) {place : Place}
    (hplace : place = .rowStart ∨ place = .fieldStart) (before : List Text) {fields : List Text}
    (hne : fields ≠ []) (hshort : ∀ t ∈ fields, t.length ≤ fieldLimit) (rest : Text) :
    readRowsFrom taken ⟨place, [], 0, before⟩
        (joinWith [','] (fields.map writeField) ++ '\n' :: rest) =
      readRowsFrom ((before.reverse ++ fields) :: taken) {} rest := by
  induction fields generalizing place before with
  | nil => exact absurd rfl hne
  | cons t fields ih =>
    rw [List.forall_mem_cons] at hshort
    cases fields with
    | nil =>
      rw [List.map_singleton, joinWith, readRowsFrom_writeField taken hplace before hshort.1]
      show readRowsFrom ((t.reverse.reverse :: before).reverse :: taken) {} rest = _
      rw [List.reverse_reverse, List.reverse_cons]
    | cons t' fields =>
      have hcomma : (⟨.quoteSeen, t.reverse, t.length, before⟩ : State).step ',' =
          .ok ⟨.fieldStart, [], 0, t :: before⟩ := by
        show Except.ok (⟨.fieldStart, [], 0, t.reverse.reverse :: before⟩ : State) = _
        rw [List.reverse_reverse]
      have hjoin : joinWith [','] ((t :: t' :: fields).map writeField) =
          writeField t ++ [','] ++ joinWith [','] ((t' :: fields).map writeField) := rfl
      rw [hjoin, List.append_assoc, List.append_assoc,
        readRowsFrom_writeField taken hplace before hshort.1, List.singleton_append,
        readRowsFrom_of_step rfl hcomma,
        ih (.inr rfl) (t :: before) (List.cons_ne_nil _ _) hshort.2, List.reverse_cons,
        List.append_assoc, List.singleton_append]

theorem readRowsFrom_writeRow (taken : List (List Text)) {row : List Text}
    (hshort : ∀ t ∈ row, t.length ≤ fieldLimit) (rest : Text) :
    readRowsFrom taken {} (writeRow row ++ rest) = readRowsFrom (row :: taken) {} rest := by
  rw [writeRow, List.append_assoc, List.singleton_append]
  by_cases hrow : row = []
  · subst hrow
    rfl
  · exact readRowsFrom_fields taken (.inl rfl) [] hrow hshort rest

/-- Written rows are read again. -/
theorem readRows_flatMap_writeRow {rows : List (List Text)}
    (hshort : ∀ row ∈ rows, ∀ t ∈ row, t.length ≤ fieldLimit) :
    readRows (rows.flatMap writeRow) = .ok rows := by
  have hfrom : ∀ taken, readRowsFrom taken {} (rows.flatMap writeRow) =
      .ok (taken.reverse ++ rows) := by
    induction rows with
    | nil => intro taken; simp [readRowsFrom, State.row?]
    | cons row rows ih =>
      intro taken
      rw [List.forall_mem_cons] at hshort
      rw [List.flatMap_cons, readRowsFrom_writeRow taken hshort.1, ih hshort.2, List.reverse_cons,
        List.append_assoc, List.singleton_append]
  exact hfrom []

/-! ### Records -/

/-- Whether a record has a cell in some columns that is not blank. -/
def hasContent (columns : List Text) (r : Record) : Bool :=
  columns.any fun column => !(trim (cellAt r column)).isEmpty

/-- The record that is read of the cells of a record. -/
def trimmedRecord (columns : List Text) (r : Record) : Record :=
  columns.map fun column => (column, .text (trim (cellAt r column)))

theorem isBlankRow_map_cellAt (columns : List Text) (r : Record) :
    isBlankRow (columns.map (cellAt r)) = !hasContent columns r := by
  rw [isBlankRow, hasContent, List.all_map, List.not_any_eq_all_not]
  simp only [Bool.not_not]
  rfl

variable {columns : List Text}

theorem columnNames_of_trimmed (h : ∀ c ∈ columns, c ≠ [] ∧ trim c = c) :
    columnNames columns = columns := by
  have hzip : ∀ p ∈ columns.zipIdx 1, (if (trim p.1).isEmpty then "column_".toList ++ decimal p.2
      else trim p.1) = p.1 := by
    intro p hp
    obtain ⟨hne, htrim⟩ := h p.1 (List.fst_mem_of_mem_zipIdx hp)
    rw [htrim, if_neg (by simpa using hne)]
  rw [columnNames]
  exact (List.map_congr_left hzip).trans (List.zipIdx_map_fst 1 columns)

theorem recordOf_map (hnodup : columns.Nodup) (cell : Text → Text) :
    recordOf columns (columns.map cell) = columns.map fun c => (c, .text (trim (cell c))) := by
  have hcells : (columns.zipIdx.map fun column =>
      (column.1, Value.text (trim ((columns.map cell).getD column.2 [])))) =
      columns.map fun c => (c, .text (trim (cell c))) := by
    refine List.ext_getElem (by simp) fun i h₁ h₂ => ?_
    simp only [List.getElem_map, List.getElem_zipIdx, Nat.zero_add, List.getD_eq_getElem?_getD,
      List.getElem?_map]
    rw [List.getElem?_eq_getElem (by simpa using h₂), Option.map_some, Option.getD_some]
  refine (congrArg fieldsOf hcells).trans (fieldsOf_of_nodup ?_)
  rw [List.map_map]
  exact (List.map_id columns).symm ▸ hnodup

theorem isBlankRow_of_named (hne : columns ≠ []) (h : ∀ c ∈ columns, c ≠ [] ∧ trim c = c) :
    isBlankRow columns = false := by
  obtain ⟨c, columns, rfl⟩ := List.exists_cons_of_ne_nil hne
  obtain ⟨hname, htrim⟩ := h c List.mem_cons_self
  rw [isBlankRow, List.all_cons, htrim, List.isEmpty_eq_false_iff.mpr hname, Bool.false_and]

/-- Of written records those that are not blank are read again, in their order, each with the
trimmed text of its cells under the columns that were written. -/
theorem read_write (hne : columns ≠ []) (hnodup : columns.Nodup)
    (hnames : ∀ c ∈ columns, c ≠ [] ∧ trim c = c ∧ c.length ≤ fieldLimit) {records : List Record}
    (hcells : ∀ r ∈ records, ∀ c ∈ columns, (cellAt r c).length ≤ fieldLimit) :
    read (write columns records) =
      .ok ((records.filter (hasContent columns)).map (trimmedRecord columns)) := by
  have hrows : write columns records =
      (columns :: records.map fun r => columns.map (cellAt r)).flatMap writeRow := by
    rw [write, List.flatMap_cons, List.flatMap_map]
  have hshort : ∀ row ∈ columns :: records.map fun r => columns.map (cellAt r),
      ∀ t ∈ row, t.length ≤ fieldLimit := by
    rw [List.forall_mem_cons]
    refine ⟨fun c hc => (hnames c hc).2.2, fun row hrow t ht => ?_⟩
    obtain ⟨r, hr, rfl⟩ := List.mem_map.mp hrow
    obtain ⟨c, hc, rfl⟩ := List.mem_map.mp ht
    exact hcells r hr c hc
  have hnamed : ∀ c ∈ columns, c ≠ [] ∧ trim c = c := fun c hc =>
    ⟨(hnames c hc).1, (hnames c hc).2.1⟩
  rw [read_eq_map, hrows, readRows_flatMap_writeRow hshort, Except.map, recordsOf,
    List.filter_cons_of_pos (by rw [isBlankRow_of_named hne hnamed]; rfl)]
  dsimp only
  have hfilter : (records.map fun r => columns.map (cellAt r)).filter (!isBlankRow ·) =
      (records.filter (hasContent columns)).map fun r => columns.map (cellAt r) := by
    rw [List.filter_map]
    congr 2
    funext r
    rw [Function.comp_apply, isBlankRow_map_cellAt, Bool.not_not]
  rw [columnNames_of_trimmed hnamed, hfilter, List.map_map, Except.ok.injEq]
  exact List.map_congr_left fun r _ => recordOf_map hnodup (cellAt r)

/-- A record with every kind of character that has a meaning, and a blank one. -/
def markedRecords : List Record :=
  [[("a\n,", .text " x\"\",\r\n\x00y\t"), ("b", .int 7)], [("a\n,", .text "\n"), ("b", .null)]]

theorem read_write_markedRecords :
    read (write ["a\n,", "b", "c"] markedRecords) =
      .ok [[("a\n,", .text "x\"\",\r\n\x00y"), ("b", .text "7"), ("c", .text [])]] := by
  have hcells : ∀ r ∈ markedRecords, ∀ c ∈ ["a\n,".toList, "b".toList, "c".toList],
      (cellAt r c).length ≤ fieldLimit := by decide
  rw [read_write (by decide) (by decide) (by decide) hcells]
  rfl

end SchemaMill.Csv
