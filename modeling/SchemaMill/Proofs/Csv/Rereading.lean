import SchemaMill.Proofs.Csv.RoundTrip
import SchemaMill.Proofs.Text.Numerals

/-!
# Reading again what was read and written

Whether a row is blank is told by all of its fields, and its record has only those under the
columns, of columns of one name only the last. So a row with text beyond the columns, or under a
name that comes again, can give a record without any text. Written, it is a blank row, which is left
out when it is read again. All other records are read again as they are (`read_write_of_read`).
-/

namespace SchemaMill.Csv

/-! ### The length of fields -/

/-- No field that was read so far is longer than the limit. -/
structure State.Short (s : State) : Prop where
  length : s.length = s.field.length
  room : s.length ≤ fieldLimit
  fields : ∀ t ∈ s.fields, t.length ≤ fieldLimit

section Short

variable {s s' : State} {c : Char}

theorem State.Short.initial : ({} : State).Short where
  length := rfl
  room := Nat.zero_le _
  fields := by simp

theorem State.Short.push (h : s.Short) {place : Place} (hpush : s.push place c = .ok s') :
    s'.Short := by
  unfold State.push at hpush
  split at hpush
  · cases hpush
  · next hroom =>
    cases hpush
    exact ⟨congrArg (· + 1) h.length, Nat.not_le.mp hroom, h.fields⟩

theorem State.Short.reverse_field (h : s.Short) : s.field.reverse.length ≤ fieldLimit := by
  rw [List.length_reverse, ← h.length]
  exact h.room

theorem State.Short.endField (h : s.Short) (place : Place) : (s.endField place).Short where
  length := rfl
  room := Nat.zero_le _
  fields := List.forall_mem_cons.mpr ⟨h.reverse_field, h.fields⟩

theorem State.Short.stepPlain (h : s.Short) (hstep : s.stepPlain c = .ok s') : s'.Short := by
  unfold State.stepPlain at hstep
  split at hstep
  · cases hstep
    exact h.endField _
  · split at hstep
    · cases hstep
      exact h.endField _
    · exact h.push hstep

theorem State.Short.step (h : s.Short) (hstep : s.step c = .ok s') : s'.Short := by
  have hmove : ∀ place, ({ s with place } : State).Short := fun place =>
    ⟨h.length, h.room, h.fields⟩
  unfold State.step at hstep
  split at hstep
  · split at hstep
    · cases hstep
      exact hmove _
    · split at hstep
      · cases hstep
        exact hmove _
      · exact h.stepPlain hstep
  · split at hstep
    · cases hstep
      exact hmove _
    · exact h.stepPlain hstep
  · exact h.stepPlain hstep
  · split at hstep
    · cases hstep
      exact hmove _
    · exact h.push hstep
  · split at hstep
    · exact h.push hstep
    · exact h.stepPlain hstep
  · split at hstep
    · cases hstep
      exact h
    · cases hstep

theorem State.Short.row? (h : s.Short) {row : List Text} (hrow : s.row? = some row) :
    ∀ t ∈ row, t.length ≤ fieldLimit := by
  intro t ht
  unfold State.row? at hrow
  split at hrow
  · cases hrow
  · cases hrow
    exact h.fields t (List.mem_reverse.mp ht)
  · cases hrow
    rcases List.mem_cons.mp (List.mem_reverse.mp ht) with rfl | ht
    · exact h.reverse_field
    · exact h.fields t ht

end Short

theorem length_le_of_readRowsFrom {taken rows : List (List Text)} {s : State} (hs : s.Short)
    (htaken : ∀ row ∈ taken, ∀ t ∈ row, t.length ≤ fieldLimit) {t : Text}
    (h : readRowsFrom taken s t = .ok rows) : ∀ row ∈ rows, ∀ t ∈ row, t.length ≤ fieldLimit := by
  induction t generalizing taken s with
  | nil =>
    cases h
    intro row hrow
    rcases List.mem_append.mp (List.mem_reverse.mp hrow) with hrow | hrow
    · exact hs.row? (Option.mem_toList.mp hrow)
    · exact htaken row hrow
  | cons c t ih =>
    rw [readRowsFrom] at h
    split at h
    · refine ih .initial ?_ h
      rw [List.forall_mem_cons]
      refine ⟨?_, htaken⟩
      cases hrow : s.row? with
      | none => simp
      | some row => exact hs.row? hrow
    · split at h
      · cases h
      · next s' hstep => exact ih (hs.step hstep) htaken h

/-! ### Records that are read -/

theorem trim_of_mem_columnNames {header : List Text} {name : Text}
    (h : name ∈ columnNames header) : trim name = name := by
  obtain ⟨⟨given, place⟩, -, rfl⟩ := List.mem_map.mp h
  dsimp only
  split
  · refine trim_of_trimmed (trimmed_of_forall fun c hc => ?_)
    have hlead : ∀ c ∈ "column_".toList, isBlank c = false := by decide
    rcases List.mem_append.mp hc with hc | hc
    · exact hlead c hc
    · exact isBlank_of_isDigit (isDigit_of_mem_decimal hc)
  · exact trim_of_trimmed (trimmed_trim given)

/-- The keys of the records of a text with given columns: those columns, each once. -/
def keysOf (columns : List Text) : List Text :=
  (fieldsOf (columns.map fun column => (column, ()))).map Prod.fst

theorem keysOf_ne_nil {columns : List Text} (h : columns ≠ []) : keysOf columns ≠ [] := by
  obtain ⟨column, columns, rfl⟩ := List.exists_cons_of_ne_nil h
  exact List.ne_nil_of_mem (mem_map_fst_fieldsOf.mpr List.mem_cons_self)

theorem map_fst_recordOf (columns row : List Text) :
    (recordOf columns row).map Prod.fst = keysOf columns := by
  refine map_fst_setFields_congr ?_ rfl
  rw [List.map_map, List.map_map]
  exact (List.zipIdx_map_fst 0 columns).trans (List.map_id columns).symm

theorem length_trim_le (t : Text) : (trim t).length ≤ t.length := by
  have hleft : (trimLeft t).length ≤ t.length := (List.dropWhile_suffix isBlank).length_le
  have hright := (List.dropWhile_suffix isBlank (l := (trimLeft t).reverse)).length_le
  rw [List.length_reverse] at hright
  rw [trim, trimRight, List.length_reverse]
  omega

/-- The values of a record are trimmed texts that are no longer than the fields of its row. -/
theorem value_of_mem_recordOf {columns row : List Text} {f : Text × Value}
    (hrow : ∀ t ∈ row, t.length ≤ fieldLimit) (h : f ∈ recordOf columns row) :
    ∃ t, f.2 = .text t ∧ trim t = t ∧ t.length ≤ fieldLimit := by
  have hf := (mem_of_mem_setFields h).resolve_right List.not_mem_nil
  obtain ⟨⟨column, place⟩, -, rfl⟩ := List.mem_map.mp hf
  refine ⟨_, rfl, trim_of_trimmed (trimmed_trim _), (length_trim_le _).trans ?_⟩
  rw [List.getD_eq_getElem?_getD]
  cases hcell : row[place]? with
  | none => exact Nat.zero_le _
  | some t => exact hrow t (List.mem_of_getElem? hcell)

/-- What is known of the records of a text: they have the same distinct keys, which are names
without blanks around them, and trimmed texts as values. -/
structure AreRead (keys : List Text) (records : List Record) : Prop where
  present : records ≠ [] → keys ≠ []
  nodup : keys.Nodup
  named : ∀ key ∈ keys, key ≠ [] ∧ trim key = key
  keyed : ∀ r ∈ records, r.map Prod.fst = keys
  texts : ∀ r ∈ records, ∀ f ∈ r, ∃ t, f.2 = .text t ∧ trim t = t ∧ t.length ≤ fieldLimit

theorem areRead_of_read {t : Text} {records : List Record} (h : read t = .ok records) :
    ∃ keys, AreRead keys records := by
  rw [read_eq_map] at h
  cases hrows : readRows t with
  | error fault => rw [hrows] at h; cases h
  | ok rows =>
    rw [hrows] at h
    cases h
    have hshort := length_le_of_readRowsFrom .initial (by simp) hrows
    unfold recordsOf
    split
    · exact ⟨[], absurd rfl, List.nodup_nil, by simp, by simp, by simp⟩
    · next header rows' hfilter =>
      have hkeys : keysOf (columnNames header) ⊆ columnNames header := fun key hkey => by
        rw [keysOf, mem_map_fst_fieldsOf, List.map_map] at hkey
        exact (List.map_id (columnNames header)) ▸ hkey
      have hheader : columnNames header ≠ [] := by
        intro hnone
        have hlength := congrArg List.length hnone
        rw [columnNames, List.length_map, List.length_zipIdx] at hlength
        have hmem : header ∈ rows.filter (!isBlankRow ·) := hfilter ▸ List.mem_cons_self
        rw [List.length_eq_zero_iff.mp hlength] at hmem
        exact absurd (List.mem_filter.mp hmem).2 (by decide)
      refine ⟨keysOf (columnNames header), fun _ => keysOf_ne_nil hheader, nodup_fieldsOf _,
        fun key hkey => ⟨?_, ?_⟩, ?_, ?_⟩
      · rintro rfl
        exact nil_notMem_columnNames header (hkeys hkey)
      · exact trim_of_mem_columnNames (hkeys hkey)
      · intro r hr
        obtain ⟨row, -, rfl⟩ := List.mem_map.mp hr
        exact map_fst_recordOf _ row
      · intro r hr
        obtain ⟨row, hrow, rfl⟩ := List.mem_map.mp hr
        have hmem : row ∈ rows :=
          List.mem_of_mem_filter (hfilter ▸ List.mem_cons_of_mem header hrow)
        exact fun f hf => value_of_mem_recordOf (hshort row hmem) hf

/-! ### Reading again -/

/-- Whether any cell of a record has text in it. -/
def hasText (r : Record) : Bool := r.any fun f => !f.2.cell.isEmpty

theorem cell_text (t : Text) : (Value.text t).cell = t := by
  cases t <;> rfl

section Again

variable {keys : List Text} {records : List Record} {r : Record}

theorem AreRead.cellAt_eq (h : AreRead keys records) (hr : r ∈ records) {f : Text × Value}
    (hf : f ∈ r) : ∃ t, cellAt r f.1 = t ∧ f.2 = .text t ∧ trim t = t ∧ t.length ≤ fieldLimit := by
  have hnodup : (r.map Prod.fst).Nodup := (h.keyed r hr).symm ▸ h.nodup
  obtain ⟨t, htext, htrim, hlength⟩ := h.texts r hr f hf
  refine ⟨t, ?_, htext, htrim, hlength⟩
  rw [cellAt, lookup_of_mem hnodup (show (f.1, f.2) ∈ r from hf), Option.getD_some, htext,
    cell_text]

/-- Whether a record has a cell that is not blank is told by its values. -/
theorem AreRead.hasContent_eq (h : AreRead keys records) (hr : r ∈ records) :
    hasContent keys r = hasText r := by
  have hcell : ∀ f ∈ r, trim (cellAt r f.1) = f.2.cell := fun f hf => by
    obtain ⟨t, hcell, htext, htrim, -⟩ := h.cellAt_eq hr hf
    rw [hcell, htrim, htext, cell_text]
  rw [hasContent, hasText, ← h.keyed r hr, List.any_map, Bool.eq_iff_iff, List.any_eq_true,
    List.any_eq_true]
  refine exists_congr fun f => and_congr_right fun hf => ?_
  rw [Function.comp_apply, hcell f hf]

/-- Writing the cells of a record and reading them again gives the record. -/
theorem AreRead.trimmedRecord_eq (h : AreRead keys records) (hr : r ∈ records) :
    trimmedRecord keys r = r := by
  rw [trimmedRecord, ← h.keyed r hr, List.map_map]
  refine (List.map_congr_left fun f hf => ?_).trans (List.map_id r)
  obtain ⟨t, hcell, htext, htrim, -⟩ := h.cellAt_eq hr hf
  rw [Function.comp_apply, hcell, htrim, ← htext]
  rfl

end Again

/-- Of the records of a text, written under their columns, those with any text are read again as
they are, and the others are lost. The names of the columns have to fit into a field, as they do
unless there are so many columns that the number of one without a name is too long. -/
theorem read_write_of_read {t : Text} {records : List Record} (h : read t = .ok records)
    (hnames : ∀ column ∈ recordColumns records, column.length ≤ fieldLimit) :
    read (write (recordColumns records) records) = .ok (records.filter hasText) ∧
      (read (write (recordColumns records) records) = .ok records ↔
        ∀ r ∈ records, hasText r = true) := by
  have hread : read (write (recordColumns records) records) = .ok (records.filter hasText) := by
    obtain ⟨keys, hkeys⟩ := areRead_of_read h
    by_cases hne : records = []
    · subst hne
      rfl
    rw [recordColumns_of_forall hkeys.nodup hne hkeys.keyed] at hnames ⊢
    have hcells : ∀ r ∈ records, ∀ key ∈ keys, (cellAt r key).length ≤ fieldLimit := by
      intro r hr key hkey
      rw [← hkeys.keyed r hr] at hkey
      obtain ⟨f, hf, rfl⟩ := List.mem_map.mp hkey
      obtain ⟨t, hcell, -, -, hlength⟩ := hkeys.cellAt_eq hr hf
      rwa [hcell]
    have hfilter : records.filter (hasContent keys) = records.filter hasText :=
      List.filter_congr fun r hr => hkeys.hasContent_eq hr
    rw [read_write (hkeys.present hne) hkeys.nodup (fun key hkey =>
      ⟨(hkeys.named key hkey).1, (hkeys.named key hkey).2, hnames key hkey⟩) hcells, hfilter]
    refine congrArg Except.ok ((List.map_congr_left fun r hr => ?_).trans (List.map_id _))
    exact hkeys.trimmedRecord_eq (List.mem_of_mem_filter hr)
  refine ⟨hread, ?_⟩
  rw [hread, Except.ok.injEq, List.filter_eq_self]

/-- What is read where a row has text only beyond the columns. -/
def beyondRecords : List Record := [[("a", .text "1")], [("a", .text [])]]

/-- The second record is lost. -/
theorem read_write_of_read_beyondRecords :
    read "a\n1\n,x\n" = .ok beyondRecords ∧
      read (write (recordColumns beyondRecords) beyondRecords) = .ok [[("a", .text "1")]] ∧
      read (write (recordColumns beyondRecords) beyondRecords) ≠ .ok beyondRecords := by
  have hread : read "a\n1\n,x\n" = .ok beyondRecords := rfl
  obtain ⟨hagain, hiff⟩ := read_write_of_read hread (by decide)
  refine ⟨hread, hagain, fun hsame => ?_⟩
  exact absurd (hiff.mp hsame) (by decide)

end SchemaMill.Csv
