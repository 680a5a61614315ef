import SchemaMill.Proofs.Csv.Rereading

/-!
# Names of columns

A blank cell of a header is named by its place. These names differ from each other, so columns with
one name come from cells that have one name or from a cell that has the name made for a blank one
(`nodup_columnNames_iff`). A header of `column_2` and a blank cell names both of its columns
`column_2`, and of the cells below them only the last one is kept (`nodup_columnNames_of_read`).
-/

namespace SchemaMill.Csv

variable {header columns row : List Text}

/-! ### Names that are given and names that are made -/

/-- The name that is made for a blank cell at a place of the header. -/
def placeName (place : Nat) : Text := "column_".toList ++ decimal place

/-- The names that the cells of a header have themselves, in their order. -/
def givenNames (header : List Text) : List Text := (header.map trim).filter (!·.isEmpty)

/-- The names that are made for the blank cells of a header, in their order. -/
def madeNames (header : List Text) : List Text :=
  ((header.zipIdx 1).filter fun cell => (trim cell.1).isEmpty).map fun cell => placeName cell.2

theorem placeName_inj {m n : Nat} (h : placeName m = placeName n) : m = n := by
  have hdigits : decimal m = decimal n := List.append_cancel_left h
  rw [← digitsValue_decimal m, hdigits, digitsValue_decimal]

theorem nodup_madeNames (header : List Text) : (madeNames header).Nodup := by
  have hplaces : ((header.zipIdx 1).map Prod.snd).Nodup := by
    rw [List.zipIdx_map_snd]
    exact List.nodup_range'
  have hblank := hplaces.sublist <| (List.filter_sublist
    (p := fun cell => (trim cell.1).isEmpty)).map Prod.snd
  have hnames := hblank.map (f := placeName) fun _ _ => placeName_inj
  rwa [List.map_map] at hnames

/-- Every column has a name that its cell has or a name that is made for it. -/
theorem columnNames_perm (header : List Text) :
    (columnNames header).Perm (givenNames header ++ madeNames header) := by
  have hmade : ∀ cell ∈ (header.zipIdx 1).filter fun cell => (trim cell.1).isEmpty,
      (if (trim cell.1).isEmpty then placeName cell.2 else trim cell.1) = placeName cell.2 :=
    fun cell h => if_pos (List.mem_filter.mp h).2
  have hgiven : ∀ cell ∈ (header.zipIdx 1).filter fun cell => !(trim cell.1).isEmpty,
      (if (trim cell.1).isEmpty then placeName cell.2 else trim cell.1) = trim cell.1 :=
    fun cell h => if_neg (by simpa using (List.mem_filter.mp h).2)
  have hnames : givenNames header =
      ((header.zipIdx 1).filter fun cell => !(trim cell.1).isEmpty).map
        fun cell => trim cell.1 := by
    have hcells : header.map trim = (header.zipIdx 1).map fun cell => trim cell.1 := by
      conv => lhs; rw [← List.zipIdx_map_fst 1 header, List.map_map]
      rfl
    rw [givenNames, hcells, List.filter_map]
    rfl
  have hparts := ((List.filter_append_perm (fun cell : Text × Nat => (trim cell.1).isEmpty)
    (header.zipIdx 1)).map fun cell =>
      if (trim cell.1).isEmpty then placeName cell.2 else trim cell.1).symm
  rw [List.map_append, List.map_congr_left hmade, List.map_congr_left hgiven, ← hnames] at hparts
  exact hparts.trans List.perm_append_comm

/-- Columns have different names if their cells do, unless a cell has the name that is made for a
blank one. -/
theorem nodup_columnNames_iff :
    (columnNames header).Nodup ↔
      (givenNames header).Nodup ∧ ∀ name ∈ givenNames header, name ∉ madeNames header := by
  rw [(columnNames_perm header).nodup_iff, List.nodup_append]
  have hmade := nodup_madeNames header
  constructor
  · rintro ⟨hgiven, -, hdisjoint⟩
    exact ⟨hgiven, fun name hname hmem => hdisjoint name hname name hmem rfl⟩
  · rintro ⟨hgiven, hdisjoint⟩
    refine ⟨hgiven, hmade, ?_⟩
    rintro name hname _ hmem rfl
    exact hdisjoint name hname hmem

/-! ### Records -/

/-- The field of every column with its cell of a row, which is trimmed, and empty behind the end of
the row. -/
def cellsUnder (columns row : List Text) : Record :=
  columns.zipIdx.map fun (column, place) => (column, .text (trim (row.getD place [])))

theorem recordOf_of_nodup (h : columns.Nodup) (row : List Text) :
    recordOf columns row = cellsUnder columns row := by
  refine fieldsOf_of_nodup ?_
  have hkeys : (cellsUnder columns row).map Prod.fst = columns := by
    rw [cellsUnder, List.map_map]
    exact List.zipIdx_map_fst 0 columns
  exact hkeys.symm ▸ h

/-- Of columns with one name a record has one field only. -/
theorem length_recordOf_lt (h : ¬columns.Nodup) (row : List Text) :
    (recordOf columns row).length < columns.length := by
  have hkeys : keysOf columns = (recordOf columns row).map Prod.fst :=
    (map_fst_recordOf columns row).symm
  have hnodup : (keysOf columns).Nodup := nodup_fieldsOf _
  have hsubperm : (keysOf columns).Subperm columns :=
    hnodup.subperm (hkeys ▸ map_fst_recordOf_subset columns row)
  have hlength : (recordOf columns row).length = (keysOf columns).length := by
    rw [hkeys, List.length_map]
  rw [hlength]
  refine lt_of_le_of_ne hsubperm.length_le fun heq => h ?_
  exact (hsubperm.perm_of_length_le heq.ge).nodup_iff.mp hnodup

theorem lookup_recordOf (columns row : List Text) (name : Text) :
    (recordOf columns row).lookup name = (cellsUnder columns row).reverse.lookup name :=
  lookup_fieldsOf _ name

/-- Where the cells of the header of a text have different names, so do the columns exactly if no
cell has the name that is made for a blank one. Then every record has one field for each cell of the
header, with the cell of its row. Otherwise every record has fewer fields than the header has cells,
and under a name that comes again it has the last of its cells. -/
theorem nodup_columnNames_of_read {t : Text} {rows body : List (List Text)}
    (hrows : readRows t = .ok rows) (hheader : rows.filter (!isBlankRow ·) = header :: body)
    (hgiven : (givenNames header).Nodup) :
    read t = .ok (body.map (recordOf (columnNames header))) ∧
      ((columnNames header).Nodup ↔ ∀ name ∈ givenNames header, name ∉ madeNames header) ∧
      ((columnNames header).Nodup → ∀ row,
        recordOf (columnNames header) row = cellsUnder (columnNames header) row) ∧
      (¬(columnNames header).Nodup → ∀ row,
        (recordOf (columnNames header) row).length < header.length ∧
          ∀ name, (recordOf (columnNames header) row).lookup name =
            (cellsUnder (columnNames header) row).reverse.lookup name) := by
  have hread : read t = .ok (body.map (recordOf (columnNames header))) := by
    rw [read_eq_map, hrows, Except.map, recordsOf, hheader]
  have hlength : (columnNames header).length = header.length := by
    rw [columnNames, List.length_map, List.length_zipIdx]
  refine ⟨hread, ?_, fun h row => recordOf_of_nodup h row, fun h row => ⟨?_, ?_⟩⟩
  · rw [nodup_columnNames_iff, and_iff_right hgiven]
  · exact hlength ▸ length_recordOf_lt h row
  · exact lookup_recordOf _ row

/-- A header whose second cell is blank. -/
def openHeader : List Text := ["id", []]

/-- The same with a first cell that has the name made for the second one. -/
def takenHeader : List Text := ["column_2", []]

/-- A row with two cells. -/
def fullRow : List Text := ["1", "x"]

/-- Below the first header both cells are kept, below the second one the first of them is lost. -/
theorem nodup_columnNames_of_read_takenHeader :
    (givenNames openHeader).Nodup ∧ (columnNames openHeader).Nodup ∧
        read "id,\n1,x\n" = .ok [[("id", .text "1"), ("column_2", .text "x")]] ∧
      (givenNames takenHeader).Nodup ∧ ¬(columnNames takenHeader).Nodup ∧
        read "column_2,\n1,x\n" = .ok [[("column_2", .text "x")]] := by
  have hopen : readRows "id,\n1,x\n" = .ok [openHeader, fullRow] := rfl
  have htaken : readRows "column_2,\n1,x\n" = .ok [takenHeader, fullRow] := rfl
  have hheader : [openHeader, fullRow].filter (!isBlankRow ·) = openHeader :: [fullRow] := rfl
  have hheader' : [takenHeader, fullRow].filter (!isBlankRow ·) = takenHeader :: [fullRow] := rfl
  obtain ⟨hread, hnodup, hcells, -⟩ := nodup_columnNames_of_read hopen hheader (by decide)
  obtain ⟨hread', hnodup', -, -⟩ := nodup_columnNames_of_read htaken hheader' (by decide)
  have hdistinct : (columnNames openHeader).Nodup := hnodup.mpr (by decide)
  refine ⟨by decide, hdistinct, ?_, by decide, ?_, hread'⟩
  · rw [hread, List.map_singleton, hcells hdistinct]
    rfl
  · rw [hnodup']
    decide

end SchemaMill.Csv
