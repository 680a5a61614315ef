import SchemaMill.Proofs.Profile.Types
import SchemaMill.Proofs.Rows.Creation

/-!
# How wide the text columns of a creation are

The statement that creates a table gives a text column a number of characters
(`varcharWidth?_typeText`), and the statement that fills the table is generated on its own. Both go
back to the same records: a column stores the texts of the values that its type was found from
(`mem_storedTexts`), and the number is the length of the longest of them. So every number that is
declared is the least one that the stored texts fit in (`fitTightly_statementsFor`).
-/

namespace SchemaMill.Sql

variable {d : Dialect} {charset column : Text} {records : List Record}

/-! ### Reading a width -/

/-- The number of characters in a column that is declared as `VARCHAR`, read from what stands behind
the name of the column. Blanks do not matter. -/
def varcharWidth? (behind : Text) : Option Nat := do
  let afterParen ← dropPrefix? "VARCHAR(" (solid behind)
  let (digits, rest) ← takeNumber? afterParen
  let _ ← dropPrefix? ")" rest
  some (digitsValue digits)

theorem solid_decimalInt (n : Int) : solid (decimalInt n) = decimalInt n := by
  refine List.filter_eq_self.mpr fun c hc => ?_
  obtain hdigit | rfl := mem_decimalInt hc
  · simp [isBlank_of_isDigit hdigit]
  · decide

theorem takeNumber?_decimal (n : Nat) {c : Char} (hc : isDecimalDigit c = false) (rest : Text) :
    takeNumber? (decimal n ++ c :: rest) = some (decimal n, c :: rest) :=
  takeNumber?_append ⟨decimal_ne_nil n, fun _ he => isDecimalDigit_of_mem_decimal he⟩ hc rest

theorem varcharWidth?_eq_none {c : Char} {t behind : Text} (hc : c ≠ 'V')
    (h : solid behind = c :: t) : varcharWidth? behind = none := by
  have hnone : dropPrefix? "VARCHAR(" (c :: t) = none := if_neg (Ne.symm hc)
  rw [varcharWidth?, h, hnone]
  rfl

theorem varcharWidth?_varchar {behind rest : Text} {n : Nat}
    (h : solid behind = "VARCHAR(".toList ++ (decimal n ++ ')' :: rest)) :
    varcharWidth? behind = some n := by
  have hnumber := takeNumber?_decimal n (c := ')') (by decide) rest
  have hclose : dropPrefix? ")" (')' :: rest) = some rest := rfl
  rw [varcharWidth?, h, dropPrefix?_append, Option.bind_eq_bind, Option.bind_some, hnumber,
    Option.bind_eq_bind, Option.bind_some]
  dsimp only
  rw [hclose, Option.bind_some, digitsValue_decimal]

theorem solid_typeText_varchar (d : Dialect) (charset : Text) (length : Int) : ∃ more,
    solid (typeText d charset (.varchar length)) =
      "VARCHAR(".toList ++ (decimalInt (orUsual 255 length) ++ ')' :: more) := by
  obtain ⟨more, hmore⟩ : ∃ more, typeText d charset (.varchar length) =
      "VARCHAR(".toList ++ decimalInt (orUsual 255 length) ++ [')'] ++ more := by
    cases d
    · exact ⟨textEncoding charset, rfl⟩
    · exact ⟨[], rfl⟩
  refine ⟨solid more, ?_⟩
  rw [hmore, solid_append, solid_append, solid_append, solid_decimalInt, List.append_assoc,
    List.append_assoc]
  rfl

/-- Of the types of columns only one gives a width: that of texts with a length, whose length it
is. -/
theorem varcharWidth?_typeText (type : ColumnType) (behind : Text) {n : Nat} :
    varcharWidth? (tidyOpen (' ' :: typeText d charset type ++ behind)) = some n ↔
      ∃ length, type = .varchar length ∧ orUsual 255 length = n := by
  have hsolid : solid (tidyOpen (' ' :: typeText d charset type ++ behind)) =
      solid (typeText d charset type) ++ solid behind := by
    rw [solid_tidyOpen, List.cons_append, solid_cons_of_isBlank (by decide), solid_append]
  have hother {c : Char} {t : Text} (hc : c ≠ 'V') (h : ∀ length, type ≠ .varchar length)
      (ht : solid (typeText d charset type) = c :: t) :
      varcharWidth? (tidyOpen (' ' :: typeText d charset type ++ behind)) = some n ↔
        ∃ length, type = .varchar length ∧ orUsual 255 length = n := by
    rw [varcharWidth?_eq_none hc (by rw [hsolid, ht]; rfl)]
    exact iff_of_false nofun fun ⟨length, heq, _⟩ => h length heq
  cases type with
  | varchar length =>
    obtain ⟨more, hmore⟩ := solid_typeText_varchar d charset length
    rw [hmore, List.append_assoc, List.append_assoc] at hsolid
    cases hlength : orUsual 255 length with
    | ofNat k =>
      rw [hlength] at hsolid
      rw [varcharWidth?_varchar hsolid]
      simp [hlength]
    | negSucc k =>
      have hnone : varcharWidth?
          (tidyOpen (' ' :: typeText d charset (.varchar length) ++ behind)) = none := by
        rw [varcharWidth?, hsolid, hlength, dropPrefix?_append]
        rfl
      rw [hnone]
      simp [hlength]
  | decimal precision scale =>
    cases d
    · exact hother (c := 'D') (by decide) nofun rfl
    · exact hother (c := 'N') (by decide) nofun rfl
  | text => cases d <;> exact hother (c := 'T') (by decide) nofun rfl
  | _ => cases d <;> exact hother (by decide) nofun rfl

/-! ### The columns of a creation -/

theorem getElem?_columnPieces {columns : List (Text × ColumnType)} {i : Nat} {p : Text × Text}
    (h : (columnPieces d charset columns)[i]? = some p) :
    ∃ type rest, columns[i]? = some (p.1, type) ∧
      p.2 = ' ' :: typeText d charset type ++ rest := by
  fun_induction columnPieces d charset columns generalizing i with
  | case1 => simp at h
  | case2 name type =>
    cases i with
    | zero =>
      obtain rfl := Option.some.inj h
      exact ⟨type, _, rfl, rfl⟩
    | succ i => simp at h
  | case3 name type column more ih =>
    cases i with
    | zero =>
      obtain rfl := Option.some.inj h
      exact ⟨type, _, rfl, rfl⟩
    | succ i => exact ih h

/-! ### The values of a column -/

/-- A column of a record stores the text of its value unless the value is empty. -/
theorem stored?_eq_some_iff {r : Record} (hr : (r.map Prod.fst).Nodup) {t : Text} :
    stored? r column = some t ↔ ∃ v, (column, v) ∈ r ∧ v.isEmpty = false ∧ v.render = t := by
  have hlookup : ∀ v, r.lookup column = some v ↔ (column, v) ∈ r := fun v =>
    ⟨fun h => by
      obtain ⟨before, after, rfl, -⟩ := List.lookup_eq_some_iff.mp h
      simp, lookup_of_mem hr⟩
  unfold stored?
  cases hcolumn : r.lookup column with
  | none =>
    refine iff_of_false nofun fun ⟨v, hv, _⟩ => ?_
    rw [(hlookup v).mpr hv] at hcolumn
    cases hcolumn
  | some v =>
    have hv : ∀ w, (column, w) ∈ r ↔ w = v := fun w => by rw [← hlookup, hcolumn]; simp [eq_comm]
    cases hempty : v.isEmpty <;> simp [hv, hempty]

theorem render_ne_nil {v : Value} (hempty : v.isEmpty = false) (hnumber : v.number? = none) :
    v.render ≠ [] := by
  cases v with
  | null => cases hempty
  | bool b => cases b <;> simp [Value.render]
  | int n =>
    cases n with
    | ofNat m => exact decimal_ne_nil m
    | negSucc m => exact List.cons_ne_nil _ _
  | double x =>
    cases x with
    | finite => cases hnumber
    | infinite negative => cases negative <;> simp [Value.render, Double.isIntegral, Double.text]
    | nan => simp [Value.render, Double.isIntegral, Double.text]
  | text t =>
    cases t with
    | nil => cases hempty
    | cons c t => exact List.cons_ne_nil c t
  | array items => exact List.cons_ne_nil _ _
  | object fields => exact List.cons_ne_nil _ _

/-- The texts that rows store in a column, which is given by its place. -/
def storedTexts (rows : List (List (Option Text))) (place : Nat) : List Text :=
  rows.filterMap fun row => row[place]?.join

/-- The texts that records store in a column are those of its values that are not empty. -/
theorem mem_storedTexts (hkeys : ∀ r ∈ records, (r.map Prod.fst).Nodup) {place : Nat}
    (hcolumn : (recordColumns records)[place]? = some column) {t : Text} :
    t ∈ storedTexts (records.map fun r => (recordColumns records).map (stored? r)) place ↔
      ∃ v ∈ columnValues column records, v.render = t := by
  have hstored (r : Record) : (((recordColumns records).map (stored? r))[place]?).join =
      stored? r column := by
    rw [List.getElem?_map, hcolumn]
    rfl
  simp only [storedTexts, List.mem_filterMap, List.mem_map, exists_exists_and_eq_and, hstored,
    mem_columnValues]
  constructor
  · rintro ⟨r, hr, ht⟩
    obtain ⟨v, hv, hempty, rfl⟩ := (stored?_eq_some_iff (hkeys r hr)).mp ht
    exact ⟨v, ⟨hempty, r, hr, hv⟩, rfl⟩
  · rintro ⟨v, ⟨hempty, r, hr, hv⟩, rfl⟩
    exact ⟨r, hr, (stored?_eq_some_iff (hkeys r hr)).mpr ⟨v, hv, hempty, rfl⟩⟩

/-- Texts fit in a number of characters, and in no smaller one. -/
def FitTightly (texts : List Text) (n : Nat) : Prop :=
  (∀ t ∈ texts, t.length ≤ n) ∧ ∃ t ∈ texts, t.length = n

/-- The texts of a column fit tightly in the length that its type has. -/
theorem fitTightly_storedTexts (hkeys : ∀ r ∈ records, (r.map Prod.fst).Nodup) {place n : Nat}
    {length : Int} (htype : (columnTypes records)[place]? = some (column, .varchar length))
    (hn : orUsual 255 length = n) :
    1 ≤ n ∧ n ≤ 255 ∧
      FitTightly (storedTexts (records.map fun r => (recordColumns records).map (stored? r)) place)
        n := by
  have hnodup : ((columnTypes records).map Prod.fst).Nodup := by
    rw [map_fst_columnTypes]
    exact nodup_fieldsOf _
  have hcolumn : (recordColumns records)[place]? = some column := by
    rw [← map_fst_columnTypes, List.getElem?_map, htype]
    rfl
  obtain ⟨-, htexts, hlimit, rfl⟩ := lookup_columnTypes_eq_some_iff.mp <|
    lookup_of_mem hnodup (List.mem_of_getElem? htype)
  obtain ⟨w, hw, hnumber⟩ := htexts.notNumbers
  have hpos : 1 ≤ longest (columnValues column records) :=
    Nat.lt_of_lt_of_le
      (List.length_pos_iff.mpr (render_ne_nil (mem_columnValues.mp hw).1 hnumber))
      (length_render_le_longest hw)
  obtain rfl : n = longest (columnValues column records) := by
    rw [orUsual, if_neg (by simp; omega)] at hn
    exact_mod_cast hn.symm
  have hmem := fun t => mem_storedTexts hkeys hcolumn (t := t)
  refine ⟨hpos, hlimit, fun t ht => ?_, ?_⟩
  · obtain ⟨v, hv, rfl⟩ := (hmem t).mp ht
    exact length_render_le_longest hv
  · obtain ⟨v, hv, hlength⟩ := exists_length_eq_longest (List.ne_nil_of_mem hw)
    exact ⟨v.render, (hmem _).mpr ⟨v, hv, rfl⟩, hlength⟩

/-! ### The two statements -/

/-- In the two statements for records, each column that is declared as `VARCHAR` has between 1 and
255 characters, and the texts that the rows store in it fit in so many and in no fewer. The columns
that are declared are those of the insertion, in the same order and but for the blanks in their
names, and they are read back from the creation if the name of the character set has no quote in
it. -/
theorem fitTightly_statementsFor {table creation insertion : Text}
    (hkeys : ∀ r ∈ records, (r.map Prod.fst).Nodup)
    (h : statementsFor d charset table (columnTypes records) records =
      .ok [creation, insertion]) :
    ∃ lead head declared rows,
      creation = lead ++ writePieces d (head :: declared) ∧
      (d.identifierQuote ∉ charset →
        readPieces? d creation = some (lead, head :: declared)) ∧
      (head :: declared).map (fun p => solid p.1) = (table :: recordColumns records).map solid ∧
      readInsertion? d insertion = some ⟨table, recordColumns records, rows⟩ ∧
      ∀ place p n, declared[place]? = some p → varcharWidth? p.2 = some n →
        1 ≤ n ∧ n ≤ 255 ∧ FitTightly (storedTexts rows place) n := by
  have hcolumns : recordColumns records ≠ [] := by
    intro hnil
    have hnone : columnTypes records = [] := by
      rw [← List.map_eq_nil_iff (f := Prod.fst), map_fst_columnTypes, hnil]
    simp [statementsFor, hnone] at h
  have htypes := columnTypes_ne_nil hcolumns
  rw [statementsFor_columnTypes d charset table hcolumns] at h
  split at h
  · cases h
  obtain ⟨rfl, rfl⟩ : _ = creation ∧ _ = insertion := by simpa using h
  refine ⟨_, _, _, records.map fun r => (recordColumns records).map (stored? r),
    tidy_creationText charset table htypes,
    fun hcharset => readPieces?_tidy_creationText hcharset table htypes, ?_, ?_, ?_⟩
  · have hnames := congrArg (List.map solid) (map_fst_tidyPieces (d := d) charset table
      (columnTypes records))
    rw [map_fst_columnTypes, List.map_map, List.map_map] at hnames
    exact hnames.trans (List.map_congr_left fun name _ => solid_tidyOpen name)
  · rw [insertionText_eq]
    refine readInsertion?_writeInsertion d hcolumns
      (by simpa using ne_nil_of_recordColumns_ne_nil hcolumns) fun row hrow => ?_
    obtain ⟨r, -, rfl⟩ := List.mem_map.mp hrow
    simpa using hcolumns
  · intro place p n hp hn
    rw [List.getElem?_map] at hp
    obtain ⟨q, hq, rfl⟩ := Option.map_eq_some_iff.mp hp
    obtain ⟨type, rest, htype, hbehind⟩ := getElem?_columnPieces hq
    dsimp only at hn
    rw [hbehind, varcharWidth?_typeText] at hn
    obtain ⟨length, rfl, hlength⟩ := hn
    exact fitTightly_storedTexts hkeys htype hlength

/-- The first column of the two records is declared with six characters, which its only text has. -/
theorem fitTightly_statementsFor_hostile :
    (∀ r ∈ hostileRecords, (r.map Prod.fst).Nodup) ∧
      ∃ creation insertion lead head p declared rows,
        statementsFor .mysql "utf8mb4" "t" (columnTypes hostileRecords) hostileRecords =
          .ok [creation, insertion] ∧
        readPieces? .mysql creation = some (lead, head :: p :: declared) ∧
        readInsertion? .mysql insertion = some ⟨"t", recordColumns hostileRecords, rows⟩ ∧
        varcharWidth? p.2 = some 6 ∧ FitTightly (storedTexts rows 0) 6 := by
  have hkeys : ∀ r ∈ hostileRecords, (r.map Prod.fst).Nodup := by decide
  have hcharset : Dialect.mysql.identifierQuote ∉ "utf8mb4".toList := by decide
  have htypes : columnTypes hostileRecords = [("a".toList, .varchar 6), ("b".toList, .varchar 1),
      ("c".toList, .tinyint)] := by decide +kernel
  have hcolumns : recordColumns hostileRecords ≠ [] := by decide
  have hstatements := (statementsFor_columnTypes .mysql "utf8mb4" "t" hcolumns).trans
    (if_neg (by decide))
  obtain ⟨lead, head, declared, rows, -, hpieces, -, hinsertion, hfit⟩ :=
    fitTightly_statementsFor hkeys hstatements
  have hread := hpieces hcharset
  obtain ⟨-, hdeclared⟩ := Prod.mk.inj <| Option.some.inj <|
    hread.symm.trans (readPieces?_tidy_creationText hcharset "t" (by rw [htypes]; nofun))
  rw [htypes] at hdeclared
  obtain ⟨-, rfl⟩ := List.cons.inj hdeclared
  have hwidth : varcharWidth? (tidyOpen (' ' :: typeText .mysql "utf8mb4" (.varchar 6) ++
      ", \n\t".toList)) = some 6 := (varcharWidth?_typeText _ _).mpr ⟨6, rfl, rfl⟩
  exact ⟨hkeys, _, _, lead, head, _, _, rows, hstatements, hread, hinsertion, hwidth,
    (hfit 0 _ 6 rfl hwidth).2.2⟩

end SchemaMill.Sql
