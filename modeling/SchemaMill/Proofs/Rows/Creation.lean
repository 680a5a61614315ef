import SchemaMill.Proofs.Rows.Insertion
import SchemaMill.Proofs.Rows.Tidying
import SchemaMill.Proofs.Text.Numerals

/-!
# The names in the two statements for records

The statement that creates a table is tidied after it was generated, quoted names included, and the
one that inserts is not. A quoted name is tidied on its own (`tidyOpen_writePieces`), so the names
that are read from the creation are the tidied names, and `quotedNames?_statementsFor` says exactly
when the two statements name the same table and columns: when every quoted name is tidy as it is.
-/

namespace SchemaMill.Sql

variable {d : Dialect}

/-! ### Reading the names -/

theorem length_readQuoted?_lt {q : Char} {escapes : Bool} {t inside rest : Text}
    (h : readQuoted? q escapes t = some (inside, rest)) : rest.length < t.length := by
  fun_induction readQuoted? q escapes t generalizing inside with
  | case1 => cases h
  | case2 => cases h
  | case3 c hc e t ih =>
    obtain ⟨⟨i, r⟩, hr, h⟩ := Option.map_eq_some_iff.mp h
    cases h
    exact Nat.lt_of_lt_of_le (ih hr) (by simp; omega)
  | case4 => cases h; simp
  | case5 c hc hq e t he ih =>
    obtain ⟨⟨i, r⟩, hr, h⟩ := Option.map_eq_some_iff.mp h
    cases h
    exact Nat.lt_of_lt_of_le (ih hr) (by simp; omega)
  | case6 => cases h; simp
  | case7 c t hc hq ih =>
    obtain ⟨⟨i, r⟩, hr, h⟩ := Option.map_eq_some_iff.mp h
    cases h
    exact Nat.lt_succ_of_lt (ih hr)

/-- The quoted names in a text from left to right, if all quotes are closed. -/
def quotedNames? (d : Dialect) (t : Text) : Option (List Text) :=
  match t with
  | [] => some []
  | c :: rest =>
    if c = d.identifierQuote then
      match _h : readQuoted? d.identifierQuote false rest with
      | some (name, after) => (quotedNames? d after).map (name :: ·)
      | none => none
    else quotedNames? d rest
termination_by t.length
decreasing_by
  · exact Nat.lt_succ_of_lt (length_readQuoted?_lt _h)
  · exact Nat.lt_succ_self _

/-! ### Names with text between them -/

/-- The text in front of the first quoted name, and the quoted names from left to right, each with
the text behind it, if all quotes are closed. -/
def readPieces? (d : Dialect) (t : Text) : Option (Text × List (Text × Text)) :=
  match t with
  | [] => some ([], [])
  | c :: rest =>
    if c = d.identifierQuote then
      match _h : readQuoted? d.identifierQuote false rest with
      | some (name, after) =>
        (readPieces? d after).map fun (behind, pieces) => ([], (name, behind) :: pieces)
      | none => none
    else (readPieces? d rest).map fun (lead, pieces) => (c :: lead, pieces)
termination_by t.length
decreasing_by
  · exact Nat.lt_succ_of_lt (length_readQuoted?_lt _h)
  · exact Nat.lt_succ_self _

theorem quotedNames?_eq (t : Text) :
    quotedNames? d t = (readPieces? d t).map fun (_, pieces) => pieces.map Prod.fst := by
  fun_induction quotedNames? d t with
  | case1 => rw [readPieces?]; rfl
  | case2 rest name after h ih =>
    rw [readPieces?, if_pos rfl, ih]
    split
    · next h' =>
      rw [h] at h'
      cases h'
      simp [Option.map_map, Function.comp_def]
    · next h' =>
      rw [h] at h'
      cases h'
  | case3 rest h =>
    rw [readPieces?, if_pos rfl]
    split
    · next h' =>
      rw [h] at h'
      cases h'
    · rfl
  | case4 c rest hc ih =>
    rw [readPieces?, if_neg hc, ih]
    simp [Option.map_map, Function.comp_def]

/-- The text of quoted names, each with what stands behind it. -/
def writePieces (d : Dialect) (pieces : List (Text × Text)) : Text :=
  pieces.flatMap fun (name, behind) => quotedName d name ++ behind

theorem readPieces?_append {s : Text} (hs : d.identifierQuote ∉ s) (t : Text) :
    readPieces? d (s ++ t) = (readPieces? d t).map fun (lead, pieces) => (s ++ lead, pieces) := by
  induction s with
  | nil => simp
  | cons c s ih =>
    obtain ⟨hc, hs⟩ := not_or.mp (fun h => hs (List.mem_cons.mpr h))
    rw [List.cons_append, readPieces?, if_neg (Ne.symm hc), ih hs]
    simp [Option.map_map, Function.comp_def]

theorem readPieces?_quotedName (name : Text) {rest : Text}
    (hrest : rest.head? ≠ some d.identifierQuote) :
    readPieces? d (quotedName d name ++ rest) =
      (readPieces? d rest).map fun (behind, pieces) => ([], (name, behind) :: pieces) := by
  have htext : quotedName d name ++ rest = d.identifierQuote ::
      (double d.identifierQuote name ++ d.identifierQuote :: rest) := by
    simp [quotedName, Identifier.render]
  rw [htext, readPieces?, if_pos rfl]
  split
  · next h => rw [readQuoted?_double name hrest] at h; cases h; rfl
  · next h => rw [readQuoted?_double name hrest] at h; cases h

/-- Names are read back with what stands behind them if something does, without a quote in it. -/
theorem readPieces?_writePieces {lead : Text} (hlead : d.identifierQuote ∉ lead)
    {pieces : List (Text × Text)} (h : ∀ p ∈ pieces, p.2 ≠ [] ∧ d.identifierQuote ∉ p.2) :
    readPieces? d (lead ++ writePieces d pieces) = some (lead, pieces) := by
  rw [readPieces?_append hlead]
  suffices hpieces : readPieces? d (writePieces d pieces) = some ([], pieces) by
    simp [hpieces]
  clear hlead
  induction pieces with
  | nil => rw [writePieces, List.flatMap_nil, readPieces?]
  | cons p pieces ih =>
    obtain ⟨⟨hne, hq⟩, h⟩ := List.forall_mem_cons.mp h
    obtain ⟨c, behind, hp⟩ := List.exists_cons_of_ne_nil hne
    have hc : c ≠ d.identifierQuote := fun hc => hq (by simp [hp, hc])
    have ih := ih h
    rw [writePieces] at ih ⊢
    rw [List.flatMap_cons, List.append_assoc, readPieces?_quotedName p.1 (by simp [hp, hc]),
      readPieces?_append hq, ih]
    simp

theorem isMark_identifierQuote (d : Dialect) : IsMark d.identifierQuote := by
  cases d <;> constructor <;> decide

theorem double_append (q : Char) (s t : Text) : double q (s ++ t) = double q s ++ double q t := by
  induction s with
  | nil => rfl
  | cons c s ih => by_cases h : c = q <;> simp [double, h, ih]

theorem double_of_notMem {q : Char} {t : Text} (h : q ∉ t) : double q t = t := by
  induction t with
  | nil => rfl
  | cons c t ih =>
    obtain ⟨hc, ht⟩ := not_or.mp (fun h' => h (List.mem_cons.mpr h'))
    simp [double, Ne.symm hc, ih ht]

theorem tidyOpen_nil : tidyOpen [] = [] := by
  rw [tidyOpen, openLines, tidyOpenLines, tidyOpenLine, expandTabs, List.flatMap_nil,
    closeArguments]

theorem tidyOpen_double {q : Char} (hq : IsMark q) (t : Text) :
    tidyOpen (double q t) = double q (tidyOpen t) := by
  induction hn : t.length using Nat.strongRecOn generalizing t with
  | ind n ih =>
    by_cases hmem : q ∈ t
    · -- the text is taken apart at a mark, which is written twice
      obtain ⟨s, u, rfl⟩ := List.append_of_mem hmem
      have hs := ih s.length (by simp at hn; omega) s rfl
      have hu := ih u.length (by simp at hn; omega) u rfl
      have hdouble (v : Text) : double q (q :: v) = q :: ([] ++ q :: double q v) := by simp [double]
      rw [double_append, hdouble, tidyOpen_append hq, tidyOpen_append hq, tidyOpen_nil, hs, hu,
        tidyOpen_append hq, double_append, hdouble]
    · have hopen : q ∉ tidyOpen t := fun h => hmem ((mem_tidyOpen_iff hq.blank).mp h)
      rw [double_of_notMem hmem, double_of_notMem hopen]

theorem tidyOpen_quotedName (s name rest : Text) :
    tidyOpen (s ++ (quotedName d name ++ rest)) =
      tidyOpen s ++ (quotedName d (tidyOpen name) ++ tidyOpen rest) := by
  have hq := isMark_identifierQuote d
  have htext (u n r : Text) : u ++ (quotedName d n ++ r) = u ++ d.identifierQuote ::
      (double d.identifierQuote n ++ d.identifierQuote :: r) := by
    simp [quotedName, Identifier.render]
  rw [htext, tidyOpen_append hq, tidyOpen_append hq, tidyOpen_double hq, htext]

/-- Names with text between them are tidied one by one, and so is the text between them. -/
theorem tidyOpen_writePieces (s : Text) (pieces : List (Text × Text)) :
    tidyOpen (s ++ writePieces d pieces) = tidyOpen s ++
      writePieces d (pieces.map fun (name, behind) => (tidyOpen name, tidyOpen behind)) := by
  induction pieces generalizing s with
  | nil => simp [writePieces]
  | cons p pieces ih =>
    simp only [writePieces, List.map_cons, List.flatMap_cons, List.append_assoc] at ih ⊢
    rw [tidyOpen_quotedName, ih]

theorem tidy_quotedName_iff (d : Dialect) (name : Text) :
    tidy (quotedName d name) = quotedName d name ↔ tidyOpen name = name := by
  have hq := (isMark_identifierQuote d).blank
  have htidy : tidy (quotedName d name) = quotedName d (tidyOpen name) := by
    have hends : quotedName d name =
        (d.identifierQuote :: double d.identifierQuote name) ++ [d.identifierQuote] := by
      simp [quotedName, Identifier.render]
    have h : tidy ([] ++ quotedName d name ++ []) = tidyOpen (quotedName d name) :=
      tidy_eq_tidyOpen (by simp) (by simp) (by rw [hends]; rfl)
        (by rw [hends, List.getLast?_append]; rfl) hq hq
    have hname := tidyOpen_quotedName (d := d) [] name []
    simp only [List.nil_append, List.append_nil, tidyOpen_nil] at h hname
    rw [h, hname]
  rw [htidy]
  constructor
  · intro h
    have hread (n : Text) : readQuotedName? d (quotedName d n ++ []) = some (n, []) :=
      readQuotedName?_quotedName d n (by simp)
    have hsame := hread (tidyOpen name)
    rw [h, hread] at hsame
    exact (Prod.mk.inj (Option.some.inj hsame)).1.symm
  · intro h
    rw [h]

/-! ### The statement that creates a table -/

/-- The columns of a creation, each with what stands behind its name. -/
def columnPieces (d : Dialect) (charset : Text) : List (Text × ColumnType) → List (Text × Text)
  | [] => []
  | [(name, type)] => [(name, ' ' :: typeText d charset type ++ "\n)".toList)]
  | (name, type) :: column :: more =>
    (name, ' ' :: typeText d charset type ++ ", \n\t".toList) ::
      columnPieces d charset (column :: more)

theorem map_fst_columnPieces (charset : Text) (columns : List (Text × ColumnType)) :
    (columnPieces d charset columns).map Prod.fst = columns.map Prod.fst := by
  fun_induction columnPieces d charset columns <;> simp_all

theorem joinWith_columns (charset : Text) {columns : List (Text × ColumnType)} (h : columns ≠ []) :
    joinWith ", \n" (columns.map fun (name, type) =>
      '\t' :: quotedName d name ++ [' '] ++ typeText d charset type) ++ "\n)".toList =
      '\t' :: writePieces d (columnPieces d charset columns) := by
  fun_induction columnPieces d charset columns with
  | case1 => exact absurd rfl h
  | case2 name type => simp [joinWith, writePieces]
  | case3 name type column more ih =>
    have ih := ih (List.cons_ne_nil _ _)
    rw [writePieces] at ih ⊢
    rw [List.map_cons] at ih
    rw [List.map_cons, List.map_cons, joinWith, List.append_assoc, ih]
    · simp
    · simp

/-- The statement that creates a table between its blanks: names with text between them. -/
theorem creationText_eq (charset table : Text) {columns : List (Text × ColumnType)}
    (h : columns ≠ []) : creationText d charset table columns =
      ['\n'] ++ ("CREATE TABLE ".toList ++
        writePieces d ((table, " (\n\t".toList) :: columnPieces d charset columns)) ++
        "\n\n".toList := by
  have hjoin := joinWith_columns (d := d) charset h
  unfold creationText
  rw [show "\n)\n\n".toList = "\n)".toList ++ "\n\n".toList from rfl, ← List.append_assoc,
    List.append_assoc _ (joinWith _ _) _, hjoin]
  simp [writePieces]

theorem notMem_decimalInt {c : Char} (hdigit : c.isDigit = false) (hminus : c ≠ '-') (n : Int) :
    c ∉ decimalInt n := by
  intro h
  obtain hc | hc := mem_decimalInt h
  · rw [hdigit] at hc
    cases hc
  · exact hminus hc

theorem notMem_typeText {charset : Text} (h : d.identifierQuote ∉ charset) (type : ColumnType) :
    d.identifierQuote ∉ typeText d charset type := by
  have hnumber := notMem_decimalInt (c := d.identifierQuote) (by cases d <;> decide)
    (by cases d <;> decide)
  have hencoding : d.identifierQuote ∉ textEncoding charset := by
    have hset : d.identifierQuote ∉ " CHARACTER SET ".toList := by cases d <;> decide
    have hcollate : d.identifierQuote ∉ " COLLATE ".toList := by cases d <;> decide
    have hsuffix : d.identifierQuote ∉ "_unicode_ci".toList := by cases d <;> decide
    unfold textEncoding collationFor
    split <;> simp only [List.mem_append, not_or, List.not_mem_nil, not_false_iff,
      true_and] <;> simp only [hset, hcollate, hsuffix, h, not_false_iff, and_self]
  unfold typeText
  cases type with
  | decimal precision scale =>
    simp only [List.mem_append, not_or]
    exact ⟨⟨⟨⟨by cases d <;> decide, hnumber _⟩, by cases d <;> decide⟩, hnumber _⟩,
      by cases d <;> decide⟩
  | varchar length =>
    simp only [List.mem_append, not_or]
    refine ⟨⟨⟨by cases d <;> decide, hnumber _⟩, by cases d <;> decide⟩, ?_⟩
    cases d with
    | mysql => exact hencoding
    | postgres => exact List.not_mem_nil
  | text =>
    cases d with
    | mysql => exact fun h => (List.mem_append.mp h).elim (by decide) hencoding
    | postgres => dsimp only; decide
  | _ => cases d <;> dsimp only <;> decide

theorem columnPieces_behind {charset : Text} (h : d.identifierQuote ∉ charset)
    (columns : List (Text × ColumnType)) : ∀ p ∈ columnPieces d charset columns,
      (∃ c ∈ p.2, isBlank c = false) ∧ d.identifierQuote ∉ p.2 := by
  have hspace : d.identifierQuote ≠ ' ' := by cases d <;> decide
  have hcomma : d.identifierQuote ∉ ", \n\t".toList := by cases d <;> decide
  have hclose : d.identifierQuote ∉ "\n)".toList := by cases d <;> decide
  fun_induction columnPieces d charset columns with
  | case1 => simp
  | case2 name type =>
    intro p hp
    obtain rfl := List.mem_singleton.mp hp
    refine ⟨⟨')', by simp, by decide⟩, ?_⟩
    simp only [List.cons_append, List.mem_cons, List.mem_append, not_or]
    exact ⟨hspace, notMem_typeText h type, hclose⟩
  | case3 name type column more ih =>
    intro p hp
    rcases List.mem_cons.mp hp with rfl | hp
    · refine ⟨⟨',', by simp, by decide⟩, ?_⟩
      simp only [List.cons_append, List.mem_cons, List.mem_append, not_or]
      exact ⟨hspace, notMem_typeText h type, hcomma⟩
    · exact ih p hp

/-- The names of a creation with what stands behind each of them, as they are tidied. -/
def tidyPieces (d : Dialect) (charset table : Text) (columns : List (Text × ColumnType)) :
    List (Text × Text) :=
  ((table, " (\n\t".toList) :: columnPieces d charset columns).map
    fun (name, behind) => (tidyOpen name, tidyOpen behind)

theorem map_fst_tidyPieces (charset table : Text) (columns : List (Text × ColumnType)) :
    (tidyPieces d charset table columns).map Prod.fst =
      (table :: columns.map Prod.fst).map tidyOpen := by
  rw [tidyPieces, List.map_map, List.map_cons, List.map_cons, ← map_fst_columnPieces charset,
    List.map_map]
  rfl

theorem tidy_creationText (charset table : Text) {columns : List (Text × ColumnType)}
    (h : columns ≠ []) : tidy (creationText d charset table columns) =
      tidyOpen "CREATE TABLE ".toList ++ writePieces d (tidyPieces d charset table columns) := by
  have hjoin := joinWith_columns (d := d) charset h
  have hhead : ("CREATE TABLE ".toList ++ writePieces d ((table, " (\n\t".toList) ::
      columnPieces d charset columns)).head? = some 'C' := by
    rw [List.head?_append, show "CREATE TABLE ".toList.head? = some 'C' by decide, Option.some_or]
  -- the closing parenthesis of the columns stands at the very end
  have hlast : ("CREATE TABLE ".toList ++ writePieces d ((table, " (\n\t".toList) ::
      columnPieces d charset columns)).getLast? = some ')' := by
    have hcolumns := congrArg List.getLast? hjoin
    rw [List.getLast?_append, show "\n)".toList.getLast? = some ')' by decide,
      Option.some_or] at hcolumns
    have htext : "CREATE TABLE ".toList ++ writePieces d ((table, " (\n\t".toList) ::
        columnPieces d charset columns) = "CREATE TABLE ".toList ++ quotedName d table ++
          " (\n".toList ++ '\t' :: writePieces d (columnPieces d charset columns) := by
      simp [writePieces]
    rw [htext, List.getLast?_append, ← hcolumns, Option.some_or]
  rw [creationText_eq charset table h, tidy_eq_tidyOpen (by simp; decide) (by simp; decide) hhead
    hlast (by decide) (by decide), tidyOpen_writePieces, tidyPieces]

/-- The tidied names are read back from a creation with the tidied text behind them. -/
theorem readPieces?_tidy_creationText {charset : Text} (hcharset : d.identifierQuote ∉ charset)
    (table : Text) {columns : List (Text × ColumnType)} (h : columns ≠ []) :
    readPieces? d (tidy (creationText d charset table columns)) =
      some (tidyOpen "CREATE TABLE ".toList, tidyPieces d charset table columns) := by
  have hmark := (isMark_identifierQuote d).blank
  have hlead : d.identifierQuote ∉ tidyOpen "CREATE TABLE ".toList := by
    rw [mem_tidyOpen_iff hmark]
    cases d <;> decide
  have hbehind : ∀ p ∈ (table, " (\n\t".toList) :: columnPieces d charset columns,
      (∃ c ∈ p.2, isBlank c = false) ∧ d.identifierQuote ∉ p.2 :=
    List.forall_mem_cons.mpr ⟨⟨⟨'(', by simp, by decide⟩,
      show d.identifierQuote ∉ " (\n\t".toList by cases d <;> decide⟩,
      columnPieces_behind hcharset columns⟩
  rw [tidy_creationText charset table h]
  refine readPieces?_writePieces hlead fun p hp => ?_
  obtain ⟨p, hmem, rfl⟩ := List.mem_map.mp hp
  obtain ⟨⟨c, hc, hblank⟩, hq⟩ := hbehind p hmem
  exact ⟨List.ne_nil_of_mem ((mem_tidyOpen_iff hblank).mpr hc),
    fun h => hq ((mem_tidyOpen_iff hmark).mp h)⟩

/-- The creation names the tidied table and the tidied columns. -/
theorem quotedNames?_tidy_creationText {charset : Text} (hcharset : d.identifierQuote ∉ charset)
    (table : Text) {columns : List (Text × ColumnType)} (h : columns ≠ []) :
    quotedNames? d (tidy (creationText d charset table columns)) =
      some ((table :: columns.map Prod.fst).map tidyOpen) := by
  rw [quotedNames?_eq, readPieces?_tidy_creationText hcharset table h]
  exact congrArg some (map_fst_tidyPieces charset table columns)

/-- The insertion that is generated for records names the given table and the columns of the
records. The creation names the same table and columns, in the same order, if and only if tidying
leaves every one of their quoted names as it is. -/
theorem quotedNames?_statementsFor {charset : Text} (hcharset : d.identifierQuote ∉ charset)
    (table : Text) {records : List Record} (hcolumns : recordColumns records ≠ [])
    (hnames : [] ∉ recordColumns records) :
    ∃ creation insertion,
      statementsFor d charset table (columnTypes records) records = .ok [creation, insertion] ∧
      (readInsertion? d insertion).map (fun i => i.table :: i.columns) =
        some (table :: recordColumns records) ∧
      (quotedNames? d creation = some (table :: recordColumns records) ↔
        ∀ name ∈ table :: recordColumns records,
          tidy (quotedName d name) = quotedName d name) := by
  have hrecords := ne_nil_of_recordColumns_ne_nil hcolumns
  have htypes : columnTypes records ≠ [] := fun h => hcolumns (by
    rw [← map_fst_columnTypes, h, List.map_nil])
  refine ⟨_, _, (statementsFor_columnTypes d charset table hcolumns).trans (if_neg hnames), ?_, ?_⟩
  · rw [insertionText_eq, readInsertion?_writeInsertion d hcolumns (by simpa using hrecords)]
    · rfl
    · intro row hrow
      obtain ⟨r, -, rfl⟩ := List.mem_map.mp hrow
      simpa using hcolumns
  · rw [quotedNames?_tidy_creationText hcharset table htypes, map_fst_columnTypes, Option.some_inj]
    have hkept := List.map_inj_left (f := tidyOpen) (g := id) (l := table :: recordColumns records)
    simp only [tidy_quotedName_iff]
    rwa [List.map_id] at hkept

/-- Records with a tabulator in the name of one column and a type with two numbers in another. -/
def untidyRecords : List Record :=
  [[("a\tb".toList, .int 1), ("A(1, 2)".toList, .text "x"), ("plain".toList, .null)]]

theorem quotedNames?_statementsFor_untidy :
    Dialect.mysql.identifierQuote ∉ "utf8mb4".toList ∧ recordColumns untidyRecords ≠ [] ∧
    [] ∉ recordColumns untidyRecords ∧
    ∃ creation insertion,
      statementsFor .mysql "utf8mb4" "t" (columnTypes untidyRecords) untidyRecords =
        .ok [creation, insertion] ∧
      (readInsertion? .mysql insertion).map (fun i => i.table :: i.columns) =
        some ("t".toList :: recordColumns untidyRecords) ∧
      quotedNames? .mysql creation ≠ some ("t".toList :: recordColumns untidyRecords) := by
  have hcharset : Dialect.mysql.identifierQuote ∉ "utf8mb4".toList := by decide
  have hcolumns : recordColumns untidyRecords ≠ [] := by decide
  have hnames : [] ∉ recordColumns untidyRecords := by decide
  obtain ⟨creation, insertion, hstatements, hread, hiff⟩ :=
    quotedNames?_statementsFor hcharset "t".toList hcolumns hnames
  refine ⟨hcharset, hcolumns, hnames, creation, insertion, hstatements, hread, fun h => ?_⟩
  have htab := hiff.mp h "a\tb".toList (by decide)
  rw [tidy_quotedName_iff] at htab
  exact absurd htab (by
    simp [tidyOpen, openLines, tidyOpenLines, tidyOpenLine, expandTabs, closeArguments_cons,
      argumentsAfter?, typeArguments?, closeArguments, isLineBreak])

end SchemaMill.Sql
