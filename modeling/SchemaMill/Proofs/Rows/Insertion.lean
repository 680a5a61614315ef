import SchemaMill.Profile.Basic
import SchemaMill.Sql.Creation
import SchemaMill.Value.Basic

/-!
# What an insertion holds

A quoted text is read to its closing quote: a quote written twice is one quote, and where
backslashes escape, a backslash stands for the character after it. What the rules of a dialect read
from a quoted name or from a literal is the name or the text it was made from, whatever characters
are in it, provided that no further quote follows.

The statement that inserts records is read with the rules of its dialect: a table, the names of
columns in parentheses, and rows of values in parentheses. `readItems?_joinWith` carries the result:
items that can be read back one by one can be read back as a list, since a comma or a closing
parenthesis never goes on a name or a value.

`readInsertion?_statementsFor` says that what is read is the table, the columns of the records, and
one row of one value per column for each record.
-/

namespace SchemaMill.Sql

/-! ### Names and literals -/

section Quotes

/-- The text from behind an opening quote to the closing one, and what follows it. -/
def readQuoted? (q : Char) (escapes : Bool) : Text → Option (Text × Text)
  | [] => none
  | c :: rest =>
    if escapes && c == '\\' then
      match rest with
      | [] => none
      | e :: rest => (readQuoted? q escapes rest).map fun (inside, after) => (e :: inside, after)
    else if c == q then
      match rest with
      | [] => some ([], [])
      | e :: rest =>
        if e == q then
          (readQuoted? q escapes rest).map fun (inside, after) => (q :: inside, after)
        else some ([], e :: rest)
    else (readQuoted? q escapes rest).map fun (inside, after) => (c :: inside, after)

/-- A quoted name at the start of a text, and what follows it. -/
def readQuotedName? (d : Dialect) (t : Text) : Option (Text × Text) := do
  let inside ← dropPrefix? [d.identifierQuote] t
  readQuoted? d.identifierQuote false inside

/-- Whether a backslash in a literal escapes the character after it. -/
def Dialect.escapesInLiterals : Dialect → Bool
  | .mysql => true
  | .postgres => false

/-- A value at the start of a text, and what follows it: `NULL`, which holds no text, or a text
literal. -/
def readValue? (d : Dialect) (t : Text) : Option (Option Text × Text) :=
  match dropPrefix? "NULL" t with
  | some after => some (none, after)
  | none => do
    let inside ← dropPrefix? ['\''] t
    let (value, after) ← readQuoted? '\'' d.escapesInLiterals inside
    some (some value, after)

variable {q c : Char} {t rest : Text}

theorem dropPrefix?_append (lead t : Text) : dropPrefix? lead (lead ++ t) = some t :=
  dropPrefix?_eq_some_iff.mpr rfl

theorem readQuoted?_close {escapes : Bool} (hq : (escapes && q == '\\') = false)
    (hrest : rest.head? ≠ some q) : readQuoted? q escapes (q :: rest) = some ([], rest) := by
  cases rest with
  | nil => simp [readQuoted?, hq]
  | cons e rest =>
    have he : e ≠ q := fun h => hrest (by simp [h])
    simp [readQuoted?, hq, he]

theorem readQuoted?_cons {escapes : Bool} (hc : c ≠ q) (hback : (escapes && c == '\\') = false)
    (t : Text) : readQuoted? q escapes (c :: t) =
      (readQuoted? q escapes t).map fun (inside, after) => (c :: inside, after) := by
  rw [readQuoted?.eq_def]
  simp [hc, hback]

/-- A text in which each quote is written twice ends at the first single quote. -/
theorem readQuoted?_double (t : Text) (hrest : rest.head? ≠ some q) :
    readQuoted? q false (double q t ++ q :: rest) = some (t, rest) := by
  induction t with
  | nil => exact readQuoted?_close rfl hrest
  | cons c t ih =>
    by_cases hc : c = q
    · simp [double, readQuoted?, hc, ih]
    · simp [double, readQuoted?_cons, hc, ih]

/-- A text in which each quote and then each backslash is written twice ends at the first single
quote that no backslash escapes. -/
theorem readQuoted?_double_double (t : Text) (hrest : rest.head? ≠ some '\'') :
    readQuoted? '\'' true (double '\\' (double '\'' t) ++ '\'' :: rest) = some (t, rest) := by
  induction t with
  | nil => exact readQuoted?_close rfl hrest
  | cons c t ih =>
    by_cases hquote : c = '\''
    · simp [double, readQuoted?, hquote, ih]
    · by_cases hback : c = '\\'
      · simp [double, readQuoted?, hback, ih]
      · simp [double, readQuoted?_cons, hquote, hback, ih]

theorem readQuotedName?_quotedName (d : Dialect) (name : Text)
    (hrest : rest.head? ≠ some d.identifierQuote) :
    readQuotedName? d (quotedName d name ++ rest) = some (name, rest) := by
  have hread := readQuoted?_double name hrest
  simp [readQuotedName?, quotedName, Identifier.render, dropPrefix?, hread]

theorem readValue?_storedLiteral (d : Dialect) (value : Option Text)
    (hrest : rest.head? ≠ some '\'') :
    readValue? d (storedLiteral d value ++ rest) = some (value, rest) := by
  cases value with
  | none => rw [readValue?, storedLiteral, dropPrefix?_append]
  | some t =>
    cases d with
    | mysql =>
      have hread := readQuoted?_double_double t hrest
      simp [readValue?, storedLiteral, literal, dropPrefix?, Dialect.escapesInLiterals, hread]
    | postgres =>
      have hread := readQuoted?_double t hrest
      simp [readValue?, storedLiteral, literal, dropPrefix?, Dialect.escapesInLiterals, hread]

end Quotes

/-! ### Insertions -/

/-- What a statement inserts. -/
structure Insertion where
  table : Text
  columns : List Text
  /-- The rows in their order, each with a value for every column. -/
  rows : List (List (Option Text))
  deriving DecidableEq, Repr

/-- One or more items with commas between them, and what follows them. An item that takes nothing
ends the reading. -/
def readItems? {α : Type} (item : Text → Option (α × Text)) (t : Text) : Option (List α × Text) :=
  match item t with
  | none => none
  | some (x, after) =>
    match dropPrefix? ", " after with
    | none => some ([x], after)
    | some more =>
      if more.length < t.length then
        (readItems? item more).map fun (xs, after) => (x :: xs, after)
      else none
termination_by t.length

/-- Items in parentheses, and what follows them. -/
def readGroup? {α : Type} (item : Text → Option (α × Text)) (t : Text) :
    Option (List α × Text) := do
  let inside ← dropPrefix? "(" t
  let (items, after) ← readItems? item inside
  let after ← dropPrefix? ")" after
  some (items, after)

/-- The statement that inserts rows into a table, read to its end. -/
def readInsertion? (d : Dialect) (t : Text) : Option Insertion := do
  let afterVerb ← dropPrefix? "INSERT INTO " t
  let (table, afterTable) ← readQuotedName? d afterVerb
  let beforeColumns ← dropPrefix? [' '] afterTable
  let (columns, afterColumns) ← readGroup? (readQuotedName? d) beforeColumns
  let beforeRows ← dropPrefix? " VALUES " afterColumns
  let (rows, afterRows) ← readItems? (readGroup? (readValue? d)) beforeRows
  if afterRows.isEmpty then some ⟨table, columns, rows⟩ else none

/-- What a record says in a column: nothing if the value is missing, null or the empty text. -/
def heldText (record : Record) (column : Text) : Option Text :=
  match record.lookup column with
  | none | some .null | some (.text []) => none
  | some value => some value.render

/-! ### Lists of items -/

section Items

variable {α : Type} {item : Text → Option (α × Text)} {write : α → Text} (ends : Text → Prop)

theorem readItems?_of_last {t rest : Text} {x : α} (h : item t = some (x, rest))
    (hlast : dropPrefix? ", " rest = none) : readItems? item t = some ([x], rest) := by
  rw [readItems?, h]
  simp only [hlast]

theorem readItems?_of_more {t more rest : Text} {x : α} {xs : List α}
    (h : item t = some (x, ", ".toList ++ more)) (hlt : more.length < t.length)
    (hmore : readItems? item more = some (xs, rest)) :
    readItems? item t = some (x :: xs, rest) := by
  rw [readItems?, h]
  simp only [dropPrefix?_append, hlt, if_true, hmore, Option.map_some]

/-- Items that can be read back in front of a comma and of what follows the list make up a list that
can be read back. -/
theorem readItems?_joinWith {xs : List α} (hxs : xs ≠ [])
    (hitem : ∀ x ∈ xs, ∀ rest, ends rest → item (write x ++ rest) = some (x, rest))
    (hcomma : ∀ t, ends (',' :: t)) {rest : Text} (hrest : ends rest)
    (hlast : dropPrefix? ", " rest = none) :
    readItems? item (joinWith ", " (xs.map write) ++ rest) = some (xs, rest) := by
  induction xs with
  | nil => exact absurd rfl hxs
  | cons x xs ih =>
    obtain ⟨hx, hxs'⟩ := List.forall_mem_cons.mp hitem
    cases xs with
    | nil => exact readItems?_of_last (hx rest hrest) hlast
    | cons y ys =>
      have htext : joinWith ", " ((x :: y :: ys).map write) ++ rest =
          write x ++ (", ".toList ++ (joinWith ", " ((y :: ys).map write) ++ rest)) := by
        simp only [List.map_cons, joinWith, List.append_assoc]
      rw [htext]
      refine readItems?_of_more (hx _ (hcomma _)) ?_ (ih (List.cons_ne_nil _ _) hxs')
      simp only [List.length_append, String.length_toList, show (", ").length = 2 from rfl]
      omega

theorem readGroup?_inParens {xs : List α} (hxs : xs ≠ [])
    (hitem : ∀ x ∈ xs, ∀ rest, ends rest → item (write x ++ rest) = some (x, rest))
    (hcomma : ∀ t, ends (',' :: t)) (hclose : ∀ t, ends (')' :: t)) (rest : Text) :
    readGroup? item (inParens (xs.map write) ++ rest) = some (xs, rest) := by
  have hitems := readItems?_joinWith ends hxs hitem hcomma (hclose rest) rfl
  have htext : inParens (xs.map write) ++ rest =
      "(".toList ++ (joinWith ", " (xs.map write) ++ ')' :: rest) := by
    simp [inParens]
  rw [readGroup?, htext, dropPrefix?_append, Option.bind_eq_bind, Option.bind_some, hitems]
  rfl

end Items

/-! ### The statement -/

theorem readGroup?_columns (d : Dialect) {columns : List Text} (hcolumns : columns ≠ [])
    (rest : Text) : readGroup? (readQuotedName? d) (inParens (columns.map (quotedName d)) ++ rest) =
      some (columns, rest) :=
  readGroup?_inParens (·.head? ≠ some d.identifierQuote) hcolumns
    (fun name _ _ h => readQuotedName?_quotedName d name h)
    (by cases d <;> simp [Dialect.identifierQuote]) (by cases d <;> simp [Dialect.identifierQuote])
    rest

theorem readGroup?_row (d : Dialect) {row : List (Option Text)} (hrow : row ≠ []) (rest : Text) :
    readGroup? (readValue? d) (inParens (row.map (storedLiteral d)) ++ rest) = some (row, rest) :=
  readGroup?_inParens (·.head? ≠ some '\'') hrow
    (fun value _ _ h => readValue?_storedLiteral d value h) (by simp) (by simp) rest

/-- The text of an insertion with given rows. -/
def writeInsertion (d : Dialect) (i : Insertion) : Text :=
  "INSERT INTO ".toList ++ (quotedName d i.table ++ ([' '] ++
    (inParens (i.columns.map (quotedName d)) ++ (" VALUES ".toList ++
      joinWith ", " (i.rows.map fun row => inParens (row.map (storedLiteral d)))))))

theorem insertionText_eq (d : Dialect) (table : Text) (columns : List Text)
    (records : List Record) : insertionText d table columns records =
      writeInsertion d ⟨table, columns, records.map fun r => columns.map (stored? r)⟩ := by
  unfold insertionText writeInsertion
  simp only [List.map_map, Function.comp_def, List.append_assoc]

/-- An insertion of at least one row with values in all columns is read back from its text. -/
theorem readInsertion?_writeInsertion (d : Dialect) {i : Insertion} (hcolumns : i.columns ≠ [])
    (hrows : i.rows ≠ []) (hrow : ∀ row ∈ i.rows, row ≠ []) :
    readInsertion? d (writeInsertion d i) = some i := by
  have hread : readItems? (readGroup? (readValue? d))
      (joinWith ", " (i.rows.map fun row => inParens (row.map (storedLiteral d))) ++ []) =
        some (i.rows, []) :=
    readItems?_joinWith (fun _ => True) hrows
      (fun row h rest _ => readGroup?_row d (hrow row h) rest) (fun _ => trivial) trivial rfl
  rw [List.append_nil] at hread
  have htable (rest : Text) : readQuotedName? d (quotedName d i.table ++ ([' '] ++ rest)) =
      some (i.table, [' '] ++ rest) :=
    readQuotedName?_quotedName d i.table (by cases d <;> simp [Dialect.identifierQuote])
  unfold readInsertion? writeInsertion
  simp only [dropPrefix?_append, Option.bind_eq_bind, Option.bind_some, htable,
    readGroup?_columns d hcolumns, hread, List.isEmpty_nil, if_true]

theorem stored?_eq_heldText (r : Record) (column : Text) :
    stored? r column = heldText r column := by
  unfold stored? heldText
  split
  · simp [*]
  · next v h => rw [h]; cases v <;> first | rfl | (next t => cases t <;> rfl)

theorem ne_nil_of_recordColumns_ne_nil {records : List Record} (h : recordColumns records ≠ []) :
    records ≠ [] := by
  rintro rfl
  exact h rfl

theorem columnTypes_ne_nil {records : List Record} (h : recordColumns records ≠ []) :
    columnTypes records ≠ [] := fun hnil => h (by rw [← map_fst_columnTypes, hnil, List.map_nil])

/-- The statements for records of at least one column are those that create and fill the table,
unless a column has no name. -/
theorem statementsFor_columnTypes (d : Dialect) (charset table : Text) {records : List Record}
    (h : recordColumns records ≠ []) :
    statementsFor d charset table (columnTypes records) records =
      if [] ∈ recordColumns records then .error {}
      else .ok [tidy (creationText d charset table (columnTypes records)),
        insertionText d table (recordColumns records) records] := by
  have hrecords := ne_nil_of_recordColumns_ne_nil h
  have hcolumns := columnTypes_ne_nil h
  have hunnamed :
      (columnTypes records).any (·.1.isEmpty) = decide ([] ∈ recordColumns records) := by
    rw [← map_fst_columnTypes, Bool.eq_iff_iff]
    simp [List.isEmpty_iff]
  unfold statementsFor
  rw [map_fst_columnTypes, hunnamed]
  simp [hrecords, hcolumns]

/-- The insertion that is generated for records is read back as the table, the columns of the
records, and one row for each record with one value for each column: nothing where the record holds
nothing, and otherwise the text of what it holds, character for character. -/
theorem readInsertion?_statementsFor (d : Dialect) (table : Text) {records : List Record}
    (h : recordColumns records ≠ []) :
    ∃ insertion, readInsertion? d insertion = some ⟨table, recordColumns records,
        records.map fun r => (recordColumns records).map (heldText r)⟩ ∧
      ∀ charset, statementsFor d charset table (columnTypes records) records =
        if [] ∈ recordColumns records then .error {}
        else .ok [tidy (creationText d charset table (columnTypes records)), insertion] := by
  refine ⟨insertionText d table (recordColumns records) records, ?_,
    fun charset => statementsFor_columnTypes d charset table h⟩
  have hheld : stored? = heldText := funext fun r => funext (stored?_eq_heldText r)
  rw [insertionText_eq, hheld, readInsertion?_writeInsertion d h]
  · simpa using ne_nil_of_recordColumns_ne_nil h
  · intro row hrow
    obtain ⟨r, -, rfl⟩ := List.mem_map.mp hrow
    simpa using h

/-- Two records whose texts hold what ends a literal, a row or an escape. -/
def hostileRecords : List Record :=
  [[("a", .text "'), ('"), ("b", .null)], [("b", .text "\\"), ("c", .int (-7)), ("a", .text "")]]

theorem readInsertion?_statementsFor_hostile :
    recordColumns hostileRecords ≠ [] ∧
    ∃ insertion, readInsertion? .mysql insertion = some ⟨"t", ["a", "b", "c"].map String.toList,
        [[some "'), ('".toList, none, none], [none, some "\\".toList, some "-7".toList]]⟩ ∧
      ∀ charset, statementsFor .mysql charset "t" (columnTypes hostileRecords) hostileRecords =
        .ok [tidy (creationText .mysql charset "t" (columnTypes hostileRecords)), insertion] := by
  have hcolumns : recordColumns hostileRecords = ["a", "b", "c"].map String.toList := by decide
  have hne : recordColumns hostileRecords ≠ [] := by decide
  have hrows : (hostileRecords.map fun r => (recordColumns hostileRecords).map (heldText r)) =
      [[some "'), ('".toList, none, none], [none, some "\\".toList, some "-7".toList]] := by decide
  obtain ⟨insertion, hread, hstatements⟩ := readInsertion?_statementsFor .mysql "t" hne
  refine ⟨hne, insertion, by rw [hread, hrows, hcolumns], fun charset => ?_⟩
  rw [hstatements, if_neg (by decide)]

end SchemaMill.Sql
