import Mathlib.Data.List.Induction
import Mathlib.Data.List.MinMax
import Mathlib.Logic.Relation
import Mathlib.Tactic.MkIffOfInductiveProp
import SchemaMill.Profile.Basic
import SchemaMill.Proofs.Record.Fields

/-!
# The types that values call for

A profile is made value after value, and asks less of a value once the type is settled. What it is
after some values is told by the values alone (`Profile.ofValues`): one more value takes the profile
of those before it to the profile with it (`Profile.observe_ofValues`), so the profile of a column
is that of its values (`getD_lookup_foldl_observeField`).

In this form every part of a profile is a question about some value or about all values. So a type
is called for by the set of the values (`CallFor`), whatever their order and their number, and empty
values have no part in it. `columnTypes_callFor` says this of all columns.
-/

namespace SchemaMill

variable {vs ws : List Value} {column : Text} {records records' : List Record}

/-! ### What values call for -/

/-- Whether a value is or spells a number with a fraction. -/
def Value.hasFraction (v : Value) : Bool := v.number?.any fun n => !n.isIntegral

/-- The length of the longest text of some values. -/
def longest (vs : List Value) : Nat := (vs.map fun v => v.render.length).foldr max 0

/-- Values of a column of numbers: none is nested, they are not all dates, and all are numbers. -/
@[mk_iff]
structure AreNumbers (vs : List Value) : Prop where
  plain : ∀ v ∈ vs, v.isStructured = false
  notDates : ∃ v ∈ vs, v.isDate = false
  numbers : ∀ v ∈ vs, v.number?.isSome

/-- Values of a column of whole numbers. -/
@[mk_iff]
structure AreWholeNumbers (vs : List Value) : Prop extends AreNumbers vs where
  whole : ∀ v ∈ vs, v.hasFraction = false

/-- Values of a column of texts: none is nested, they are not all dates, and not all numbers. -/
@[mk_iff]
structure AreTexts (vs : List Value) : Prop where
  plain : ∀ v ∈ vs, v.isStructured = false
  notDates : ∃ v ∈ vs, v.isDate = false
  notNumbers : ∃ v ∈ vs, v.number? = none

/-- Values that are not empty call for a type. -/
def CallFor (vs : List Value) : ColumnType → Prop
  | .json => ∃ v ∈ vs, v.isStructured
  | .datetime => (∀ v ∈ vs, v.isStructured = false) ∧ ∀ v ∈ vs, v.isDate
  | .decimal precision scale =>
    AreNumbers vs ∧ (∃ v ∈ vs, v.hasFraction) ∧ precision = 10 ∧ scale = 2
  | .tinyint => AreWholeNumbers vs ∧ longest vs ≤ 3
  | .smallint => AreWholeNumbers vs ∧ 3 < longest vs ∧ longest vs ≤ 5
  | .int => AreWholeNumbers vs ∧ 5 < longest vs ∧ longest vs ≤ 10
  | .bigint => AreWholeNumbers vs ∧ 10 < longest vs
  | .varchar length => AreTexts vs ∧ longest vs ≤ 255 ∧ length = longest vs
  | .text => AreTexts vs ∧ 255 < longest vs

theorem longest_le_iff {n : Nat} : longest vs ≤ n ↔ ∀ v ∈ vs, v.render.length ≤ n := by
  induction vs with
  | nil => simp [longest]
  | cons v vs ih => simpa [longest] using fun _ => ih

theorem length_render_le_longest {v : Value} (hv : v ∈ vs) : v.render.length ≤ longest vs :=
  longest_le_iff.mp (Nat.le_refl _) v hv

theorem exists_length_eq_longest (h : vs ≠ []) : ∃ v ∈ vs, v.render.length = longest vs := by
  by_contra hnone
  have hless : ∀ v ∈ vs, v.render.length < longest vs := fun v hv =>
    Nat.lt_of_le_of_ne (length_render_le_longest hv) fun heq => hnone ⟨v, hv, heq⟩
  have hbound : longest vs ≤ longest vs - 1 :=
    longest_le_iff.mpr fun v hv => Nat.le_sub_one_of_lt (hless v hv)
  obtain ⟨v, hv⟩ := List.exists_mem_of_ne_nil vs h
  have := hless v hv
  omega

theorem longest_congr (h : ∀ v, v ∈ vs ↔ v ∈ ws) : longest vs = longest ws :=
  Nat.le_antisymm (longest_le_iff.mpr fun v hv => length_render_le_longest ((h v).mp hv))
    (longest_le_iff.mpr fun v hv => length_render_le_longest ((h v).mpr hv))

theorem longest_concat (vs : List Value) (v : Value) :
    longest (vs ++ [v]) = max (longest vs) v.render.length := by
  induction vs with
  | nil => simp [longest]
  | cons u vs ih =>
    show max u.render.length (longest (vs ++ [v])) = max (max u.render.length (longest vs)) _
    rw [ih, Nat.max_assoc]

/-- What values call for is decided by the set of them. -/
theorem callFor_congr (h : ∀ v, v ∈ vs ↔ v ∈ ws) (type : ColumnType) :
    CallFor vs type ↔ CallFor ws type := by
  cases type <;>
    simp only [CallFor, areWholeNumbers_iff, areNumbers_iff, areTexts_iff, longest_congr h, h]

/-! ### Profiles -/

namespace Profile

/-- The profile of values of which none is empty. -/
def ofValues (vs : List Value) : Profile where
  maxLength := longest vs
  hasDecimal := vs.any fun v => !v.isStructured && v.hasFraction
  hasNonNumeric := vs.any fun v => v.isStructured || v.number?.isNone
  allDates := vs.all fun v => !v.isStructured && v.isDate
  hasStructured := vs.any (·.isStructured)
  observed := vs.length

/-- One more value takes the profile of the values before it to the profile with it. -/
theorem observe_ofValues (vs : List Value) {v : Value} (hv : v.isEmpty = false) :
    (ofValues vs).observe v = ofValues (vs ++ [v]) := by
  simp only [observe, ofValues, hv, longest_concat, List.any_append, List.all_append,
    List.length_append, List.any_cons, List.any_nil, List.all_cons, List.all_nil,
    Value.hasFraction]
  cases v.isStructured with
  | true => simp
  | false =>
    cases v.number? with
    | none => simp
    | some n => cases hn : n.isIntegral <;> simp [hn]

/-- Empty values leave no trace in a profile. -/
theorem foldl_observe (vs : List Value) :
    vs.foldl observe {} = ofValues (vs.filter (!·.isEmpty)) := by
  induction vs using List.reverseRecOn with
  | nil => rfl
  | append_singleton vs v ih =>
    rw [List.foldl_append, ih, List.foldl_cons, List.foldl_nil, List.filter_append]
    cases hv : v.isEmpty with
    | true => simp [observe, hv]
    | false => simp [observe_ofValues _ hv, hv]

theorem resolve_of_structured (h : ∃ v ∈ vs, v.isStructured) : (ofValues vs).resolve = .json := by
  rw [resolve, if_pos (by simpa [ofValues] using h)]

theorem resolve_of_dates (hplain : ∀ v ∈ vs, v.isStructured = false)
    (hdates : ∀ v ∈ vs, v.isDate) : (ofValues vs).resolve = .datetime := by
  rw [resolve, if_neg (by simpa [ofValues] using hplain), if_pos]
  simpa [ofValues] using fun v hv => ⟨hplain v hv, hdates v hv⟩

/-- Numbers with a fraction are decimals, and whole ones are told apart by the longest. -/
theorem resolve_of_numbers (h : AreNumbers vs) : (ofValues vs).resolve =
    if ∃ v ∈ vs, v.hasFraction then .decimal 10 2
    else if longest vs ≤ 3 then .tinyint
    else if longest vs ≤ 5 then .smallint
    else if longest vs ≤ 10 then .int
    else .bigint := by
  obtain ⟨hplain, ⟨u, hu, hdate⟩, hnumbers⟩ := h
  have hnumeric : (ofValues vs).hasNonNumeric = false := by
    simpa [ofValues] using fun v hv => ⟨hplain v hv, Option.isSome_iff_ne_none.mp (hnumbers v hv)⟩
  have hdecimal : (ofValues vs).hasDecimal = decide (∃ v ∈ vs, v.hasFraction) := by
    simp only [ofValues, List.any_eq, decide_eq_decide]
    exact exists_congr fun v => and_congr_right fun hv => by simp [hplain v hv]
  rw [resolve, if_neg (by simpa [ofValues] using hplain),
    if_neg (by simpa [ofValues] using ⟨u, hu, fun _ => hdate⟩), hnumeric, hdecimal]
  simp only [Bool.not_false, if_true, decide_eq_true_eq]
  rfl

theorem resolve_of_texts (h : AreTexts vs) : (ofValues vs).resolve =
    if longest vs ≤ 255 then .varchar (longest vs) else .text := by
  obtain ⟨hplain, ⟨u, hu, hdate⟩, ⟨w, hw, hnumber⟩⟩ := h
  have hnumeric : (ofValues vs).hasNonNumeric = true := by
    simpa [ofValues] using ⟨w, hw, .inr hnumber⟩
  rw [resolve, if_neg (by simpa [ofValues] using hplain),
    if_neg (by simpa [ofValues] using ⟨u, hu, fun _ => hdate⟩), hnumeric]
  rfl

/-- Any values are of one of four kinds. -/
theorem kinds (vs : List Value) : (∃ v ∈ vs, v.isStructured) ∨
    ((∀ v ∈ vs, v.isStructured = false) ∧ ∀ v ∈ vs, v.isDate) ∨ AreNumbers vs ∨ AreTexts vs := by
  by_cases hstructured : ∃ v ∈ vs, v.isStructured
  · exact .inl hstructured
  have hplain : ∀ v ∈ vs, v.isStructured = false := by simpa using hstructured
  by_cases hdates : ∀ v ∈ vs, v.isDate
  · exact .inr (.inl ⟨hplain, hdates⟩)
  have hdate : ∃ v ∈ vs, v.isDate = false := by simpa using hdates
  by_cases hnumbers : ∀ v ∈ vs, v.number?.isSome
  · exact .inr (.inr (.inl ⟨hplain, hdate, hnumbers⟩))
  · exact .inr (.inr (.inr ⟨hplain, hdate, by simpa using hnumbers⟩))

/-- A profile resolves to the type that its values call for. -/
theorem resolve_eq_iff {type : ColumnType} :
    (ofValues vs).resolve = type ↔ CallFor vs type := by
  constructor
  · rintro rfl
    rcases kinds vs with h | ⟨hplain, hdates⟩ | h | h
    · rw [resolve_of_structured h]
      exact h
    · rw [resolve_of_dates hplain hdates]
      exact ⟨hplain, hdates⟩
    · rw [resolve_of_numbers h]
      split_ifs with hfraction h3 h5 h10
      · exact ⟨h, hfraction, rfl, rfl⟩
      all_goals
        have hwhole : AreWholeNumbers vs := ⟨h, by simpa using hfraction⟩
      · exact ⟨hwhole, h3⟩
      · exact ⟨hwhole, Nat.lt_of_not_le h3, h5⟩
      · exact ⟨hwhole, Nat.lt_of_not_le h5, h10⟩
      · exact ⟨hwhole, Nat.lt_of_not_le h10⟩
    · rw [resolve_of_texts h]
      split_ifs with h255
      · exact ⟨h, h255, rfl⟩
      · exact ⟨h, Nat.lt_of_not_le h255⟩
  · intro h
    have hwhole (hw : AreWholeNumbers vs) : ¬ ∃ v ∈ vs, v.hasFraction := by simpa using hw.whole
    cases type with
    | json => exact resolve_of_structured h
    | datetime => exact resolve_of_dates h.1 h.2
    | decimal precision scale =>
      obtain ⟨hnumbers, hfraction, rfl, rfl⟩ := h
      rw [resolve_of_numbers hnumbers, if_pos hfraction]
    | tinyint =>
      obtain ⟨hw, h3⟩ := h
      rw [resolve_of_numbers hw.toAreNumbers, if_neg (hwhole hw), if_pos h3]
    | smallint =>
      obtain ⟨hw, h3, h5⟩ := h
      rw [resolve_of_numbers hw.toAreNumbers, if_neg (hwhole hw), if_neg (Nat.not_le.mpr h3),
        if_pos h5]
    | int =>
      obtain ⟨hw, h5, h10⟩ := h
      rw [resolve_of_numbers hw.toAreNumbers, if_neg (hwhole hw), if_neg (by omega),
        if_neg (Nat.not_le.mpr h5), if_pos h10]
    | bigint =>
      obtain ⟨hw, h10⟩ := h
      rw [resolve_of_numbers hw.toAreNumbers, if_neg (hwhole hw), if_neg (by omega),
        if_neg (by omega), if_neg (Nat.not_le.mpr h10)]
    | varchar length =>
      obtain ⟨htexts, h255, rfl⟩ := h
      rw [resolve_of_texts htexts, if_pos h255]
    | text =>
      obtain ⟨htexts, h255⟩ := h
      rw [resolve_of_texts htexts, if_neg (Nat.not_le.mpr h255)]

end Profile

/-! ### Columns -/

/-- The values of a column that are not empty. -/
def columnValues (column : Text) (records : List Record) : List Value :=
  ((records.flatten.filter (·.1 == column)).map Prod.snd).filter (!·.isEmpty)

theorem mem_columnValues {v : Value} : v ∈ columnValues column records ↔
    v.isEmpty = false ∧ ∃ r ∈ records, (column, v) ∈ r := by
  simp only [columnValues, List.mem_filter, List.mem_map, List.mem_flatten, beq_iff_eq,
    Bool.not_eq_true']
  constructor
  · rintro ⟨⟨⟨c, w⟩, ⟨⟨r, hr, hf⟩, rfl⟩, rfl⟩, hv⟩
    exact ⟨hv, r, hr, hf⟩
  · rintro ⟨hv, r, hr, hf⟩
    exact ⟨⟨(column, v), ⟨⟨r, hr, hf⟩, rfl⟩, rfl⟩, hv⟩

/-- The profile of a column sees the values of the column only. -/
theorem getD_lookup_foldl_observeField (fields : List (Text × Value))
    (ps : List (Text × Profile)) :
    ((fields.foldl observeField ps).lookup column).getD {} =
      ((fields.filter (·.1 == column)).map Prod.snd).foldl Profile.observe
        ((ps.lookup column).getD {}) := by
  induction fields generalizing ps with
  | nil => rfl
  | cons f fields ih =>
    rw [List.foldl_cons, ih, observeField, lookup_setField]
    by_cases h : f.1 = column
    · subst h
      rw [if_pos rfl, List.filter_cons_of_pos (by simp)]
      rfl
    · rw [if_neg (Ne.symm h), List.filter_cons_of_neg (by simpa using h)]

theorem lookup_isSome_iff {α : Type} {fields : List (Text × α)} :
    (fields.lookup column).isSome ↔ column ∈ fields.map Prod.fst := by
  rw [List.lookup_isSome_iff, List.mem_map]
  exact exists_congr fun f => and_congr_right fun _ => by rw [beq_iff_eq, eq_comm]

theorem lookup_columnTypes_eq (records : List Record) :
    (columnTypes records).lookup column =
      ((profiles records).lookup column).map Profile.resolve := by
  rw [columnTypes]
  induction profiles records with
  | nil => rfl
  | cons f fields ih =>
    rw [List.map_cons, List.lookup_cons, List.lookup_cons, ih]
    split <;> rfl

theorem lookup_columnTypes_eq_some_iff {type : ColumnType} :
    (columnTypes records).lookup column = some type ↔
      column ∈ recordColumns records ∧ CallFor (columnValues column records) type := by
  have hprofile : ((profiles records).lookup column).getD {} =
      .ofValues (columnValues column records) := by
    rw [profiles, getD_lookup_foldl_observeField]
    exact Profile.foldl_observe _
  have hcolumn : ((profiles records).lookup column).isSome ↔ column ∈ recordColumns records := by
    rw [lookup_isSome_iff, ← map_fst_columnTypes, columnTypes, List.map_map]
    rfl
  rw [lookup_columnTypes_eq, ← hcolumn, ← Profile.resolve_eq_iff, ← hprofile]
  cases (profiles records).lookup column <;> simp

/-- Columns of equal sets of values have equal types. -/
theorem lookup_columnTypes_congr
    (hcolumn : column ∈ recordColumns records ↔ column ∈ recordColumns records')
    (hvalues : ∀ v, v ∈ columnValues column records ↔ v ∈ columnValues column records') :
    (columnTypes records').lookup column = (columnTypes records).lookup column := by
  refine Option.ext fun type => ?_
  rw [lookup_columnTypes_eq_some_iff, lookup_columnTypes_eq_some_iff, hcolumn,
    callFor_congr hvalues]

/-! ### Empty values -/

/-- Records are the same but for an empty value that is put into one of them, or for one of them
that holds nothing but empty values. -/
inductive AddsEmpty : List Record → List Record → Prop where
  | field (before after : List Record) (fields more : Record) (column : Text) {v : Value}
    (hv : v.isEmpty) :
    AddsEmpty (before ++ (fields ++ more) :: after)
      (before ++ (fields ++ (column, v) :: more) :: after)
  | record (before after : List Record) {r : Record} (hr : ∀ f ∈ r, f.2.isEmpty) :
    AddsEmpty (before ++ after) (before ++ r :: after)

theorem AddsEmpty.columnValues_eq (h : AddsEmpty records records') :
    columnValues column records' = columnValues column records := by
  cases h with
  | field before after fields more c hv =>
    by_cases hc : c = column <;> simp [columnValues, hc, hv]
  | record before after hr =>
    have hnone : ∀ r : Record, (∀ f ∈ r, f.2.isEmpty) →
        ((r.filter (·.1 == column)).map Prod.snd).filter (!·.isEmpty) = [] := by
      intro r hr
      refine List.filter_eq_nil_iff.mpr fun v hv => ?_
      obtain ⟨f, hf, rfl⟩ := List.mem_map.mp hv
      simpa using hr f (List.mem_of_mem_filter hf)
    simp only [columnValues, List.flatten_append, List.flatten_cons, List.filter_append,
      List.map_append, hnone _ hr, List.nil_append]

theorem AddsEmpty.recordColumns_subset (h : AddsEmpty records records') :
    recordColumns records ⊆ recordColumns records' := by
  intro column hcolumn
  rw [mem_recordColumns] at hcolumn ⊢
  obtain ⟨r, hr, hkey⟩ := hcolumn
  cases h with
  | @field before after fields more c v hv =>
    by_cases hsame : r = fields ++ more
    · subst hsame
      refine ⟨fields ++ (c, v) :: more, by simp, ?_⟩
      rw [List.map_append, List.mem_append] at hkey ⊢
      exact hkey.imp_right (List.mem_cons_of_mem c)
    · have hother : r ∈ before ∨ r ∈ after := by simpa [hsame] using hr
      exact ⟨r, by simp [hother.imp_right Or.inr], hkey⟩
  | record before after hempty =>
    exact ⟨r, by simp [(List.mem_append.mp hr).imp_right Or.inr], hkey⟩

/-- Columns keep their types when empty values come in. -/
theorem lookup_columnTypes_of_addsEmpty (h : Relation.ReflTransGen AddsEmpty records records')
    (hcolumn : column ∈ recordColumns records) :
    (columnTypes records').lookup column = (columnTypes records).lookup column := by
  suffices hkept : columnValues column records' = columnValues column records ∧
      column ∈ recordColumns records' from
    lookup_columnTypes_congr (iff_of_true hcolumn hkept.2) fun v => by rw [hkept.1]
  induction h with
  | refl => exact ⟨rfl, hcolumn⟩
  | tail _ hstep ih => exact ⟨hstep.columnValues_eq.trans ih.1, hstep.recordColumns_subset ih.2⟩

/-! ### All columns -/

/-- The columns that get types are those of the records in the same order. The type of a column is
the one that the set of its values which are not empty calls for. So it is the same for the records
in another order, and for records into which empty values are put. -/
theorem columnTypes_callFor (records : List Record) :
    (columnTypes records).map Prod.fst = recordColumns records ∧
      (∀ column type, (columnTypes records).lookup column = some type ↔
        column ∈ recordColumns records ∧ CallFor (columnValues column records) type) ∧
      (∀ records' column,
        (column ∈ recordColumns records ↔ column ∈ recordColumns records') →
        (∀ v, v ∈ columnValues column records ↔ v ∈ columnValues column records') →
        (columnTypes records').lookup column = (columnTypes records).lookup column) ∧
      (∀ records', records.Perm records' → ∀ column,
        (columnTypes records').lookup column = (columnTypes records).lookup column) ∧
      ∀ records', Relation.ReflTransGen AddsEmpty records records' →
        ∀ column ∈ recordColumns records,
          (columnTypes records').lookup column = (columnTypes records).lookup column := by
  refine ⟨map_fst_columnTypes records, fun _ _ => lookup_columnTypes_eq_some_iff,
    fun _ _ => lookup_columnTypes_congr, fun records' hperm column => ?_,
    fun _ h _ => lookup_columnTypes_of_addsEmpty h⟩
  refine lookup_columnTypes_congr ?_ fun v => ?_
  · simp only [mem_recordColumns, hperm.mem_iff]
  · simp only [mem_columnValues, hperm.mem_iff]

/-- Records with ages and notes, none of which has both. -/
def sparseRecords : List Record :=
  [[("age", .text "7"), ("note", .null)], [("age", .int 12)], [("note", .text "3.14")]]

/-- The same records with empty values among them. -/
def paddedRecords : List Record :=
  [[("age", .text "7"), ("note", .null)], [("note", .null)], [("age", .int 12)],
    [("note", .text "3.14"), ("age", .text "")]]

theorem addsEmpty_paddedRecords : Relation.ReflTransGen AddsEmpty sparseRecords paddedRecords :=
  (Relation.ReflTransGen.single (.record [_] _ (by decide))).tail
    (.field [_, _, _] [] [("note", .text "3.14")] [] "age" rfl)

/-- The ages are whole numbers of at most three characters, and the notes have a fraction, also with
empty values among them and in the other order. -/
theorem columnTypes_callFor_sparseRecords :
    CallFor (columnValues "age" sparseRecords) .tinyint ∧
      CallFor (columnValues "note" sparseRecords) (.decimal 10 2) ∧
      (columnTypes paddedRecords).lookup "age".toList = some .tinyint ∧
      (columnTypes sparseRecords.reverse).lookup "note".toList = some (.decimal 10 2) := by
  have hage : (columnTypes sparseRecords).lookup "age".toList = some .tinyint := by decide +kernel
  have hnote : (columnTypes sparseRecords).lookup "note".toList = some (.decimal 10 2) := by
    decide +kernel
  obtain ⟨-, hcall, -, hperm, hpad⟩ := columnTypes_callFor sparseRecords
  refine ⟨((hcall _ _).mp hage).2, ((hcall _ _).mp hnote).2, ?_, ?_⟩
  · rw [hpad _ addsEmpty_paddedRecords _ (by decide), hage]
  · rw [hperm _ (List.reverse_perm _).symm, hnote]

end SchemaMill
