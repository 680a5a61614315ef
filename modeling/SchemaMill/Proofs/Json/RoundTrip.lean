import SchemaMill.Json.Records
import SchemaMill.Proofs.Json.Values
import SchemaMill.Value.Evidence

/-!
# Reading written records

A record whose values are no arrays and objects stays as it is when it is flattened
(`flatten_of_flat`), so records without them are read back from their text. What is read of any
text is such records, since flattening leaves neither arrays nor objects and sets every key once
(`areFlat_flatten`). So what is read comes back (`readRecords_writeRecords`).
-/

namespace SchemaMill.Json

/-- Whether a value is null, a truth value, a text, or an integer that is not too long to be read.
-/
def IsFlat (v : Value) : Prop := IsShort v ∧ v.isNested = false

instance (v : Value) : Decidable (IsFlat v) := inferInstanceAs (Decidable (_ ∧ _))

/-! ### Flattening -/

theorem flattenValue_of_flat {v : Value} (h : v.isNested = false) (key : Text) :
    flattenValue key v = [(key, v)] := by
  cases v with
  | array items => cases h
  | object fields => cases h
  | _ => rfl

theorem flattenFields_of_flat {fields : List (Text × Value)}
    (h : ∀ f ∈ fields, f.2.isNested = false) (there : Record) :
    flattenFields [] there fields = setFields fields there := by
  induction fields generalizing there with
  | nil => rfl
  | cons f fields ih =>
    rw [List.forall_mem_cons] at h
    obtain ⟨key, v⟩ := f
    rw [flattenFields, flattenValue_of_flat h.1, ih h.2]
    rfl

/-- A record without arrays and objects stays as it is. -/
theorem flatten_of_flat {r : Record} (hnodup : (r.map Prod.fst).Nodup)
    (h : ∀ f ∈ r, f.2.isNested = false) : flatten r = r := by
  rw [flatten, flattenFields_of_flat h]
  exact fieldsOf_of_nodup hnodup

theorem nodup_flattenFields (above : Text) (fields : List (Text × Value)) {there : Record}
    (h : (there.map Prod.fst).Nodup) : ((flattenFields above there fields).map Prod.fst).Nodup := by
  induction fields generalizing there with
  | nil => exact h
  | cons f fields ih => exact ih (nodup_setFields _ h)

mutual

theorem flat_of_mem_flattenFields (above : Text) :
    ∀ (fields : List (Text × Value)) (there : Record),
      EverywhereInFields IsShort fields → (∀ f ∈ there, IsFlat f.2) →
        ∀ f ∈ flattenFields above there fields, IsFlat f.2
  | [], _, _, hthere => hthere
  | (key, v) :: rest, _, h, hthere =>
    flat_of_mem_flattenFields above rest _ h.2 fun f hf =>
      (mem_of_mem_setFields hf).elim (flat_of_mem_flattenValue (joinedKey above key) v h.1 f)
        (hthere f)

theorem flat_of_mem_flattenValue (key : Text) : ∀ v, Everywhere IsShort v →
    ∀ f ∈ flattenValue key v, IsFlat f.2
  | .object fields, h =>
    flat_of_mem_flattenFields key fields [] h.2 fun _ hf => absurd hf List.not_mem_nil
  | .array _, _ => List.forall_mem_singleton.mpr ⟨trivial, rfl⟩
  | .null, h => List.forall_mem_singleton.mpr ⟨h, rfl⟩
  | .bool _, h => List.forall_mem_singleton.mpr ⟨h, rfl⟩
  | .int _, h => List.forall_mem_singleton.mpr ⟨h, rfl⟩
  | .double _, h => List.forall_mem_singleton.mpr ⟨h, rfl⟩
  | .text _, h => List.forall_mem_singleton.mpr ⟨h, rfl⟩

end

/-! ### Records -/

theorem mapM_objectFields? {items : List Value} {objects : List (List (Text × Value))} :
    items.mapM objectFields? = some objects ↔ items = objects.map .object := by
  induction items generalizing objects with
  | nil => cases objects <;> simp
  | cons v items ih =>
    rw [List.mapM_cons]
    cases v with
    | object fields =>
      have hrest : ∀ rest, (items.mapM objectFields?).bind (fun found => some (fields :: found)) =
          some rest ↔ ∃ found, items = found.map .object ∧ fields :: found = rest := by
        intro rest
        simp only [Option.bind_eq_some_iff, ih, Option.some.injEq]
      refine (hrest objects).trans ?_
      cases objects <;> simp [and_comm]
    | _ => cases objects <;> simp [objectFields?]

/-- Whether records are such as can be read of a text without doubles and too long integers. -/
def AreFlat (records : List Record) : Prop :=
  ∀ r ∈ records, (r.map Prod.fst).Nodup ∧ ∀ f ∈ r, IsFlat f.2

theorem everywhereInFields_of_flat {r : Record} (h : ∀ f ∈ r, IsFlat f.2) :
    EverywhereInFields IsPlain r := by
  induction r with
  | nil => trivial
  | cons f r ih =>
    rw [List.forall_mem_cons] at h
    refine ⟨?_, ih h.2⟩
    obtain ⟨hshort, hflat⟩ := h.1
    cases hv : f.2 with
    | array items => rw [hv] at hflat; cases hflat
    | object fields => rw [hv] at hflat; cases hflat
    | _ => exact ⟨hv ▸ hshort, trivial⟩

theorem AreFlat.everywhere {records : List Record} (h : AreFlat records) :
    Everywhere IsPlain (.array (records.map .object)) := by
  refine ⟨⟨trivial, trivial⟩, ?_⟩
  induction records with
  | nil => trivial
  | cons r records ih =>
    have hr := h r List.mem_cons_self
    exact ⟨⟨⟨trivial, hr.1⟩, everywhereInFields_of_flat hr.2⟩,
      ih fun r' hr' => h r' (List.mem_cons_of_mem r hr')⟩

theorem AreFlat.readRecords_eq {records : List Record} (h : AreFlat records) :
    readRecords (writeRecords records) = .ok records := by
  have hread : read (writeRecords records) = .ok (.array (records.map .object)) :=
    (readsAs_printIndented 0 _ h.everywhere).read_append (List.forall_mem_singleton.mpr rfl)
  have hflatten : records.map flatten = records := by
    refine (List.map_congr_left fun r hr => ?_).trans (List.map_id records)
    exact flatten_of_flat (h r hr).1 fun f hf => ((h r hr).2 f hf).2
  rw [readRecords, hread]
  dsimp only
  rw [mapM_objectFields?.mpr rfl]
  dsimp only
  rw [hflatten]

theorem areFlat_flatten {fields : List (Text × Value)} (h : EverywhereInFields IsShort fields) :
    ((flatten fields).map Prod.fst).Nodup ∧ ∀ f ∈ flatten fields, IsFlat f.2 :=
  ⟨nodup_flattenFields [] fields List.nodup_nil,
    flat_of_mem_flattenFields [] fields [] h fun _ hf => absurd hf List.not_mem_nil⟩

theorem everywhere_of_mem {p : Value → Prop} {items : List Value} (h : EverywhereInItems p items)
    {v : Value} (hv : v ∈ items) : Everywhere p v := by
  induction items with
  | nil => cases hv
  | cons v' items ih =>
    rcases List.mem_cons.mp hv with rfl | hv
    · exact h.1
    · exact ih h.2 hv

/-- The records of a text whose numbers are integers that are not too long. -/
theorem areFlat_of_readRecords {t : Text} {v : Value} (hread : read t = .ok v)
    (hshort : Everywhere IsShort v) {records : List Record} (h : readRecords t = .ok records) :
    AreFlat records := by
  rw [readRecords, hread] at h
  cases v with
  | object fields =>
    cases h
    exact List.forall_mem_singleton.mpr (areFlat_flatten hshort.2)
  | array items =>
    dsimp only at h
    split at h
    · next objects hobjects =>
      cases h
      intro r hr
      obtain ⟨fields, hfields, rfl⟩ := List.mem_map.mp hr
      have hmem : Value.object fields ∈ items :=
        mapM_objectFields?.mp hobjects ▸ List.mem_map_of_mem hfields
      exact areFlat_flatten (everywhere_of_mem hshort.2 hmem).2
    · cases h
  | _ => cases h

/-- Records without arrays, objects and doubles are read back from their text as they are, and so
are the records of any text whose numbers are integers. -/
theorem readRecords_writeRecords :
    (∀ records : List Record, (∀ r ∈ records, (r.map Prod.fst).Nodup ∧ ∀ f ∈ r, IsFlat f.2) →
        readRecords (writeRecords records) = .ok records) ∧
      ∀ (t : Text) (v : Value) (records : List Record), read t = .ok v → Everywhere IsShort v →
        readRecords t = .ok records → readRecords (writeRecords records) = .ok records :=
  ⟨fun _ h => AreFlat.readRecords_eq h, fun _ _ _ hread hshort h =>
    (areFlat_of_readRecords hread hshort h).readRecords_eq⟩

/-- Records with every kind of value, and with characters that are escaped. -/
def mixedRecords : List Record :=
  [[("b", .text "\x00\"\\/\n\u00e9"), ("a", .int (-12)), ("", .null)], [], [("a", .bool false)]]

/-- A text with an object and an array inside a record. -/
def nestedText : Text :=
  "[\x7b\"a\": \x7b\"b\": 1\x7d, \"c\": [1]\x7d, \x7b\x7d]"

/-- What the text spells. -/
def nestedValue : Value :=
  .array [.object [("a", .object [("b", .int 1)]), ("c", .array [.int 1])], .object []]

theorem readRecords_writeRecords_mixedRecords :
    readRecords (writeRecords mixedRecords) = .ok mixedRecords ∧
      readRecords nestedText = .ok [[("a_b", .int 1), ("c", .text "[1]")], []] ∧
      readRecords (writeRecords [[("a_b", .int 1), ("c", .text "[1]")], []]) =
        .ok [[("a_b", .int 1), ("c", .text "[1]")], []] := by
  have hread : read nestedText = .ok nestedValue := by cbv
  have hrecords : readRecords nestedText = .ok [[("a_b", .int 1), ("c", .text "[1]")], []] := by
    cbv
  refine ⟨readRecords_writeRecords.1 mixedRecords ?_, hrecords,
    readRecords_writeRecords.2 nestedText nestedValue _ hread ?_ hrecords⟩
  · decide
  · have hone : IsShort (.int 1) := by decide
    exact ⟨trivial, ⟨trivial, ⟨trivial, hone, trivial⟩, ⟨trivial, hone, trivial⟩, trivial⟩,
      ⟨trivial, trivial⟩, trivial⟩

end SchemaMill.Json
