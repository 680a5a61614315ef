import Mathlib
import SchemaMill.Value.Basic

/-!
# Fields and columns of records

Setting fields keeps keys distinct (`nodup_setFields`), and fields with distinct keys are what comes
of setting them (`fieldsOf_of_nodup`). Of fields with equal keys the first one gives the place
(`map_fst_fieldsOf`) and the last one the value (`lookup_fieldsOf`), also where they are set among
themselves first (`setFields_fieldsOf`). The columns of records are their keys
(`mem_recordColumns`); records that all have the same distinct keys have just these columns
(`recordColumns_of_forall`).
-/

namespace SchemaMill

section Fields

variable {α β : Type} {key : Text} {value : α} {pairs fields : List (Text × α)}

/-! ### Keys -/

theorem nodup_setField (h : (fields.map Prod.fst).Nodup) (key : Text) (value : α) :
    ((setField key value fields).map Prod.fst).Nodup := by
  rw [map_fst_setField]
  split
  · exact h
  · next hkey => exact List.nodup_append_comm.mp (List.nodup_cons.mpr ⟨hkey, h⟩)

theorem nodup_setFields (pairs : List (Text × α)) {fields : List (Text × α)}
    (h : (fields.map Prod.fst).Nodup) : ((setFields pairs fields).map Prod.fst).Nodup := by
  induction pairs generalizing fields with
  | nil => exact h
  | cons pair pairs ih => exact ih (nodup_setField h pair.1 pair.2)

theorem nodup_fieldsOf (pairs : List (Text × α)) : ((fieldsOf pairs).map Prod.fst).Nodup :=
  nodup_setFields pairs List.nodup_nil

theorem mem_map_fst_setFields :
    key ∈ (setFields pairs fields).map Prod.fst ↔
      key ∈ pairs.map Prod.fst ∨ key ∈ fields.map Prod.fst := by
  induction pairs generalizing fields with
  | nil => simp [setFields]
  | cons pair pairs ih =>
    have hone : key ∈ (setField pair.1 pair.2 fields).map Prod.fst ↔
        key = pair.1 ∨ key ∈ fields.map Prod.fst := by
      rw [map_fst_setField]
      split
      · next h => exact ⟨.inr, fun hk => hk.elim (fun e => e ▸ h) id⟩
      · simp [or_comm]
    calc key ∈ (setFields (pair :: pairs) fields).map Prod.fst
        ↔ key ∈ pairs.map Prod.fst ∨ key ∈ (setField pair.1 pair.2 fields).map Prod.fst := ih
      _ ↔ key ∈ (pair :: pairs).map Prod.fst ∨ key ∈ fields.map Prod.fst := by
        rw [hone, List.map_cons, List.mem_cons, or_assoc, or_left_comm]

theorem mem_map_fst_fieldsOf : key ∈ (fieldsOf pairs).map Prod.fst ↔ key ∈ pairs.map Prod.fst := by
  simp [fieldsOf, mem_map_fst_setFields]

/-- Which keys come of setting fields does not depend on their values. -/
theorem map_fst_setFields_congr {pairs' fields' : List (Text × β)}
    (hpairs : pairs.map Prod.fst = pairs'.map Prod.fst)
    (hfields : fields.map Prod.fst = fields'.map Prod.fst) :
    (setFields pairs fields).map Prod.fst = (setFields pairs' fields').map Prod.fst := by
  induction pairs generalizing pairs' fields fields' with
  | nil =>
    obtain rfl := List.map_eq_nil_iff.mp hpairs.symm
    exact hfields
  | cons pair pairs ih =>
    obtain ⟨pair', rest, rfl, hpair, hrest⟩ := List.map_eq_cons_iff.mp hpairs.symm
    show (setFields pairs (setField pair.1 pair.2 fields)).map Prod.fst =
      (setFields rest (setField pair'.1 pair'.2 fields')).map Prod.fst
    exact ih hrest.symm (by rw [map_fst_setField, map_fst_setField, hfields, hpair])

/-! ### Fields that are set -/

theorem setField_of_notMem (h : key ∉ fields.map Prod.fst) :
    setField key value fields = fields ++ [(key, value)] := by
  induction fields with
  | nil => rfl
  | cons f fields ih =>
    rw [List.map_cons, List.mem_cons, not_or] at h
    rw [setField, if_neg (Ne.symm h.1), ih h.2, List.cons_append]

theorem setFields_of_nodup (h : ((fields ++ pairs).map Prod.fst).Nodup) :
    setFields pairs fields = fields ++ pairs := by
  induction pairs generalizing fields with
  | nil => rw [List.append_nil]; rfl
  | cons pair pairs ih =>
    have hnew : pair.1 ∉ fields.map Prod.fst := by
      rw [List.map_append, List.map_cons, List.nodup_append] at h
      exact fun hmem => h.2.2 _ hmem _ List.mem_cons_self rfl
    have hsplit : fields ++ pair :: pairs = (fields ++ [pair]) ++ pairs := by
      rw [List.append_assoc, List.singleton_append]
    rw [hsplit] at h ⊢
    rw [← ih h, ← setField_of_notMem hnew]
    rfl

/-- Every field that comes of setting fields was set or was there. -/
theorem mem_of_mem_setFields {f : Text × α} (h : f ∈ setFields pairs fields) :
    f ∈ pairs ∨ f ∈ fields := by
  have hone : ∀ (key : Text) (value : α) (fields : List (Text × α)),
      f ∈ setField key value fields → f = (key, value) ∨ f ∈ fields := by
    intro key value fields hf
    induction fields with
    | nil => exact .inl (List.mem_singleton.mp hf)
    | cons g fields ih =>
      rw [setField] at hf
      split at hf
      · next hkey =>
        rcases List.mem_cons.mp hf with rfl | hf
        · exact .inl (by rw [hkey])
        · exact .inr (List.mem_cons_of_mem g hf)
      · rcases List.mem_cons.mp hf with rfl | hf
        · exact .inr List.mem_cons_self
        · exact (ih hf).imp_right (List.mem_cons_of_mem g)
  induction pairs generalizing fields with
  | nil => exact .inr h
  | cons pair pairs ih =>
    rcases ih h with hf | hf
    · exact .inl (List.mem_cons_of_mem pair hf)
    · rcases hone pair.1 pair.2 fields hf with rfl | hf
      · exact .inl List.mem_cons_self
      · exact .inr hf

/-- Fields with distinct keys are what comes of setting them. -/
theorem fieldsOf_of_nodup (h : (pairs.map Prod.fst).Nodup) : fieldsOf pairs = pairs :=
  setFields_of_nodup h

theorem map_fst_setFields_of_subset (h : pairs.map Prod.fst ⊆ fields.map Prod.fst) :
    (setFields pairs fields).map Prod.fst = fields.map Prod.fst := by
  induction pairs generalizing fields with
  | nil => rfl
  | cons pair pairs ih =>
    rw [List.map_cons, List.cons_subset] at h
    have hone : (setField pair.1 pair.2 fields).map Prod.fst = fields.map Prod.fst := by
      rw [map_fst_setField, if_pos h.1]
    rw [← hone]
    exact ih (by rw [hone]; exact h.2)

/-! ### Fields that are set one after the other -/

theorem setFields_append (pairs pairs' fields : List (Text × α)) :
    setFields (pairs ++ pairs') fields = setFields pairs' (setFields pairs fields) :=
  List.foldl_append

theorem setField_setField_self (key : Text) (value value' : α) (fields : List (Text × α)) :
    setField key value (setField key value' fields) = setField key value fields := by
  induction fields with
  | nil => simp [setField]
  | cons f fields ih =>
    obtain ⟨k, v⟩ := f
    by_cases h : k = key
    · simp [setField, h]
    · simp [setField, h, ih]

/-- A field that has its place already can be set before or after another one. -/
theorem setField_setField_of_mem {key' : Text} (hne : key ≠ key')
    (hmem : key ∈ fields.map Prod.fst) (value value' : α) :
    setField key value (setField key' value' fields) =
      setField key' value' (setField key value fields) := by
  induction fields with
  | nil => cases hmem
  | cons f fields ih =>
    obtain ⟨k, v⟩ := f
    rw [List.map_cons, List.mem_cons] at hmem
    by_cases hk : k = key
    · subst hk
      simp [setField, hne]
    · by_cases hk' : k = key'
      · subst hk'
        simp [setField, hk]
      · simp [setField, hk, hk', ih (hmem.resolve_left (Ne.symm hk))]

theorem setField_setFields_of_mem (hnew : key ∉ pairs.map Prod.fst)
    (hmem : key ∈ fields.map Prod.fst) :
    setField key value (setFields pairs fields) = setFields pairs (setField key value fields) := by
  induction pairs generalizing fields with
  | nil => rfl
  | cons pair pairs ih =>
    rw [List.map_cons, List.mem_cons, not_or] at hnew
    have hstep : key ∈ (setField pair.1 pair.2 fields).map Prod.fst := by
      rw [map_fst_setField]
      split
      · exact hmem
      · exact List.mem_append_left _ hmem
    calc setField key value (setFields pairs (setField pair.1 pair.2 fields))
        = setFields pairs (setField key value (setField pair.1 pair.2 fields)) := ih hnew.2 hstep
      _ = setFields pairs (setField pair.1 pair.2 (setField key value fields)) := by
        rw [setField_setField_of_mem hnew.1 hmem]

/-- A field that is set among fields with distinct keys, which are set then, can be set after them.
-/
theorem setFields_setField (h : (pairs.map Prod.fst).Nodup) (key : Text) (value : α)
    (fields : List (Text × α)) :
    setFields (setField key value pairs) fields = setField key value (setFields pairs fields) := by
  induction pairs generalizing fields with
  | nil => rfl
  | cons pair pairs ih =>
    obtain ⟨k, v⟩ := pair
    rw [List.map_cons, List.nodup_cons] at h
    by_cases hk : k = key
    · subst hk
      have hmem : k ∈ (setField k v fields).map Prod.fst := by
        rw [map_fst_setField]
        split
        · assumption
        · exact List.mem_append_right _ (List.mem_singleton_self k)
      calc setFields (setField k value ((k, v) :: pairs)) fields
          = setFields pairs (setField k value fields) := by rw [setField, if_pos rfl]; rfl
        _ = setFields pairs (setField k value (setField k v fields)) := by
          rw [setField_setField_self]
        _ = setField k value (setFields pairs (setField k v fields)) :=
          (setField_setFields_of_mem h.1 hmem).symm
    · rw [setField, if_neg hk]
      exact ih h.2 (setField k v fields)

theorem fieldsOf_append_singleton (pairs : List (Text × α)) (pair : Text × α) :
    fieldsOf (pairs ++ [pair]) = setField pair.1 pair.2 (fieldsOf pairs) :=
  setFields_append pairs [pair] []

/-- Fields may be set among themselves before they are set among others. -/
theorem setFields_fieldsOf (pairs fields : List (Text × α)) :
    setFields (fieldsOf pairs) fields = setFields pairs fields := by
  induction pairs using List.reverseRecOn with
  | nil => rfl
  | append_singleton pairs pair ih =>
    calc setFields (fieldsOf (pairs ++ [pair])) fields
        = setFields (setField pair.1 pair.2 (fieldsOf pairs)) fields := by
          rw [fieldsOf_append_singleton]
      _ = setField pair.1 pair.2 (setFields (fieldsOf pairs) fields) :=
        setFields_setField (nodup_fieldsOf pairs) _ _ _
      _ = setFields (pairs ++ [pair]) fields := by rw [ih, setFields_append]; rfl

/-- Every key has the place at which it first comes. -/
theorem map_fst_fieldsOf (pairs : List (Text × α)) :
    (fieldsOf pairs).map Prod.fst = (pairs.map Prod.fst).eraseDups := by
  induction pairs using List.reverseRecOn with
  | nil => rfl
  | append_singleton pairs pair ih =>
    rw [fieldsOf_append_singleton, map_fst_setField, ih, List.map_append, List.map_singleton,
      List.eraseDups_append]
    split <;> rename_i h <;> rw [List.mem_eraseDups] at h
    · simp [List.removeAll, h]
    · simp [List.removeAll, h, List.eraseDups_cons]

/-! ### Fields that are looked up -/

/-- Every key has the value with which it last comes. -/
theorem lookup_fieldsOf (pairs : List (Text × α)) (key : Text) :
    (fieldsOf pairs).lookup key = pairs.reverse.lookup key := by
  induction pairs using List.reverseRecOn with
  | nil => rfl
  | append_singleton pairs pair ih =>
    rw [fieldsOf_append_singleton, lookup_setField, ih, List.reverse_append,
      List.reverse_singleton, List.singleton_append, List.lookup_cons]
    split
    · next h => rw [beq_iff_eq.mpr h]
    · next h => rw [beq_eq_false_iff_ne.mpr h]

theorem lookup_of_mem (h : (fields.map Prod.fst).Nodup) (hmem : (key, value) ∈ fields) :
    fields.lookup key = some value := by
  induction fields with
  | nil => cases hmem
  | cons f fields ih =>
    rw [List.map_cons, List.nodup_cons] at h
    rcases List.mem_cons.mp hmem with rfl | hmem
    · exact List.lookup_cons_self
    · have hne : key ≠ f.1 := by
        rintro rfl
        exact h.1 (List.mem_map.mpr ⟨_, hmem, rfl⟩)
      rw [List.lookup_cons, beq_eq_false_iff_ne.mpr hne]
      exact ih h.2 hmem

end Fields

/-! ### Columns -/

/-- The columns of some records are the keys of any of them. -/
theorem mem_recordColumns {column : Text} {records : List Record} :
    column ∈ recordColumns records ↔ ∃ r ∈ records, column ∈ r.map Prod.fst := by
  rw [recordColumns, mem_map_fst_fieldsOf, List.map_map]
  simp only [List.mem_map, List.mem_flatten, Function.comp_apply]
  constructor
  · rintro ⟨f, ⟨r, hr, hf⟩, rfl⟩
    exact ⟨r, hr, f, hf, rfl⟩
  · rintro ⟨r, hr, f, hf, rfl⟩
    exact ⟨f, ⟨r, hr, hf⟩, rfl⟩

/-- Records that all have the same distinct keys have these as their columns. -/
theorem recordColumns_of_forall {columns : List Text} (hnodup : columns.Nodup)
    {records : List Record} (hne : records ≠ []) (h : ∀ r ∈ records, r.map Prod.fst = columns) :
    recordColumns records = columns := by
  obtain ⟨r, records, rfl⟩ := List.exists_cons_of_ne_nil hne
  rw [List.forall_mem_cons] at h
  obtain ⟨hr, hrest⟩ := h
  have hkeys : (r.map fun f => (f.1, ())).map Prod.fst = columns := by
    rw [List.map_map]
    exact hr
  have hfirst : setFields (r.map fun f => (f.1, ())) [] = r.map fun f => (f.1, ()) :=
    fieldsOf_of_nodup (by rwa [hkeys])
  have hsubset : (records.flatten.map fun f => (f.1, ())).map Prod.fst ⊆ columns := by
    intro key hkey
    rw [List.map_map] at hkey
    obtain ⟨f, hf, rfl⟩ := List.mem_map.mp hkey
    obtain ⟨r', hr', hf⟩ := List.mem_flatten.mp hf
    exact hrest r' hr' ▸ List.mem_map_of_mem hf
  calc recordColumns (r :: records)
      = (setFields (records.flatten.map fun f => (f.1, ()))
          (setFields (r.map fun f => (f.1, ())) [])).map Prod.fst := by
        rw [recordColumns, fieldsOf, List.flatten_cons, List.map_append, setFields,
          List.foldl_append]
        rfl
    _ = (r.map fun f => (f.1, ())).map Prod.fst := by
        rw [hfirst]
        exact map_fst_setFields_of_subset (by rwa [hkeys])
    _ = columns := hkeys

end SchemaMill
