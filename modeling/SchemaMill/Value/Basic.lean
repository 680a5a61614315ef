import SchemaMill.Decimal.Shortest

/-!
# Values and records

The values of records are those of JSON: null, truth values, numbers, texts, arrays and objects. An
object and a record are lists of fields in the order in which the keys first came. The columns of
several records are their keys, each once, in the order in which they first come.
-/

namespace SchemaMill

/-- A value of a record. -/
inductive Value where
  | null
  | bool (b : Bool)
  | int (n : Int)
  | double (d : Double)
  | text (t : Text)
  | array (items : List Value)
  | object (fields : List (Text × Value))
  deriving Repr

/-- A record: its fields in order, with distinct keys. -/
abbrev Record := List (Text × Value)

/-- Sets the field of a key: a key that is there keeps its place, a new key comes last. -/
def setField {α : Type} (key : Text) (value : α) : List (Text × α) → List (Text × α)
  | [] => [(key, value)]
  | (k, v) :: rest => if k = key then (k, value) :: rest else (k, v) :: setField key value rest

/-- Sets several fields one after the other. -/
def setFields {α : Type} (pairs fields : List (Text × α)) : List (Text × α) :=
  pairs.foldl (fun fields (key, value) => setField key value fields) fields

/-- The fields that come of setting several one after the other. -/
def fieldsOf {α : Type} (pairs : List (Text × α)) : List (Text × α) := setFields pairs []

/-- The columns of some records. -/
def recordColumns (records : List Record) : List Text :=
  (fieldsOf (records.flatten.map fun f => (f.1, ()))).map Prod.fst

theorem map_fst_setField {α : Type} (key : Text) (value : α) (fields : List (Text × α)) :
    (setField key value fields).map Prod.fst =
      if key ∈ fields.map Prod.fst then fields.map Prod.fst else fields.map Prod.fst ++ [key] := by
  induction fields with
  | nil => rfl
  | cons f rest ih =>
    obtain ⟨k, v⟩ := f
    by_cases h : k = key
    · simp [setField, h]
    · have h' : ¬key = k := fun e => h e.symm
      simp only [setField, h, if_false, List.map_cons, ih, List.mem_cons, h', false_or]
      split <;> simp

/-- A field that was set holds what it was set to, and no other field changes. -/
theorem lookup_setField {α : Type} (key k : Text) (value : α) (fields : List (Text × α)) :
    (setField key value fields).lookup k = if k = key then some value else fields.lookup k := by
  induction fields with
  | nil =>
    by_cases h : k = key
    · simp [setField, h]
    · simp [setField, List.lookup_cons, beq_eq_false_iff_ne.mpr h, h]
  | cons f rest ih =>
    obtain ⟨k', v⟩ := f
    by_cases h : k' = key <;> by_cases hk : k = k'
    · simp [setField, h, hk]
    · subst h; simp [setField, List.lookup_cons, beq_eq_false_iff_ne.mpr hk, hk]
    · subst hk; simp [setField, h]
    · simp [setField, List.lookup_cons, beq_eq_false_iff_ne.mpr hk, h, ih]

end SchemaMill
