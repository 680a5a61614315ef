import SchemaMill.Proofs.Json.RoundTrip

/-!
# Flattening as a walk

An object comes down to the record that has a field for each value below it that is no object: its
key is made of the keys on the way to the value, and the fields are set in the order in which a walk
through the object meets them (`flatten_eq_fieldsOf_leaves`). It does not matter that every inner
object is flattened by itself, so that its fields are set among themselves before they are set among
those around it (`setFields_fieldsOf`).
-/

namespace SchemaMill.Json

/-! ### Paths -/

/-- The key that the keys on the way to a value make: they are joined with underscores, but for
those at the start that are empty. -/
def pathKey (path : List Text) : Text := joinWith ['_'] (path.dropWhile List.isEmpty)

theorem joinWith_append_singleton {ts : List Text} (h : ts ≠ []) (sep t : Text) :
    joinWith sep (ts ++ [t]) = joinWith sep ts ++ sep ++ t := by
  induction ts with
  | nil => exact absurd rfl h
  | cons u ts ih =>
    cases ts with
    | nil => rfl
    | cons v ts =>
      have hcons : ∀ ws, joinWith sep (u :: v :: ws) = u ++ sep ++ joinWith sep (v :: ws) :=
        fun _ => rfl
      have hrest : joinWith sep (v :: (ts ++ [t])) = joinWith sep (v :: ts) ++ sep ++ t :=
        ih (List.cons_ne_nil v ts)
      rw [List.cons_append, List.cons_append, hcons, hrest, hcons]
      simp only [List.append_assoc]

theorem isEmpty_pathKey (path : List Text) :
    (pathKey path).isEmpty = (path.dropWhile List.isEmpty).isEmpty := by
  unfold pathKey
  cases hpath : path.dropWhile List.isEmpty with
  | nil => rfl
  | cons key rest =>
    have hkey : key.isEmpty = false := by
      have hfirst := List.head?_dropWhile_not List.isEmpty path
      rw [hpath, List.head?_cons] at hfirst
      simpa using hfirst
    obtain ⟨c, key, rfl⟩ := List.exists_cons_of_ne_nil (List.isEmpty_eq_false_iff.mp hkey)
    cases rest <;> rfl

theorem joinedKey_pathKey (path : List Text) (key : Text) :
    joinedKey (pathKey path) key = pathKey (path ++ [key]) := by
  rw [joinedKey, isEmpty_pathKey, pathKey, pathKey, List.dropWhile_append]
  cases hpath : path.dropWhile List.isEmpty with
  | nil =>
    cases key <;> rfl
  | cons first rest =>
    have hjoined := joinWith_append_singleton (List.cons_ne_nil first rest) ['_'] key
    simp only [List.isEmpty_cons, Bool.false_eq_true, if_false, hjoined, List.append_assoc,
      List.singleton_append]

/-! ### The walk -/

mutual

/-- The values below an object that are no objects, in the order of the text, each with the keys on
the way to it; `above` are the keys on the way to the object. -/
def leaves (above : List Text) : List (Text × Value) → List (List Text × Value)
  | [] => []
  | (key, v) :: rest => leavesAt (above ++ [key]) v ++ leaves above rest

/-- The same of a value at the end of a path: below an object, or the value itself. -/
def leavesAt (path : List Text) : Value → List (List Text × Value)
  | .object fields => leaves path fields
  | v => [(path, v)]

end

/-- What a value that is no object becomes in a record: an array is kept as its JSON text. -/
def leafValue : Value → Value
  | .array items => .text (print loose (.array items))
  | v => v

/-- The field that a value at the end of a path becomes. -/
def leafField (leaf : List Text × Value) : Text × Value := (pathKey leaf.1, leafValue leaf.2)

-- the keys on the way are kept as a path here, and as the one key that they make where objects are
-- flattened

mutual

theorem flattenFields_pathKey (path : List Text) :
    ∀ (fields : List (Text × Value)) (there : Record),
      flattenFields (pathKey path) there fields =
        setFields ((leaves path fields).map leafField) there
  | [], _ => rfl
  | (key, v) :: rest, there => by
    rw [flattenFields, joinedKey_pathKey, flattenValue_pathKey (path ++ [key]) v,
      setFields_fieldsOf, flattenFields_pathKey path rest, leaves, List.map_append,
      setFields_append]

/-- What is below a value comes down to the fields of the walk, set among themselves. -/
theorem flattenValue_pathKey (path : List Text) : ∀ v : Value,
    flattenValue (pathKey path) v = fieldsOf ((leavesAt path v).map leafField)
  | .object fields => flattenFields_pathKey path fields []
  | .array _ => rfl
  | .null => rfl
  | .bool _ => rfl
  | .int _ => rfl
  | .double _ => rfl
  | .text _ => rfl

end

mutual

theorem isNested_of_mem_leaves (path : List Text) : ∀ fields : List (Text × Value),
    ∀ leaf ∈ leaves path fields, (leafValue leaf.2).isNested = false
  | [], _, h => absurd h List.not_mem_nil
  | (key, v) :: rest, leaf, h => (List.mem_append.mp h).elim
    (isNested_of_mem_leavesAt (path ++ [key]) v leaf) (isNested_of_mem_leaves path rest leaf)

theorem isNested_of_mem_leavesAt (path : List Text) : ∀ v : Value,
    ∀ leaf ∈ leavesAt path v, (leafValue leaf.2).isNested = false
  | .object fields => isNested_of_mem_leaves path fields
  | .array _ => List.forall_mem_singleton.mpr rfl
  | .null => List.forall_mem_singleton.mpr rfl
  | .bool _ => List.forall_mem_singleton.mpr rfl
  | .int _ => List.forall_mem_singleton.mpr rfl
  | .double _ => List.forall_mem_singleton.mpr rfl
  | .text _ => List.forall_mem_singleton.mpr rfl

end

/-- An object comes down to the fields of a walk through it, set one after the other: each key has
the place at which the walk meets it first and the value with which it meets it last. The record
holds neither objects nor arrays, and it comes down to itself. -/
theorem flatten_eq_fieldsOf_leaves (fields : List (Text × Value)) :
    flatten fields = fieldsOf ((leaves [] fields).map leafField) ∧
      (flatten fields).map Prod.fst =
        ((leaves [] fields).map fun leaf => pathKey leaf.1).eraseDups ∧
      (∀ key, (flatten fields).lookup key =
        ((leaves [] fields).map leafField).reverse.lookup key) ∧
      ((flatten fields).all fun f => !f.2.isNested) ∧
      flatten (flatten fields) = flatten fields := by
  have hwalk : flatten fields = fieldsOf ((leaves [] fields).map leafField) :=
    flattenFields_pathKey [] fields []
  have hnodup : ((flatten fields).map Prod.fst).Nodup := hwalk ▸ nodup_fieldsOf _
  have hflat : ∀ f ∈ flatten fields, f.2.isNested = false := by
    intro f hf
    rw [hwalk] at hf
    obtain ⟨leaf, hleaf, rfl⟩ :=
      List.mem_map.mp ((mem_of_mem_setFields hf).resolve_right List.not_mem_nil)
    exact isNested_of_mem_leaves [] fields leaf hleaf
  refine ⟨hwalk, ?_, fun key => ?_, ?_, flatten_of_flat hnodup hflat⟩
  · rw [hwalk, map_fst_fieldsOf, List.map_map]
    rfl
  · rw [hwalk, lookup_fieldsOf]
  · simpa using fun key v h => hflat (key, v) h

/-- Two paths may make one key, and an empty key makes none at the start of a path. -/
example :
    flatten [("a", .object [("b", .int 1), ("", .null)]),
        ("", .object [("a_b", .array [.int 2])])] =
      ([("a_b", .text "[2]"), ("a_", .null)] : Record) := rfl

end SchemaMill.Json
