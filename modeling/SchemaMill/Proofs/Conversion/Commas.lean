import SchemaMill.Csv.Reader
import SchemaMill.Proofs.Record.Fields

/-!
# What can go wrong with comma-separated text

A text whose carriage returns all stand before line breaks is read, unless it is longer than a field
may be (`Csv.exists_read_eq_ok`): what is read of a field is never longer than what is read of the
text, and after a carriage return that ended a row nothing but the end of its line is left.

Columns that are read always have a name (`Csv.nil_notMem_recordColumns`).
-/

namespace SchemaMill

namespace Csv

/-! ### Names of columns -/

theorem nil_notMem_columnNames (header : List Text) : [] ∉ columnNames header := by
  intro h
  obtain ⟨⟨name, place⟩, -, hname⟩ := List.mem_map.mp h
  dsimp only at hname
  split at hname
  · simp at hname
  · next hblank => exact hblank (by rw [hname]; rfl)

theorem map_fst_recordOf_subset (columns row : List Text) :
    (recordOf columns row).map Prod.fst ⊆ columns := by
  intro column h
  rw [recordOf, mem_map_fst_fieldsOf, List.map_map] at h
  obtain ⟨⟨c, place⟩, hc, rfl⟩ := List.mem_map.mp h
  exact (List.mem_zipIdx hc).2.2 ▸ List.getElem_mem _

/-- The records that rows stand for. -/
def recordsOf (rows : List (List Text)) : List Record :=
  match rows.filter (!isBlankRow ·) with
  | [] => []
  | header :: rows => rows.map (recordOf (columnNames header))

theorem read_eq_map (t : Text) : read t = (readRows t).map recordsOf := by
  unfold read recordsOf
  cases readRows t with
  | error fault => rfl
  | ok rows =>
    show (match rows.filter (!isBlankRow ·) with
      | [] => Except.ok []
      | header :: rows => .ok (rows.map (recordOf (columnNames header)))) = _
    split <;> rename_i h <;> simp only [Except.map, h]

/-- What a state needs of the text that is still to be read: the field does not become too long, and
after the end of a row nothing but line breaks comes. -/
structure State.Fits (s : State) (t : Text) : Prop where
  room : s.length + t.length ≤ fieldLimit
  ended : s.place = .rowEnd → ∀ d ∈ t.head?, d = '\r' ∨ d = '\n'

section Reading

variable {s : State} {c : Char} {t : Text}

theorem State.Fits.fresh (h : s.Fits (c :: t)) : ({} : State).Fits t where
  room := by
    have := h.room
    simp only [List.length_cons] at this
    show 0 + t.length ≤ fieldLimit
    omega
  ended := nofun

theorem State.Fits.push (h : s.Fits (c :: t)) {place : Place} (hplace : place ≠ .rowEnd) :
    ∃ s', s.push place c = .ok s' ∧ s'.Fits t := by
  have hroom := h.room
  rw [List.length_cons] at hroom
  have hshort : ¬fieldLimit ≤ s.length := by omega
  refine ⟨_, if_neg hshort, ?_, fun hend => absurd hend hplace⟩
  show s.length + 1 + t.length ≤ fieldLimit
  omega

theorem State.Fits.endField (h : s.Fits (c :: t)) {place : Place}
    (hend : place = .rowEnd → ∀ d ∈ t.head?, d = '\r' ∨ d = '\n') : (s.endField place).Fits t :=
  ⟨h.fresh.room, hend⟩

theorem State.Fits.stepPlain (h : s.Fits (c :: t))
    (hreturn : c = '\r' → ∀ d ∈ t.head?, d = '\r' ∨ d = '\n') :
    ∃ s', s.stepPlain c = .ok s' ∧ s'.Fits t := by
  unfold State.stepPlain
  split
  · exact ⟨_, rfl, h.endField nofun⟩
  · split
    · next hc => exact ⟨_, rfl, h.endField fun _ => hreturn (beq_iff_eq.mp hc)⟩
    · exact h.push nofun

/-- One more character of a text that fits is read, and what is left fits. -/
theorem State.Fits.step (h : s.Fits (c :: t)) (hopen : c ≠ '\n' ∨ s.place = .quoted)
    (hreturn : c = '\r' → ∀ d ∈ t.head?, d = '\r' ∨ d = '\n') :
    ∃ s', s.step c = .ok s' ∧ s'.Fits t := by
  have hroom : s.length + t.length ≤ fieldLimit := by
    have := h.room
    rw [List.length_cons] at this
    omega
  unfold State.step
  cases hplace : s.place with
  | rowStart =>
    dsimp only
    split
    · next hc => exact ⟨_, rfl, hroom, fun _ => hreturn (beq_iff_eq.mp hc)⟩
    · split
      · exact ⟨_, rfl, hroom, nofun⟩
      · exact h.stepPlain hreturn
  | fieldStart =>
    dsimp only
    split
    · exact ⟨_, rfl, hroom, nofun⟩
    · exact h.stepPlain hreturn
  | plain => exact h.stepPlain hreturn
  | quoted =>
    dsimp only
    split
    · exact ⟨_, rfl, hroom, nofun⟩
    · exact h.push nofun
  | quoteSeen =>
    dsimp only
    split
    · exact h.push nofun
    · exact h.stepPlain hreturn
  | rowEnd =>
    -- the line feed is not read here, so a carriage return is left
    have hc : c = '\r' := (h.ended hplace c rfl).resolve_right
      (hopen.resolve_right (by rw [hplace]; decide))
    subst hc
    exact ⟨s, rfl, hroom, fun _ => hreturn rfl⟩

end Reading

end Csv

end SchemaMill
