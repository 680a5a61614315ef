import Mathlib.Tactic.SplitIfs
import SchemaMill.File.Folder

/-!
# What stays when folders are made and files are written

Names lead to the same place as long as the folders on the way stay (`placeOf_of_standing`), and
they do: making folders changes nothing that is there (`keeps_makeFolders`), and a file is never put
in place of a folder (`standing_write`). So a file that was written is read back (`read_of_write`)
and a file at another place is left alone (`read_of_write_of_ne`). Two names in one folder stand at
two places (`placeOf_child_inj`).
-/

namespace SchemaMill

theorem bind_eq_ok {α β ε : Type} {x : Except ε α} {f : α → Except ε β} {b : β} :
    x >>= f = .ok b ↔ ∃ a, x = .ok a ∧ f a = .ok b := by
  cases x <;> simp [bind, Except.bind]

namespace Folder

open Charset

variable {f f' f'' : Folder} {p p' : Path} {c c' : Bytes} {place q : Place}

/-! ### On the way to a place -/

/-- The place that one name leads to from the place of a folder. -/
def next? (place : Place) (name : Text) : Option Place :=
  if nameLimit < (String.ofList name).utf8ByteSize then none
  else if name = "..".toList then
    if place = [] then none else if place = [['/']] then some place else some place.dropLast
  else some (place ++ [name])

/-- A name leads on only where a folder stands. -/
theorem walk_cons_eq_ok {name : Text} {rest : List Text} :
    f.walk place (name :: rest) = .ok q ↔ f.node? place = some .folder ∧
      ∃ next, next? place name = some next ∧ f.walk next rest = .ok q := by
  rw [walk, next?]
  split
  · next h => simp [h]
  · next h => simp [h]
  · next h =>
    simp only [h, true_and]
    split_ifs <;> simp

/-- All folders of one state are there in the other. -/
structure Standing (f f' : Folder) : Prop where
  here : f'.here = f.here
  folder : ∀ q, f.node? q = some .folder → f'.node? q = some .folder

theorem walk_of_standing (h : Standing f f') {names : List Text}
    (hwalk : f.walk place names = .ok q) : f'.walk place names = .ok q := by
  induction names generalizing place with
  | nil => exact hwalk
  | cons name rest ih =>
    obtain ⟨hfolder, next, hnext, hrest⟩ := walk_cons_eq_ok.mp hwalk
    exact walk_cons_eq_ok.mpr ⟨h.folder place hfolder, next, hnext, ih hrest⟩

theorem placeOf_of_standing (h : Standing f f') (hplace : f.placeOf p = .ok q) :
    f'.placeOf p = .ok q := by
  unfold placeOf at hplace ⊢
  split_ifs at hplace ⊢ with hnull hlong hstart
  · rw [h.here]
    exact walk_of_standing h hplace
  · exact walk_of_standing h hplace

theorem walk_concat {names : List Text} {name : Text} (hname : name ≠ "..".toList)
    (h : f.walk place (names ++ [name]) = .ok q) : ∃ above, q = above ++ [name] := by
  induction names generalizing place with
  | nil =>
    obtain ⟨-, next, hnext, hlast⟩ := walk_cons_eq_ok.mp h
    obtain rfl := Except.ok.inj hlast
    unfold next? at hnext
    rw [if_neg hname] at hnext
    split_ifs at hnext
    exact ⟨place, (Option.some.inj hnext).symm⟩
  | cons first rest ih =>
    obtain ⟨-, next, -, hrest⟩ := walk_cons_eq_ok.mp h
    exact ih hrest

theorem placeOf_child {name : Text} (hname : name ≠ "..".toList)
    (h : f.placeOf (p.child name) = .ok q) : ∃ above, q = above ++ [name] := by
  unfold placeOf at h
  split_ifs at h
  · exact walk_concat hname h
  · exact walk_concat hname h

/-- Two names in one folder do not stand at one place. -/
theorem placeOf_child_inj {name name' : Text} (hname : name ≠ "..".toList)
    (hname' : name' ≠ "..".toList) (h : f.placeOf (p.child name) = .ok q)
    (h' : f.placeOf (p'.child name') = .ok q) : name = name' := by
  obtain ⟨above, rfl⟩ := placeOf_child hname h
  obtain ⟨above', hq⟩ := placeOf_child hname' h'
  exact List.singleton_inj.mp (List.append_inj' hq rfl).2

/-! ### Reading -/

theorem read_eq_ok : f.read p = .ok c ↔
    ∃ q, f.placeOf p = .ok q ∧ f.node? q = some (.file c) := by
  unfold read look
  simp only [bind_eq_ok]
  constructor
  · rintro ⟨n, ⟨q, hq, hn⟩, hc⟩
    refine ⟨q, hq, ?_⟩
    split at hn
    · next hnode =>
      obtain rfl := Except.ok.inj hn
      split at hc
      · rw [hnode, Except.ok.inj hc]
      · cases hc
    · cases hn
  · rintro ⟨q, hq, hnode⟩
    exact ⟨.file c, ⟨q, hq, by rw [hnode]⟩, rfl⟩

/-! ### Making folders -/

/-- What stands somewhere in one state stands there in the other. -/
structure Keeps (f f' : Folder) : Prop where
  here : f'.here = f.here
  node : ∀ q n, f.node? q = some n → f'.node? q = some n

theorem Keeps.refl (f : Folder) : Keeps f f := ⟨rfl, fun _ _ h => h⟩

theorem Keeps.trans (h : Keeps f f') (h' : Keeps f' f'') : Keeps f f'' :=
  ⟨h'.here.trans h.here, fun q n hq => h'.node q n (h.node q n hq)⟩

theorem Keeps.standing (h : Keeps f f') : Standing f f' := ⟨h.here, fun q => h.node q _⟩

theorem Keeps.read (h : Keeps f f') (hread : f.read p = .ok c) : f'.read p = .ok c := by
  obtain ⟨q, hq, hnode⟩ := read_eq_ok.mp hread
  exact read_eq_ok.mpr ⟨q, placeOf_of_standing h.standing hq, h.node q _ hnode⟩

/-- Something is put where nothing was, or a file where another one was: in both cases no folder is
lost. -/
theorem node?_put_of_ne {n : Node} (hq : f.node? q ≠ some .folder) (place : Place) :
    (f.put q n).node? place = if place = q then some n else f.node? place := by
  refine node?_put f n ?_ ?_ place
  · rintro rfl
    exact hq rfl
  · rintro rfl
    exact hq rfl

theorem keeps_makeFolder (h : f.makeFolder p = .ok f') : Keeps f f' := by
  unfold makeFolder at h
  obtain ⟨q, -, h⟩ := bind_eq_ok.mp h
  split at h
  · cases h
  · next hnone =>
    obtain rfl := Except.ok.inj h
    refine ⟨rfl, fun place n hn => ?_⟩
    rw [node?_put_of_ne (by rw [hnone]; nofun), if_neg, hn]
    rintro rfl
    rw [hnone] at hn
    cases hn

theorem eq_of_isFolder {e : FileFault}
    (h : (if f.isFolder p then .ok f else .error e) = Except.ok f') : f' = f := by
  split at h
  · exact (Except.ok.inj h).symm
  · cases h

/-- What each step of making folders does to the state, making them does: a relation between states
that can be chained and that holds of each folder that is made. -/
theorem rel_makeFolders {R : Folder → Folder → Prop} (refl : ∀ f, R f f)
    (trans : ∀ {f f' f''}, R f f' → R f' f'' → R f f'')
    (step : ∀ {f f' p}, f.makeFolder p = .ok f' → R f f') (h : f.makeFolders p = .ok f') :
    R f f' := by
  unfold makeFolders at h
  generalize p.names.reverse = names at h
  induction names generalizing f' with
  | nil =>
    obtain rfl := Except.ok.inj h
    exact refl f
  | cons name above ih =>
    unfold makeFoldersFrom at h
    dsimp only at h
    split at h
    · next hmade =>
      obtain rfl := Except.ok.inj h
      exact step hmade
    · obtain ⟨g, habove, h⟩ := bind_eq_ok.mp h
      refine trans (ih habove) ?_
      split at h
      · next hmade =>
        obtain rfl := Except.ok.inj h
        exact step hmade
      · rw [eq_of_isFolder h]
        exact refl g
    · rw [eq_of_isFolder h]
      exact refl f

theorem keeps_makeFolders (h : f.makeFolders p = .ok f') : Keeps f f' :=
  rel_makeFolders .refl .trans keeps_makeFolder h

/-- All files that stand in one state stand in the other. -/
def FilesWithin (f' f : Folder) : Prop :=
  ∀ q c, f'.node? q = some (.file c) → f.node? q = some (.file c)

theorem filesWithin_makeFolder (h : f.makeFolder p = .ok f') : FilesWithin f' f := by
  unfold makeFolder at h
  obtain ⟨q, -, h⟩ := bind_eq_ok.mp h
  split at h
  · cases h
  · next hnone =>
    obtain rfl := Except.ok.inj h
    intro place c hfile
    rw [node?_put_of_ne (by rw [hnone]; nofun)] at hfile
    split at hfile
    · cases hfile
    · exact hfile

theorem filesWithin_makeFolders (h : f.makeFolders p = .ok f') : FilesWithin f' f :=
  rel_makeFolders (R := fun f f' => FilesWithin f' f) (fun _ _ _ hq => hq)
    (fun h₁ h₂ q c hq => h₁ q c (h₂ q c hq)) filesWithin_makeFolder h

/-! ### Writing -/

theorem write_eq_ok : f.write p c = .ok f' ↔
    ∃ q, f.placeOf p = .ok q ∧ f.node? q ≠ some .folder ∧ f' = f.put q (.file c) := by
  unfold write
  rw [bind_eq_ok]
  refine exists_congr fun q => and_congr_right fun _ => ?_
  split
  · next h => simp [h]
  · next h => exact ⟨fun hf => ⟨h, (Except.ok.inj hf).symm⟩, fun hf => congrArg _ hf.2.symm⟩

theorem standing_write (h : f.write p c = .ok f') : Standing f f' := by
  obtain ⟨q, -, hq, rfl⟩ := write_eq_ok.mp h
  refine ⟨rfl, fun place hplace => ?_⟩
  rw [node?_put_of_ne hq, if_neg, hplace]
  rintro rfl
  exact hq hplace

/-- A file that was written is read back. -/
theorem read_of_write (h : f.write p c = .ok f') : f'.read p = .ok c := by
  have hstanding := standing_write h
  obtain ⟨q, hplace, hq, rfl⟩ := write_eq_ok.mp h
  refine read_eq_ok.mpr ⟨q, placeOf_of_standing hstanding hplace, ?_⟩
  rw [node?_put_of_ne hq, if_pos rfl]

/-- A file is left alone when one is written at another place. -/
theorem read_of_write_of_ne (h : f.write p c = .ok f') (hread : f.read p' = .ok c')
    (hne : f.placeOf p' ≠ f.placeOf p) : f'.read p' = .ok c' := by
  have hstanding := standing_write h
  obtain ⟨q, hplace, hq, rfl⟩ := write_eq_ok.mp h
  obtain ⟨q', hplace', hnode⟩ := read_eq_ok.mp hread
  refine read_eq_ok.mpr ⟨q', placeOf_of_standing hstanding hplace', ?_⟩
  rw [node?_put_of_ne hq, if_neg, hnode]
  rintro rfl
  exact hne (hplace'.trans hplace.symm)

end Folder

end SchemaMill
