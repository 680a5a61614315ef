import SchemaMill.Proofs.Watch.Isolation

/-!
# What a watcher remembers agrees with what it was shown

A watcher has two maps, of the files that wait and of the states in which files were handed over.
`Watcher.Coherent` says that no file waits in the state in which it was handed over last, and
`Watcher.Knows` that both maps are about the files of a scan, each of which stands in one of them as
it was shown.

A look keeps a watcher coherent (`IsLook.coherent`), and so does each file that is taken
(`Watcher.Coherent.take`). After the files were shown, a watcher knows them
(`Watcher.knows_settle`). The hand-overs of a poll are listed by `Watcher.handOvers`, each with the
watcher as it is just then. What waits for a file is still there when its turn comes, since the
files before it are others (`Watcher.of_mem_handOvers`).
-/

namespace SchemaMill.Watch

variable {τ σ : Type}

namespace Watcher

/-- No file waits in the state in which it was handed over last. -/
def Coherent (w : Watcher τ) : Prop :=
  ∀ file state since, w.pending.lookup file = some (state, since) →
    w.processed.lookup file ≠ some state

/-- A watcher remembers files of a scan only, and each of them in the state it was shown in: it was
handed over in this state last, or it waits in it. -/
structure Knows (w : Watcher τ) (scan : Scan) : Prop where
  pending : w.pending.map Prod.fst ⊆ scan.map Prod.fst
  processed : w.processed.map Prod.fst ⊆ scan.map Prod.fst
  shown : ∀ file state, scan.lookup file = some state →
    w.processed.lookup file = some state ∨ ∃ since, w.pending.lookup file = some (state, since)

/-- The files that are handed over one after the other, each with the watcher that does it. -/
def handOvers (handle : Handler σ) (w : Watcher τ) (world : σ) : List Text → List (Watcher τ × Text)
  | [] => []
  | file :: rest =>
    if w.stopped then []
    else
      let first := handOver handle w world file
      (w, file) :: handOvers handle first.watcher first.world rest

/-! ### Showing the files -/

section Settle

variable [Sub τ] [LE τ] [DecidableLE τ] (s : Settings τ) (now : τ) {scan : Scan}

theorem knows_settle (w : Watcher τ) (hnd : (scan.map Prod.fst).Nodup) :
    (w.settle s now scan).watcher.Knows scan := by
  refine ⟨fun file hfile => ?_, fun file hfile => ?_, fun file state hshown => ?_⟩
  · rw [← isSome_lookup_iff, lookup_pending_settle s now w hnd] at hfile
    rw [← isSome_lookup_iff]
    exact Option.isSome_of_isSome_bind hfile
  · rw [← isSome_lookup_iff, lookup_processed_settle] at hfile
    rw [← isSome_lookup_iff]
    split at hfile
    · next hthere => exact hthere
    · cases hfile
  · rw [lookup_processed_settle, lookup_pending_settle s now w hnd, hshown]
    refine or_iff_not_imp_left.mpr fun hlast => ?_
    obtain ⟨since, hentry⟩ := exists_entryAfter hlast now (w.pending.lookup file)
    exact ⟨since, hentry⟩

end Settle

/-! ### Handing the ready files over -/

section HandOver

variable {handle : Handler σ} {w w' : Watcher τ} {world : σ} {files : List Text} {file : Text}

theorem Coherent.take (h : w.Coherent) (file : Text) : (w.take file).Coherent := by
  intro k state since hentry
  rw [lookup_pending_take] at hentry
  split at hentry
  · cases hentry
  · next hne =>
    rw [lookup_processed_take_of_ne _ hne]
    exact h k state since hentry

theorem Coherent.handOver (h : w.Coherent) (handle : Handler σ) (world : σ) (file : Text) :
    (handOver handle w world file).watcher.Coherent := by
  unfold Coherent
  rw [pending_handOver, processed_handOver]
  exact h.take file

theorem map_snd_handOvers (handle : Handler σ) (w : Watcher τ) (world : σ) (files : List Text) :
    (handOvers handle w world files).map Prod.snd = (handOverAll handle w world files).handled := by
  induction files generalizing w world with
  | nil => rfl
  | cons file rest ih =>
    unfold handOvers handOverAll
    split
    · rfl
    · exact congrArg (file :: ·) (ih _ _)

/-- The watcher that hands a file over is coherent, and what waits for the file waits since the
first of the files was handed over. -/
theorem of_mem_handOvers (hnd : files.Nodup) (hw : w.Coherent)
    (h : (w', file) ∈ handOvers handle w world files) :
    file ∈ files ∧ w'.Coherent ∧ w'.pending.lookup file = w.pending.lookup file := by
  induction files generalizing w world with
  | nil => cases h
  | cons first rest ih =>
    obtain ⟨hfirst, hrest⟩ := List.nodup_cons.mp hnd
    unfold handOvers at h
    split at h
    · cases h
    · rcases List.mem_cons.mp h with heq | h
      · cases heq
        exact ⟨List.mem_cons_self, hw, rfl⟩
      · obtain ⟨hfile, hw', hentry⟩ := ih hrest (hw.handOver handle world first) h
        -- the file that is taken before this one is another
        have hne : file ≠ first := fun heq => hfirst (heq ▸ hfile)
        rw [pending_handOver, lookup_pending_take, if_neg hne] at hentry
        exact ⟨List.mem_cons_of_mem first hfile, hw', hentry⟩

end HandOver

end Watcher

/-! ### Sessions -/

section Sessions

variable [Sub τ] [LE τ]

theorem IsLook.coherent {s : Settings τ} {now : τ} {scan : Scan} {handled : List Text}
    {w w' : Watcher τ} (h : IsLook s now scan handled w w') (hw : w.Coherent) : w'.Coherent := by
  intro file state since hentry
  rw [h.pending] at hentry
  split at hentry
  · cases hentry
  · next hfile =>
    obtain ⟨shown, hshown, hentry⟩ := Option.bind_eq_some_iff.mp hentry
    rw [h.processed, if_neg hfile, hshown, Option.isSome_some, if_pos rfl]
    rcases entryAfter_cases hentry with ⟨-, hold⟩ | ⟨hlast, rfl, -⟩
    · exact hw file state since hold
    · exact hlast

theorem Leads.coherent {s : Settings τ} {w w' : Watcher τ} {rounds : List (Round τ)}
    (h : Leads s w rounds w') (hw : w.Coherent) : w'.Coherent := by
  induction h with
  | refl => exact hw
  | stop _ ih => exact ih
  | round _ hr ih => exact hr.coherent ih

variable [DecidableLE τ]

/-- In every session no file waits in the state in which it was handed over last, also after the
files are shown and while they are handed over. The files that were shown are known, and no others.
A file is handed over only while it waits in the state it was just shown in. -/
theorem session_coherent (e : Surroundings τ σ) (world : σ) (requests : List (Request σ)) :
    let s := session e world requests
    let scan := (e.look s.world).1.2
    let shown := s.shown e
    let handOvers :=
      Watcher.handOvers e.handle shown.watcher (e.look s.world).2 shown.ready
    s.watcher.Coherent ∧ shown.watcher.Coherent ∧ shown.watcher.Knows scan ∧
      handOvers.map Prod.snd = (s.polled e).handled ∧
      ∀ w file, (w, file) ∈ handOvers → w.Coherent ∧ (w.take file).Coherent ∧
        ∃ state since, scan.lookup file = some state ∧
          w.pending.lookup file = some (state, since) := by
  intro s scan shown handOvers
  have hnd : (scan.map Prod.fst).Nodup := e.nodup s.world
  have hcoherent : s.watcher.Coherent :=
    (session_leads e world requests).coherent (by rintro _ _ _ ⟨⟩)
  have hshown : shown.watcher.Coherent :=
    (Watcher.isLook_settle e.settings _ hnd s.watcher).coherent hcoherent
  refine ⟨hcoherent, hshown, Watcher.knows_settle e.settings _ s.watcher hnd,
    Watcher.map_snd_handOvers .., fun w file hcall => ?_⟩
  obtain ⟨hfile, hw, hentry⟩ :=
    Watcher.of_mem_handOvers (Watcher.nodup_ready_settle e.settings _ s.watcher hnd) hshown hcall
  obtain ⟨state, since, hstate, hwait⟩ :=
    Watcher.exists_pending_of_mem_ready e.settings _ s.watcher hnd hfile
  exact ⟨hw, hw.take file, state, since, hstate, hentry.trans hwait⟩

/-- One file is back in the state in which it was handed over, while it waits in another. Two others
are ready, of which the first one orders the watcher to stop, and a fourth file is gone. -/
def revertingBeside : List (Request (OrderlyWorld Int)) :=
  [.write "a.csv".toList ⟨1, 1⟩, .poll, .advance 2, .poll, .write "a.csv".toList ⟨2, 2⟩,
    .write "b.csv".toList ⟨3, 3⟩, .write "c.csv".toList ⟨4, 4⟩, .write "d.csv".toList ⟨5, 5⟩, .poll,
    .write "a.csv".toList ⟨1, 1⟩, .remove "d.csv".toList, .advance 2].map csvCourse.request

/-- The watcher that has been shown the three files. -/
def shownReverted : Watcher Int where
  pending := [("a.csv".toList, (⟨2, 2⟩, 2)), ("b.csv".toList, (⟨3, 3⟩, 2)),
    ("c.csv".toList, (⟨4, 4⟩, 2))]
  processed := [("a.csv".toList, ⟨1, 1⟩)]

theorem handOvers_revertingBeside :
    let s := session (stoppingAtSecond false) emptyWorld revertingBeside
    let shown := s.shown (stoppingAtSecond false)
    shown.watcher = shownReverted ∧ Watcher.handOvers (stoppingAtSecond false).handle shown.watcher
      ((stoppingAtSecond false).look s.world).2 shown.ready =
        [(shownReverted, "b.csv".toList)] := by
  constructor <;> cbv

theorem session_coherent_revertingBeside :
    let s := session (stoppingAtSecond false) emptyWorld revertingBeside
    (s.polled (stoppingAtSecond false)).handled = ["b.csv".toList] ∧ shownReverted.Coherent ∧
      shownReverted.Knows ((stoppingAtSecond false).look s.world).1.2 ∧
      (shownReverted.take "b.csv".toList).Coherent := by
  obtain ⟨hwatcher, hcalls⟩ := handOvers_revertingBeside
  obtain ⟨-, hshown, hknows, hhandled, hcoherent⟩ :=
    session_coherent (stoppingAtSecond false) emptyWorld revertingBeside
  rw [hcalls] at hhandled hcoherent
  rw [hwatcher] at hshown hknows
  have hcall := hcoherent shownReverted "b.csv".toList (List.mem_singleton_self _)
  exact ⟨hhandled.symm, hshown, hknows, hcall.2.1⟩

end Sessions

end SchemaMill.Watch
