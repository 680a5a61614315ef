import SchemaMill.Proofs.Watch.HandOvers

/-!
# What failures and the order to stop can change

Handlers that differ only in when they fail (`SameButFailures`) make the same of a list of files
(`handOverAll_congr`), so every request does the same with either of them (`Session.step_congr`) and
whole sessions are equal. A handler that orders the watcher to stop ends the list
(`handOverAll_of_stops`), and from then on nothing is handed over (`Leads.idle`).

`session_eq_and_stop_final` puts these together.
-/

namespace SchemaMill.Watch

variable {τ σ : Type}

/-- Two handlers do the same to the world and order the watcher to stop at the same times. They may
fail at different ones. -/
def SameButFailures (handle handle' : Handler σ) : Prop :=
  ∀ world file, (handle world file).1 = (handle' world file).1 ∧
    (handle world file).2.stops = (handle' world file).2.stops

/-- The world after some files were taken over. -/
def worldAfter (handle : Handler σ) (world : σ) (files : List Text) : σ :=
  files.foldl (fun world file => (handle world file).1) world

/-! ### A list of files -/

namespace Watcher

variable {handle handle' : Handler σ}

theorem handOverAll_congr (h : SameButFailures handle handle') (w : Watcher τ) (world : σ)
    (files : List Text) :
    let p := handOverAll handle w world files
    let p' := handOverAll handle' w world files
    p.watcher = p'.watcher ∧ p.world = p'.world ∧ p.handled = p'.handled := by
  induction files generalizing w world with
  | nil => exact ⟨rfl, rfl, rfl⟩
  | cons file rest ih =>
    obtain ⟨hworld, hstops⟩ := h world file
    -- the first file leaves the same watcher and the same world
    have hfirst :
        (handOver handle w world file).watcher = (handOver handle' w world file).watcher := by
      simp only [handOver, hstops]
    obtain ⟨hw, hworld', hhandled⟩ :=
      ih (handOver handle' w world file).watcher (handle' world file).1
    unfold handOverAll
    split
    · exact ⟨rfl, rfl, rfl⟩
    · dsimp only
      rw [hfirst, show (handOver handle w world file).world = (handle' world file).1 from hworld]
      exact ⟨hw, hworld', congrArg (file :: ·) hhandled⟩

/-- A file at which the handler orders the watcher to stop is the last one. -/
theorem handOverAll_of_stops {w : Watcher τ} {world : σ} {files before after : List Text}
    {file : Text} (h : (handOverAll handle w world files).handled = before ++ file :: after)
    (hstops : (handle (worldAfter handle world before) file).2.stops = true) :
    after = [] ∧ (handOverAll handle w world files).watcher.stopped = true := by
  induction files generalizing w world before with
  | nil => exact absurd h.symm (List.append_ne_nil_of_right_ne_nil _ (List.cons_ne_nil _ _))
  | cons f rest ih =>
    unfold handOverAll at h ⊢
    split at h
    · exact absurd h.symm (List.append_ne_nil_of_right_ne_nil _ (List.cons_ne_nil _ _))
    · next hs =>
      rw [if_neg hs]
      rcases before with _ | ⟨b, before⟩
      · obtain ⟨rfl, hrest⟩ := List.cons.inj h
        have hstopped : (handOver handle w world f).watcher.stopped = true := by
          show (if (handle world f).2.stops then _ else _ : Watcher τ).stopped = true
          rw [if_pos (show (handle world f).2.stops = true from hstops)]
          rfl
        dsimp only at hrest ⊢
        rw [handOverAll_of_stopped handle _ _ hstopped] at hrest ⊢
        exact ⟨hrest.symm, hstopped⟩
      · obtain ⟨rfl, hrest⟩ := List.cons.inj h
        exact ih hrest hstops

end Watcher

/-! ### Sessions -/

section Sessions

variable [Sub τ] [LE τ] [DecidableLE τ] (e : Surroundings τ σ)

omit [DecidableLE τ] in
/-- A file that is ready and not handed over waits on. -/
theorem IsLook.pending_of_isReady {s : Settings τ} {now : τ} {scan : Scan} {handled : List Text}
    {w w' : Watcher τ} (h : IsLook s now scan handled w w') {file : Text} {state : FileState}
    (hfile : file ∉ handled) (hshown : scan.lookup file = some state)
    (hready : IsReady s now (w.processed.lookup file) (w.pending.lookup file) state) :
    ∃ since, w.pending.lookup file = some (state, since) ∧
      w'.pending.lookup file = some (state, since) := by
  obtain ⟨-, since, hentry, -⟩ := hready
  refine ⟨since, hentry, ?_⟩
  rw [h.pending, if_neg hfile, hshown, hentry]
  exact entryAfter_of_same since

namespace Session

variable {e} {handle' : Handler σ}

theorem poll_congr (h : SameButFailures e.handle handle') (s : Session τ σ) :
    s.poll e = s.poll { e with handle := handle' } := by
  obtain ⟨hwatcher, hworld, hhandled⟩ := Watcher.handOverAll_congr h (s.shown e).watcher
    (e.look s.world).2 (s.shown e).ready
  show Session.mk (s.polled e).world (s.polled e).watcher
    (s.rounds ++ [⟨⟨_, _, (s.polled e).handled⟩, true, (s.polled e).watcher⟩]) = _
  rw [show (s.polled e).world = _ from hworld, show (s.polled e).watcher = _ from hwatcher,
    show (s.polled e).handled = _ from hhandled]
  rfl

theorem run_congr (h : SameButFailures e.handle handle') (rounds : Nat) (s : Session τ σ) :
    s.run e rounds = s.run { e with handle := handle' } rounds := by
  induction rounds generalizing s with
  | zero => rfl
  | succ rounds ih =>
    unfold run
    rw [poll_congr h, ih]

theorem step_congr (h : SameButFailures e.handle handle') (s : Session τ σ) (a : Request σ) :
    s.step e a = s.step { e with handle := handle' } a := by
  cases a with
  | poll => exact poll_congr h s
  | run rounds => exact run_congr h rounds s
  | _ => rfl

end Session

theorem session_congr {handle' : Handler σ} (h : SameButFailures e.handle handle') (world : σ)
    (requests : List (Request σ)) :
    session e world requests = session { e with handle := handle' } world requests := by
  unfold session
  rw [show Session.step e = Session.step { e with handle := handle' } from
    funext fun s => funext (Session.step_congr h s)]

/-- Failures of the handler change nothing: with the same changes, readings and orders to stop, the
worlds, the watchers and all rounds are the same. After an order to stop no file is handed over, and
if it comes while a file is handed over, this is the last one of the poll and those that are ready
too wait on. -/
theorem session_eq_and_stop_final {handle' : Handler σ} (h : SameButFailures e.handle handle')
    (world : σ) (requests : List (Request σ)) :
    session e world requests = session { e with handle := handle' } world requests ∧
      (∀ more, ∃ idle, (session e world (requests ++ .stop :: more)).rounds =
        (session e world requests).rounds ++ idle ∧ ∀ r ∈ idle, r.handled = []) ∧
      (∀ earlier r later, (session e world requests).rounds = earlier ++ r :: later →
        r.watcher.stopped = true → ∀ r' ∈ later, r'.handled = []) ∧
      ∀ (s : Session τ σ) (before : List Text) (file : Text) (after : List Text),
        (s.polled e).handled = before ++ file :: after →
        (e.handle (worldAfter e.handle (e.look s.world).2 before) file).2.stops = true →
        after = [] ∧ (s.polled e).watcher.stopped = true ∧
          ∀ other ∈ (s.shown e).ready, other ∉ (s.polled e).handled →
            ∃ entry, s.watcher.pending.lookup other = some entry ∧
              (s.polled e).watcher.pending.lookup other = some entry := by
  refine ⟨session_congr e h world requests, fun more => ?_, fun earlier r later hrounds hstop => ?_,
    fun s before file after hhandled hstops => ?_⟩
  · obtain ⟨idle, hidle, hleads⟩ := Session.goesOn_foldl e
      ((session e world requests).step e .stop) more
    refine ⟨idle, ?_, (hleads.idle rfl).2⟩
    rw [← show _ = (session e world requests).rounds ++ idle from hidle]
    exact congrArg Session.rounds (List.foldl_append ..)
  · have hleads := session_leads e world requests
    rw [hrounds] at hleads
    obtain ⟨_, -, -, hlater⟩ := hleads.at_round
    exact (hlater.idle hstop).2
  · obtain ⟨hafter, hstopped⟩ := Watcher.handOverAll_of_stops hhandled hstops
    refine ⟨hafter, hstopped, fun other hother hnot => ?_⟩
    obtain ⟨state, hshown, hready⟩ :=
      (Watcher.mem_ready_settle e.settings _ s.watcher (e.nodup s.world) other).mp hother
    have hlook := Watcher.isLook_poll e.settings (e.look s.world).1.1 (e.nodup s.world) s.watcher
      e.handle (e.look s.world).2
    obtain ⟨since, hentry, hentry'⟩ := hlook.pending_of_isReady hnot hshown hready
    exact ⟨(state, since), hentry, hentry'⟩

end Sessions

/-- The second of three files orders the watcher to stop. All files fail, or none does. -/
def stoppingAtSecond (fails : Bool) : Surroundings Int (OrderlyWorld Int) :=
  csvCourse.surroundings fun _ file => { fails, stops := file = "b.csv".toList }

/-- Three files stand still until they are ready. -/
def threeFiles : List (Request (OrderlyWorld Int)) :=
  [.write "a.csv".toList ⟨1, 1⟩, .write "b.csv".toList ⟨2, 2⟩, .write "c.csv".toList ⟨3, 3⟩, .poll,
    .advance 2].map csvCourse.request

theorem ready_threeFiles :
    ((session (stoppingAtSecond true) emptyWorld threeFiles).shown (stoppingAtSecond true)).ready =
      ["a.csv".toList, "b.csv".toList, "c.csv".toList] := by
  cbv

theorem handled_threeFiles :
    let s := session (stoppingAtSecond true) emptyWorld threeFiles
    (s.polled (stoppingAtSecond true)).handled = ["a.csv".toList] ++ "b.csv".toList :: [] := by
  cbv

theorem session_eq_and_stop_final_threeFiles :
    SameButFailures (stoppingAtSecond true).handle (stoppingAtSecond false).handle ∧
      session (stoppingAtSecond true) emptyWorld (threeFiles ++ [.run 3]) =
        session (stoppingAtSecond false) emptyWorld (threeFiles ++ [.run 3]) ∧
      let s := session (stoppingAtSecond true) emptyWorld threeFiles
      let polled := s.polled (stoppingAtSecond true)
      polled.handled = ["a.csv".toList] ++ "b.csv".toList :: [] ∧ polled.watcher.stopped = true ∧
        ∃ entry, polled.watcher.pending.lookup "c.csv".toList = some entry := by
  have hsame : SameButFailures (stoppingAtSecond true).handle (stoppingAtSecond false).handle :=
    fun _ _ => ⟨rfl, rfl⟩
  obtain ⟨hsession, -, -, hstop⟩ := session_eq_and_stop_final (stoppingAtSecond true) hsame
    emptyWorld (threeFiles ++ [.run 3])
  obtain ⟨-, hstopped, hothers⟩ := hstop _ _ _ _ handled_threeFiles (by decide)
  obtain ⟨entry, -, hentry⟩ := hothers "c.csv".toList (by rw [ready_threeFiles]; decide)
    (by rw [handled_threeFiles]; decide)
  exact ⟨hsame, hsession, handled_threeFiles, hstopped, entry, hentry⟩

end SchemaMill.Watch
