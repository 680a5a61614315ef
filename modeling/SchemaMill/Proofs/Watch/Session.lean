import SchemaMill.Proofs.Watch.Journal

/-!
# A watcher in a world of any kind

What takes files over may do to the world what it likes: fail for one file and not for the next,
order the watcher to stop, write below the watched folder. So a session lets the world be anything
that can be looked at. It is moved by requests, and it keeps a round for each look that was taken,
with the watcher after it. A run is a row of polls (`Session.run_eq_runFor`).

`IsRound` says what one round does to a watcher, and `Leads` what a row of rounds does, with orders
to stop in between. The rounds of a session lead from a new watcher to the one it has
(`session_leads`), so a law about all sessions is an induction on `Leads` and nothing about the
world is in its way. `Leads.at_round` takes a row apart at a round.
-/

namespace SchemaMill.Watch

variable {τ σ : Type}

/-- What a watcher works in. -/
structure Surroundings (τ σ : Type) where
  settings : Settings τ
  /-- Reads the clock and lists the files. -/
  look : σ → (τ × Scan) × σ
  /-- Takes files over. -/
  handle : Handler σ
  /-- No name is listed twice. -/
  nodup : ∀ world, ((look world).1.2.map Prod.fst).Nodup

/-- What is asked for in a session. -/
inductive Request (σ : Type) where
  /-- The world changes. -/
  | change (f : σ → σ)
  /-- The watcher is ordered to stop. -/
  | stop
  /-- The watcher is shown the files. -/
  | settle
  /-- The watcher is shown the files and hands over those that are ready. -/
  | poll
  /-- The watcher polls until it is ordered to stop, at most so many times. -/
  | run (rounds : Nat)

/-- A look at the files and the watcher after it. -/
structure Round (τ : Type) extends Look τ where
  /-- The files that were ready were handed over. -/
  isPoll : Bool
  watcher : Watcher τ
  deriving DecidableEq

/-- A world, a watcher and the looks it has taken, the first one first. -/
structure Session (τ σ : Type) where
  world : σ
  watcher : Watcher τ := {}
  rounds : List (Round τ) := []
  deriving DecidableEq

section Definitions

variable [Sub τ] [LE τ] [DecidableLE τ] (e : Surroundings τ σ)

namespace Session

variable (s : Session τ σ)

/-- The watcher after it was shown the files, with those that are ready. -/
def shown : Shown τ :=
  let ((now, scan), _) := e.look s.world
  s.watcher.settle e.settings now scan

/-- What a poll gives. -/
def polled : Polled τ σ :=
  let ((now, scan), world) := e.look s.world
  s.watcher.poll e.settings e.handle now scan world

def settle : Session τ σ :=
  let ((now, scan), world) := e.look s.world
  let watcher := (s.shown e).watcher
  ⟨world, watcher, s.rounds ++ [⟨⟨now, scan, []⟩, false, watcher⟩]⟩

def poll : Session τ σ :=
  let ((now, scan), _) := e.look s.world
  let ⟨watcher, world, handled, _⟩ := s.polled e
  ⟨world, watcher, s.rounds ++ [⟨⟨now, scan, handled⟩, true, watcher⟩]⟩

def run : (rounds : Nat) → Session τ σ → Session τ σ
  | 0, s => s
  | rounds + 1, s => if s.watcher.stopped then s else run rounds (s.poll e)

/-- The session after a request. -/
def step : Request σ → Session τ σ
  | .change f => { s with world := f s.world }
  | .stop => { s with watcher := s.watcher.stop }
  | .settle => s.settle e
  | .poll => s.poll e
  | .run rounds => s.run e rounds

end Session

/-- The session of several requests in a world, from a new watcher. -/
def session (world : σ) (requests : List (Request σ)) : Session τ σ :=
  requests.foldl (Session.step e) { world }

end Definitions

/-! ### Handing over until the order to stop -/

namespace Watcher

section HandOver

variable (handle : Handler σ) (w : Watcher τ) (world : σ)

theorem handOverAll_of_stopped (h : w.stopped = true) (files : List Text) :
    handOverAll handle w world files = { watcher := w, world } := by
  cases files with
  | nil => rfl
  | cons file rest => exact if_pos h

theorem handled_handOverAll_of_not_stopped {files : List Text}
    (h : (handOverAll handle w world files).watcher.stopped = false) :
    (handOverAll handle w world files).handled = files := by
  induction files generalizing w world with
  | nil => rfl
  | cons file rest ih =>
    unfold handOverAll at h ⊢
    split
    · next hs =>
      rw [if_pos hs, hs] at h
      cases h
    · next hs =>
      rw [if_neg hs] at h
      exact congrArg (file :: ·) (ih _ _ h)

end HandOver

variable [Sub τ] [LE τ] [DecidableLE τ] (s : Settings τ) (now : τ)

theorem stopped_examineAll (w : Watcher τ) (scan : Scan) :
    (examineAll s now w scan).watcher.stopped = w.stopped := by
  induction scan generalizing w with
  | nil => rfl
  | cons p rest ih =>
    refine (ih _).trans ?_
    rcases examine_cases s now w p.1 p.2 with ⟨-, hw, -⟩ | ⟨-, -, hw, -⟩ | ⟨_, -, -, hw, -⟩
    all_goals rw [hw]

theorem stopped_settle (w : Watcher τ) (scan : Scan) :
    (w.settle s now scan).watcher.stopped = w.stopped :=
  stopped_examineAll s now (w.forget scan).watcher scan

theorem nodup_ready_settle (w : Watcher τ) {scan : Scan} (h : (scan.map Prod.fst).Nodup) :
    (w.settle s now scan).ready.Nodup :=
  (ready_examineAll s now _ scan).nodup h

end Watcher

/-! ### One round -/

section Round

variable [Sub τ] [LE τ] [DecidableLE τ]

/-- What one round does to a watcher. -/
structure IsRound (s : Settings τ) (w : Watcher τ) (r : Round τ) : Prop extends
    IsLook s r.reading r.scan r.handled w r.watcher where
  nodup : r.handled.Nodup
  /-- A poll hands over all files that are ready, unless the order to stop comes. -/
  complete : r.isPoll = true → r.watcher.stopped = false → ∀ file state,
    r.scan.lookup file = some state →
      IsReady s r.reading (w.processed.lookup file) (w.pending.lookup file) state →
        file ∈ r.handled
  /-- A watcher that was ordered to stop hands nothing over. -/
  idle : w.stopped = true → r.watcher.stopped = true ∧ r.handled = []

variable (s : Settings τ) (now : τ) {scan : Scan} (hnd : (scan.map Prod.fst).Nodup)
  (w : Watcher τ)
include hnd

theorem Watcher.isRound_settle :
    IsRound s w ⟨⟨now, scan, []⟩, false, (w.settle s now scan).watcher⟩ where
  toIsLook := Watcher.isLook_settle s now hnd w
  nodup := List.nodup_nil
  complete := by rintro ⟨⟩
  idle h := ⟨(Watcher.stopped_settle s now w scan).trans h, rfl⟩

theorem Watcher.isRound_poll (handle : Handler σ) (world : σ) :
    let polled := w.poll s handle now scan world
    IsRound s w ⟨⟨now, scan, polled.handled⟩, true, polled.watcher⟩ where
  toIsLook := Watcher.isLook_poll s now hnd w handle world
  nodup :=
    (Watcher.nodup_ready_settle s now w hnd).sublist
      (Watcher.handled_handOverAll handle _ world _).sublist
  complete _ hstop file state hfile hready := by
    have hall := Watcher.handled_handOverAll_of_not_stopped handle _ world hstop
    exact hall ▸ (Watcher.mem_ready_settle s now w hnd file).mpr ⟨state, hfile, hready⟩
  idle h := by
    have hstopped := (Watcher.stopped_settle s now w scan).trans h
    have hnone := Watcher.handOverAll_of_stopped handle _ world hstopped
      (w.settle s now scan).ready
    exact ⟨(congrArg (·.watcher.stopped) hnone).trans hstopped, congrArg Polled.handled hnone⟩

end Round

/-! ### Rounds one after the other -/

section Leads

variable [Sub τ] [LE τ] {s : Settings τ} {w w' w'' : Watcher τ}

/-- Rounds that lead from one watcher to another. The order to stop may come at any time. -/
inductive Leads (s : Settings τ) (w : Watcher τ) : List (Round τ) → Watcher τ → Prop where
  | refl : Leads s w [] w
  | stop {rounds : List (Round τ)} {w' : Watcher τ} : Leads s w rounds w' → Leads s w rounds w'.stop
  | round {rounds : List (Round τ)} {w' : Watcher τ} {r : Round τ} :
    Leads s w rounds w' → IsRound s w' r → Leads s w (rounds ++ [r]) r.watcher

namespace Leads

variable {rounds rounds' earlier later : List (Round τ)} {r : Round τ}

theorem trans (h : Leads s w rounds w') (h' : Leads s w' rounds' w'') :
    Leads s w (rounds ++ rounds') w'' := by
  induction h' with
  | refl => rwa [List.append_nil]
  | stop _ ih => exact ih.stop
  | round _ hr ih =>
    rw [← List.append_assoc]
    exact ih.round hr

/-- A row of rounds taken apart at one of them. -/
theorem at_round (h : Leads s w (earlier ++ r :: later) w'') :
    ∃ w', Leads s w earlier w' ∧ IsRound s w' r ∧ Leads s r.watcher later w'' := by
  generalize hl : earlier ++ r :: later = l at h
  induction h generalizing later with
  | refl => exact absurd hl (List.append_ne_nil_of_right_ne_nil _ (List.cons_ne_nil _ _))
  | stop _ ih =>
    obtain ⟨w', hbefore, hr, hafter⟩ := ih hl
    exact ⟨w', hbefore, hr, hafter.stop⟩
  | @round rounds w' r' hrounds hr' ih =>
    rcases List.eq_nil_or_concat later with rfl | ⟨front, last, rfl⟩
    · obtain ⟨rfl, hlast⟩ := List.append_inj' hl rfl
      obtain rfl := List.singleton_inj.mp hlast
      exact ⟨w', hrounds, hr', .refl⟩
    · rw [List.concat_eq_append, ← List.cons_append, ← List.append_assoc] at hl
      obtain ⟨hfront, hlast⟩ := List.append_inj' hl rfl
      obtain rfl := List.singleton_inj.mp hlast
      obtain ⟨w₀, hbefore, hr, hafter⟩ := ih hfront
      rw [List.concat_eq_append]
      exact ⟨w₀, hbefore, hr, hafter.round hr'⟩

/-- Once a watcher was ordered to stop, no file is handed over. -/
theorem idle (h : Leads s w rounds w') (hstop : w.stopped = true) :
    w'.stopped = true ∧ ∀ r ∈ rounds, r.handled = [] := by
  induction h with
  | refl => exact ⟨hstop, by rintro _ ⟨⟩⟩
  | stop _ ih => exact ⟨rfl, ih.2⟩
  | round _ hr ih =>
    obtain ⟨hstopped, hhandled⟩ := hr.idle ih.1
    exact ⟨hstopped, List.forall_mem_append.mpr ⟨ih.2, List.forall_mem_singleton.mpr hhandled⟩⟩

end Leads

/-- A session goes on: the rounds that are new lead from the watcher before to the one after. -/
def Session.GoesOn (settings : Settings τ) (s s' : Session τ σ) : Prop :=
  ∃ rounds, s'.rounds = s.rounds ++ rounds ∧ Leads settings s.watcher rounds s'.watcher

theorem Session.GoesOn.refl (settings : Settings τ) (s : Session τ σ) : GoesOn settings s s :=
  ⟨[], (List.append_nil _).symm, .refl⟩

theorem Session.GoesOn.trans {settings : Settings τ} {s s' s'' : Session τ σ}
    (h : GoesOn settings s s') (h' : GoesOn settings s' s'') : GoesOn settings s s'' := by
  obtain ⟨rounds, hrounds, hleads⟩ := h
  obtain ⟨rounds', hrounds', hleads'⟩ := h'
  exact ⟨rounds ++ rounds', by rw [hrounds', hrounds, List.append_assoc], hleads.trans hleads'⟩

end Leads

/-! ### Sessions -/

section Sessions

variable [Sub τ] [LE τ] [DecidableLE τ] (e : Surroundings τ σ)

namespace Session

variable (s : Session τ σ)

theorem goesOn_settle : GoesOn e.settings s (s.settle e) :=
  ⟨[] ++ [_], rfl, .round .refl
    (Watcher.isRound_settle e.settings _ (e.nodup s.world) s.watcher)⟩

theorem goesOn_poll : GoesOn e.settings s (s.poll e) :=
  ⟨[] ++ [_], rfl, .round .refl
    (Watcher.isRound_poll e.settings _ (e.nodup s.world) s.watcher e.handle _)⟩

theorem goesOn_run (rounds : Nat) : GoesOn e.settings s (s.run e rounds) := by
  induction rounds generalizing s with
  | zero => exact .refl _ s
  | succ rounds ih =>
    unfold run
    split
    · exact .refl _ s
    · exact (s.goesOn_poll e).trans (ih _)

theorem goesOn_step (a : Request σ) : GoesOn e.settings s (s.step e a) := by
  cases a with
  | change f => exact .refl _ s
  | stop => exact ⟨[], (List.append_nil _).symm, .stop .refl⟩
  | settle => exact s.goesOn_settle e
  | poll => exact s.goesOn_poll e
  | run rounds => exact s.goesOn_run e rounds

theorem goesOn_foldl (requests : List (Request σ)) :
    GoesOn e.settings s (requests.foldl (step e) s) := by
  induction requests generalizing s with
  | nil => exact .refl _ s
  | cons a rest ih => exact (s.goesOn_step e a).trans (ih _)

/-- A run in a session is a run of its watcher. -/
theorem run_eq_runFor (rounds : Nat) :
    let p := Watcher.runFor e.settings e.handle e.look rounds s.watcher s.world
    (s.run e rounds).world = p.world ∧ (s.run e rounds).watcher = p.watcher ∧
      (s.run e rounds).rounds.flatMap (·.handled) = s.rounds.flatMap (·.handled) ++ p.handled := by
  induction rounds generalizing s with
  | zero => exact ⟨rfl, rfl, (List.append_nil _).symm⟩
  | succ rounds ih =>
    unfold run Watcher.runFor
    by_cases hs : s.watcher.stopped = true
    · rw [if_pos hs, if_pos hs]
      exact ⟨rfl, rfl, (List.append_nil _).symm⟩
    · rw [if_neg hs, if_neg hs]
      obtain ⟨hworld, hwatcher, hhandled⟩ := ih (s.poll e)
      refine ⟨hworld, hwatcher, hhandled.trans ?_⟩
      show (s.rounds ++ [_]).flatMap _ ++ _ = _
      rw [List.flatMap_append, List.append_assoc]
      exact congrArg _ (congrArg (· ++ _) (List.append_nil _))

end Session

/-- The rounds of a session lead from a new watcher to the one it has. -/
theorem session_leads (world : σ) (requests : List (Request σ)) :
    Leads e.settings {} (session e world requests).rounds (session e world requests).watcher := by
  obtain ⟨rounds, hrounds, hleads⟩ := Session.goesOn_foldl e { world } requests
  rw [List.nil_append] at hrounds
  exact hrounds ▸ hleads

end Sessions

/-! ### Directories -/

/-- A world in whose directory no name stands twice. -/
abbrev OrderlyWorld (τ : Type) := { w : World τ // w.directory.names.Nodup }

namespace Course

variable [Add τ] [Sub τ] [LE τ] [DecidableLE τ] (c : Course τ)

/-- The directory and the clock of a course, with a handler that may do a file well at one time and
fail at another. -/
def surroundings (outcome : World τ → Text → Handling) : Surroundings τ (OrderlyWorld τ) where
  settings := c.settings
  look w := ((w.1.look c).1, ⟨(w.1.look c).2, w.2⟩)
  handle w file := (w, outcome w.1 file)
  nodup w := Directory.nodup_scan w.2 c.settings.extensions

/-- An action as a change of the directory or the clock. -/
def change (a : Action τ) (ha : ∀ rounds, a ≠ .run rounds) : Request (OrderlyWorld τ) :=
  .change fun w => ⟨(w.1.step c a).world, World.nodup_names_step w.2 ha⟩

/-- An action as a request. -/
def request : Action τ → Request (OrderlyWorld τ)
  | .write name state => c.change (.write name state) nofun
  | .touch name modified => c.change (.touch name modified) nofun
  | .remove name => c.change (.remove name) nofun
  | .makeFolder name => c.change (.makeFolder name) nofun
  | .advance duration => c.change (.advance duration) nofun
  | .scan => c.change .scan nofun
  | .stop => .stop
  | .settle => .settle
  | .poll => .poll
  | .run rounds => .run rounds

end Course

end SchemaMill.Watch
