import SchemaMill.Proofs.Record.Fields
import SchemaMill.Proofs.Watch.Settling

/-!
# What a watcher was shown, and when

A journal is a world together with the looks its watcher took at the directory, in the order in
which they were taken. A run of polls adds a look for each poll (`step_run_succ`), so an invariant
of journals has to be shown for the actions other than `run` only (`journal_induction`).

Two invariants that need nothing of the watcher stand here: no name is twice in the directory
(`nodup_names_step`), and the readings of a clock that never goes back do not decrease
(`pairwise_reading_journal`). `Journal.step_cases` says what one action does to the watcher.
-/

namespace SchemaMill.Watch

variable {τ : Type}

/-- One look at the directory. -/
structure Look (τ : Type) where
  reading : τ
  scan : Scan
  /-- The files that were handed over then. -/
  handled : List Text := []
  deriving DecidableEq, Repr

/-- A world and the looks that were taken in it. -/
structure Journal (τ : Type) where
  world : World τ
  /-- The looks, the first one first. -/
  looks : List (Look τ) := []

section Definitions

variable [Add τ] [Sub τ] [LE τ] [DecidableLE τ]

namespace World

/-- The looks taken by polls, until the watcher is ordered to stop. -/
def polls (c : Course τ) : (rounds : Nat) → World τ → List (Look τ)
  | 0, _ => []
  | rounds + 1, w =>
    if w.watcher.stopped then []
    else ⟨(w.look c).1.1, (w.look c).1.2, (w.step c .poll).handled⟩ ::
      polls c rounds (w.step c .poll).world

/-- The looks an action takes. -/
def looks (c : Course τ) (w : World τ) : Action τ → List (Look τ)
  | .settle => [⟨(w.look c).1.1, (w.look c).1.2, []⟩]
  | .poll => [⟨(w.look c).1.1, (w.look c).1.2, (w.step c .poll).handled⟩]
  | .run rounds => w.polls c rounds
  | _ => []

end World

/-- The journal after an action. -/
def Journal.step (c : Course τ) (j : Journal τ) (a : Action τ) : Journal τ :=
  { world := (j.world.step c a).world
    looks := j.looks ++ j.world.looks c a }

/-- The journal of several actions, from an empty directory and a new watcher. -/
def journal (c : Course τ) (start : τ) (actions : List (Action τ)) : Journal τ :=
  actions.foldl (Journal.step c) { world := { clock := start } }

end Definitions

/-! ### A run is a row of polls -/

section Run

variable [Add τ] [Sub τ] [LE τ] [DecidableLE τ]
variable (c : Course τ)

omit [Add τ] [Sub τ] [LE τ] [DecidableLE τ] in
/-- The handler of a course leaves the world, and nothing else depends on it. -/
theorem handOverAll_handler (w : Watcher τ) (world world' : World τ) (files : List Text) :
    Watcher.handOverAll (World.handler c) w world' files =
      { Watcher.handOverAll (World.handler c) w world files with world := world' } := by
  induction files generalizing w with
  | nil => rfl
  | cons file rest ih =>
    unfold Watcher.handOverAll
    split
    · rfl
    · dsimp only [Watcher.handOver, World.handler]
      rw [ih]
      rfl

omit [Add τ] in
theorem poll_handler (s : Settings τ) (now : τ) (scan : Scan) (w : Watcher τ)
    (world world' : World τ) :
    w.poll s (World.handler c) now scan world' =
      { w.poll s (World.handler c) now scan world with world := world' } := by
  unfold Watcher.poll
  dsimp only
  rw [handOverAll_handler c _ world world']

theorem runFor_succ (rounds : Nat) {w : Watcher τ} (h : ¬ w.stopped = true) (world : World τ) :
    Watcher.runFor c.settings (World.handler c) (World.look c) (rounds + 1) w world =
      let ((now, scan), world) := world.look c
      let first := w.poll c.settings (World.handler c) now scan world
      let others :=
        Watcher.runFor c.settings (World.handler c) (World.look c) rounds first.watcher world
      { others with
        handled := first.handled ++ others.handled
        events := first.events ++ others.events } := by
  rw [Watcher.runFor, if_neg h]
  dsimp only
  rw [congrArg Polled.world (poll_handler c _ _ _ w (world.look c).2 (world.look c).2)]

/-- The rounds of a run never look at the watcher that stands in the world. -/
theorem runFor_watcher (rounds : Nat) (w x : Watcher τ) (world : World τ) :
    Watcher.runFor c.settings (World.handler c) (World.look c) rounds w
        { world with watcher := x } =
      let p := Watcher.runFor c.settings (World.handler c) (World.look c) rounds w world
      { p with world := { p.world with watcher := x } } := by
  induction rounds generalizing w world with
  | zero => rfl
  | succ rounds ih =>
    by_cases h : w.stopped = true
    · unfold Watcher.runFor
      rw [if_pos h, if_pos h]
    · rw [runFor_succ c rounds h, runFor_succ c rounds h]
      -- the first rounds differ in the world only, and the others start from the same watcher
      have hfirst := poll_handler c c.settings (world.look c).1.1 (world.look c).1.2 w
        (world.look c).2 { (world.look c).2 with watcher := x }
      have hothers := ih (w.poll c.settings (World.handler c) (world.look c).1.1
        (world.look c).1.2 (world.look c).2).watcher (world.look c).2
      dsimp only [World.look, World.files] at hfirst hothers ⊢
      rw [hfirst, hothers]

namespace World

theorem step_run_stopped (w : World τ) (h : w.watcher.stopped = true) (rounds : Nat) :
    w.step c (.run rounds) = { world := w, events := [.started, .ended] } := by
  unfold step Watcher.run
  cases rounds with
  | zero => rfl
  | succ rounds =>
    dsimp only
    rw [Watcher.runFor, if_pos h]
    rfl

theorem step_poll (w : World τ) :
    w.step c .poll =
      let ((now, scan), world) := w.look c
      let polled := w.watcher.poll c.settings (handler c) now scan world
      { world := { world with watcher := polled.watcher }
        answer := .names polled.handled
        handled := polled.handled
        events := polled.events } := by
  dsimp only [step, ofPolled]
  rw [congrArg Polled.world (poll_handler c _ _ _ (w.look c).2.watcher (w.look c).2 (w.look c).2)]
  rfl

theorem step_run_succ (w : World τ) (h : ¬ w.watcher.stopped = true) (rounds : Nat) :
    let first := w.step c .poll
    let others := first.world.step c (.run rounds)
    (w.step c (.run (rounds + 1))).world = others.world ∧
      (w.step c (.run (rounds + 1))).handled = first.handled ++ others.handled := by
  have hothers := runFor_watcher c rounds (w.watcher.poll c.settings (handler c) (w.look c).1.1
    (w.look c).1.2 (w.look c).2).watcher (w.watcher.poll c.settings (handler c) (w.look c).1.1
    (w.look c).1.2 (w.look c).2).watcher (w.look c).2
  rw [step_poll]
  dsimp only [step, ofPolled, Watcher.run] at hothers ⊢
  rw [hothers, runFor_succ c rounds h]
  exact ⟨rfl, rfl⟩

omit [Add τ] [Sub τ] [LE τ] [DecidableLE τ] in
theorem handled_change (w : World τ) (f : Directory → Except FileFault Directory) :
    (w.change f).handled = [] := by
  unfold change
  split <;> rfl

/-- The looks of an action tell what it hands over. -/
theorem flatMap_handled_looks (w : World τ) (a : Action τ) :
    (w.looks c a).flatMap Look.handled = (w.step c a).handled := by
  cases a with
  | settle => rfl
  | poll => exact List.append_nil _
  | run rounds =>
    show (w.polls c rounds).flatMap Look.handled = _
    induction rounds generalizing w with
    | zero => rfl
    | succ rounds ih =>
      unfold polls
      by_cases h : w.watcher.stopped = true
      · rw [if_pos h, step_run_stopped c w h]
        rfl
      · rw [if_neg h, (step_run_succ c w h rounds).2, ← ih]
        rfl
  | advance => rfl
  | stop => rfl
  | scan => rfl
  | write => exact (w.handled_change _).symm
  | touch => exact (w.handled_change _).symm
  | remove => exact (w.handled_change _).symm
  | makeFolder => exact (w.handled_change _).symm

end World

namespace Journal

variable (j : Journal τ)

theorem step_run_zero : j.step c (.run 0) = j := by
  show Journal.mk j.world (j.looks ++ []) = j
  rw [List.append_nil]

theorem step_run_stopped (h : j.world.watcher.stopped = true) (rounds : Nat) :
    j.step c (.run rounds) = j := by
  have hlooks : j.world.looks c (.run rounds) = [] := by
    cases rounds with
    | zero => rfl
    | succ rounds => exact if_pos h
  unfold step
  rw [j.world.step_run_stopped c h, hlooks, List.append_nil]

theorem step_run_succ (h : ¬ j.world.watcher.stopped = true) (rounds : Nat) :
    j.step c (.run (rounds + 1)) = (j.step c .poll).step c (.run rounds) := by
  have hlooks : j.world.looks c (.run (rounds + 1)) =
      j.world.looks c .poll ++ (j.world.step c .poll).world.looks c (.run rounds) := if_neg h
  unfold step
  rw [(j.world.step_run_succ c h rounds).1, hlooks, List.append_assoc]

variable {c} {P : Journal τ → Prop} {j}

theorem step_run_induction (hpoll : ∀ j, P j → P (j.step c .poll)) (h : P j) (rounds : Nat) :
    P (j.step c (.run rounds)) := by
  induction rounds generalizing j with
  | zero =>
    rw [step_run_zero]
    exact h
  | succ rounds ih =>
    by_cases hs : j.world.watcher.stopped = true
    · rw [step_run_stopped c j hs]
      exact h
    · rw [step_run_succ c j hs]
      exact ih (hpoll j h)

end Journal

/-- What holds at first and is kept by every action other than `run` holds of every journal. -/
theorem journal_induction {c : Course τ} {start : τ} {actions : List (Action τ)}
    {P : Journal τ → Prop} (hstart : P { world := { clock := start } })
    (hstep : ∀ j a, (∀ rounds, a ≠ .run rounds) → (a = .poll ∨ a ∈ actions) → P j →
      P (j.step c a)) : P (journal c start actions) := by
  refine List.foldlRecOn actions _ hstart fun j hj a ha => ?_
  cases a with
  | run rounds =>
    exact Journal.step_run_induction (fun j hj => hstep j .poll (by rintro _ ⟨⟩) (.inl rfl) hj) hj _
  | _ => exact hstep j _ (by rintro _ ⟨⟩) (.inr ha) hj

end Run

/-! ### Names in a directory -/

namespace Directory

def names (d : Directory) : List Text := d.entries.map Prod.fst

section Changes

variable {d d' : Directory} (h : d.names.Nodup)
include h

theorem nodup_names_write {name : Text} {state : FileState} (hd : d.write name state = .ok d') :
    d'.names.Nodup := by
  unfold write at hd
  split at hd
  · cases hd
  · split at hd
    · cases hd
    · cases hd
      exact nodup_setField h _ _

theorem nodup_names_touch {name : Text} {modified : Int} (hd : d.touch name modified = .ok d') :
    d'.names.Nodup := by
  unfold touch at hd
  split at hd
  · cases hd
  · cases hd
    exact h
  · cases hd
    exact nodup_setField h _ _

theorem nodup_names_remove {name : Text} (hd : d.remove name = .ok d') : d'.names.Nodup := by
  unfold remove at hd
  split at hd
  · cases hd
  · cases hd
  · cases hd
    exact h.sublist (List.filter_sublist.map _)

theorem nodup_names_makeFolder {name : Text} (hd : d.makeFolder name = .ok d') :
    d'.names.Nodup := by
  unfold makeFolder at hd
  split at hd
  · cases hd
    exact nodup_setField h _ _
  · cases hd

end Changes

theorem nodup_scan {d : Directory} (h : d.names.Nodup) (extensions : List Text) :
    ((d.scan extensions).map Prod.fst).Nodup := by
  unfold scan
  refine ((List.mergeSort_perm _ _).map Prod.fst).nodup_iff.mpr ?_
  unfold List.Nodup names at *
  rw [List.pairwise_map] at h ⊢
  rw [List.pairwise_filterMap]
  refine h.imp ?_
  rintro ⟨a, s⟩ ⟨b, t⟩ hab x hx y hy
  have hfst : ∀ (e : Text × Option FileState) z, (if isWanted extensions e.1
      then e.2.map fun s => (e.1, s) else none) = some z → z.1 = e.1 := by
    intro e z hz
    split at hz
    · obtain ⟨_, _, rfl⟩ := Option.map_eq_some_iff.mp hz
      rfl
    · cases hz
  rw [hfst (a, s) x hx, hfst (b, t) y hy]
  exact hab

end Directory

section Names

variable [Add τ] [Sub τ] [LE τ] [DecidableLE τ]
variable {c : Course τ}

namespace World

omit [Add τ] [Sub τ] [LE τ] [DecidableLE τ] in
theorem change_induction {P : World τ → Prop} {w : World τ}
    {f : Directory → Except FileFault Directory} (h : P w)
    (hok : ∀ directory, f w.directory = .ok directory → P { w with directory }) :
    P (w.change f).world := by
  unfold change
  split
  · next directory hd => exact hok directory hd
  · exact h

theorem nodup_names_step {w : World τ} (h : w.directory.names.Nodup) {a : Action τ}
    (ha : ∀ rounds, a ≠ .run rounds) : (w.step c a).world.directory.names.Nodup := by
  have hchange : ∀ f, (∀ d, f w.directory = .ok d → d.names.Nodup) →
      (w.change f).world.directory.names.Nodup := fun f hf =>
    change_induction (P := fun w => w.directory.names.Nodup) h hf
  cases a with
  | write => exact hchange _ fun _ => Directory.nodup_names_write h
  | touch => exact hchange _ fun _ => Directory.nodup_names_touch h
  | remove => exact hchange _ fun _ => Directory.nodup_names_remove h
  | makeFolder => exact hchange _ fun _ => Directory.nodup_names_makeFolder h
  | poll =>
    rw [step_poll]
    exact h
  | run rounds => exact absurd rfl (ha rounds)
  | _ => exact h

end World

/-- What an action other than `run` does: either it takes one look, or the watcher learns and
forgets nothing. -/
theorem Journal.step_cases {j : Journal τ} (hnames : j.world.directory.names.Nodup) {a : Action τ}
    (ha : ∀ rounds, a ≠ .run rounds) :
    (∃ look : Look τ, (j.step c a).looks = j.looks ++ [look] ∧
      IsLook c.settings look.reading look.scan look.handled j.world.watcher
        (j.step c a).world.watcher) ∨
    (j.step c a).looks = j.looks ∧
      (j.step c a).world.watcher.pending = j.world.watcher.pending ∧
      (j.step c a).world.watcher.processed = j.world.watcher.processed := by
  have hscan := Directory.nodup_scan hnames c.settings.extensions
  have hchange : ∀ f, (j.world.change f).world.watcher = j.world.watcher := fun f =>
    World.change_induction (P := fun w => w.watcher = j.world.watcher) rfl fun _ _ => rfl
  have hsame : ∀ {w : Watcher τ}, w = j.world.watcher →
      w.pending = j.world.watcher.pending ∧ w.processed = j.world.watcher.processed := by
    rintro _ rfl
    exact ⟨rfl, rfl⟩
  cases a with
  | settle => exact .inl ⟨_, rfl, Watcher.isLook_settle _ _ hscan _⟩
  | poll =>
    refine .inl ⟨_, rfl, ?_⟩
    show IsLook _ _ _ (j.world.step c .poll).handled _ (j.world.step c .poll).world.watcher
    rw [World.step_poll]
    exact Watcher.isLook_poll _ _ hscan _ _ _
  | run rounds => exact absurd rfl (ha rounds)
  | write => exact .inr ⟨List.append_nil _, hsame (hchange _)⟩
  | touch => exact .inr ⟨List.append_nil _, hsame (hchange _)⟩
  | remove => exact .inr ⟨List.append_nil _, hsame (hchange _)⟩
  | makeFolder => exact .inr ⟨List.append_nil _, hsame (hchange _)⟩
  | _ => exact .inr ⟨List.append_nil _, rfl, rfl⟩

end Names

/-! ### A clock that never goes back -/

section Clock

variable [AddCommGroup τ] [LinearOrder τ] [IsOrderedAddMonoid τ]
variable {c : Course τ}

/-- The readings do not decrease, and the clock has not gone back since. -/
structure Journal.Timely (j : Journal τ) : Prop where
  reading_le : ∀ look ∈ j.looks, look.reading ≤ j.world.clock
  pairwise : j.looks.Pairwise fun a b => a.reading ≤ b.reading

namespace World

/-- An action that is not a run takes at most one look, and reads the clock as it leaves it. -/
theorem clock_step {w : World τ} {a : Action τ} (htick : 0 ≤ c.tick)
    (hrun : ∀ rounds, a ≠ .run rounds) (hadvance : ∀ d, a = .advance d → 0 ≤ d) :
    w.clock ≤ (w.step c a).world.clock ∧
      (w.looks c a = [] ∨
        ∃ look, w.looks c a = [look] ∧ look.reading = (w.step c a).world.clock) := by
  have htock : w.clock ≤ (w.look c).1.1 := le_add_of_nonneg_right htick
  have hchange : ∀ f, w.clock ≤ (w.change f).world.clock := fun f =>
    change_induction (P := fun w' => w.clock ≤ w'.clock) le_rfl fun _ _ => le_rfl
  cases a with
  | write => exact ⟨hchange _, .inl rfl⟩
  | touch => exact ⟨hchange _, .inl rfl⟩
  | remove => exact ⟨hchange _, .inl rfl⟩
  | makeFolder => exact ⟨hchange _, .inl rfl⟩
  | advance d => exact ⟨le_add_of_nonneg_right (hadvance d rfl), .inl rfl⟩
  | stop => exact ⟨le_rfl, .inl rfl⟩
  | scan => exact ⟨le_rfl, .inl rfl⟩
  | settle => exact ⟨htock, .inr ⟨_, rfl, rfl⟩⟩
  | poll =>
    rw [step_poll]
    exact ⟨htock, .inr ⟨_, rfl, rfl⟩⟩
  | run rounds => exact absurd rfl (hrun rounds)

end World

theorem Journal.Timely.step {j : Journal τ} {a : Action τ} (h : j.Timely) (htick : 0 ≤ c.tick)
    (hrun : ∀ rounds, a ≠ .run rounds) (hadvance : ∀ d, a = .advance d → 0 ≤ d) :
    (j.step c a).Timely := by
  obtain ⟨hclock, hlooks | ⟨look, hlooks, hreading⟩⟩ :=
    World.clock_step (w := j.world) htick hrun hadvance
  · show Journal.Timely { world := _, looks := j.looks ++ j.world.looks c a }
    rw [hlooks, List.append_nil]
    exact ⟨fun l hl => (h.reading_le l hl).trans hclock, h.pairwise⟩
  · show Journal.Timely { world := _, looks := j.looks ++ j.world.looks c a }
    rw [hlooks]
    refine ⟨fun l hl => ?_, List.pairwise_append.mpr ⟨h.pairwise, List.pairwise_singleton _ _, ?_⟩⟩
    · rcases List.mem_append.mp hl with hl | hl
      · exact (h.reading_le l hl).trans hclock
      · obtain rfl := List.mem_singleton.mp hl
        exact hreading.le
    · intro l hl l' hl'
      obtain rfl := List.mem_singleton.mp hl'
      exact ((h.reading_le l hl).trans hclock).trans hreading.ge

theorem pairwise_reading_journal {start : τ} {actions : List (Action τ)} (htick : 0 ≤ c.tick)
    (hadvance : ∀ d, Action.advance d ∈ actions → 0 ≤ d) :
    (journal c start actions).looks.Pairwise fun a b => a.reading ≤ b.reading := by
  refine (journal_induction (P := Journal.Timely) ?_ fun j a hrun ha hj => ?_).pairwise
  · exact ⟨by rintro _ ⟨⟩, List.Pairwise.nil⟩
  · refine hj.step htick hrun fun d hd => ?_
    subst hd
    rcases ha with ⟨⟨⟩⟩ | ha
    exact hadvance d ha

end Clock

end SchemaMill.Watch
