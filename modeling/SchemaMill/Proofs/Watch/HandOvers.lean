import Mathlib
import SchemaMill.Proofs.Watch.Session
import SchemaMill.Proofs.Watch.Window

/-!
# When a file is handed over again, and that none is forgotten

Both results hold in every session, whatever the handler makes of a file:

* `changed_between_handOvers`: between two hand-overs of a file some look showed it in another state
  than the one recorded at the first, or did not show it, and no round hands a file over twice.
* `handed_of_unchanged`: a file that all looks showed in one state for as long as the stability asks
  has been handed over in it by the poll at the end, unless the watcher was ordered to stop.

The first rests on the recorded state, which stays while it is shown (`Leads.processed_of_shown`)
and is never the state of a file that is ready. The second rests on `Watcher.HasSeen`: a file has
been handed over in a state, or waits in it since a certain reading. Every look at the file in this
state brings that about or keeps it, and at the end of the window the wait is over.
-/

namespace SchemaMill.Watch

variable {τ σ : Type}

/-! ### The recorded state -/

section Recorded

variable [Sub τ] [LE τ] {s : Settings τ} {w w' : Watcher τ} {r : Round τ}
  {rounds earlier later : List (Round τ)} {file : Text} {state : FileState}

/-- The state in which a file is handed over is recorded, and it was not recorded before. -/
theorem IsRound.recorded (h : IsRound s w r) (hfile : file ∈ r.handled) :
    ∃ state, r.scan.lookup file = some state ∧ w.processed.lookup file ≠ some state ∧
      r.watcher.processed.lookup file = some state := by
  obtain ⟨state, hstate, hready⟩ := h.ready file hfile
  refine ⟨state, hstate, hready.1, ?_⟩
  rw [h.processed, if_pos hfile, hstate]

theorem IsRound.processed_of_shown (h : IsRound s w r) (hshown : r.scan.lookup file = some state)
    (hw : w.processed.lookup file = some state) :
    r.watcher.processed.lookup file = some state := by
  rw [h.processed, hshown, hw]
  split <;> rfl

namespace Leads

/-- A recorded state stays while the file is shown in it. -/
theorem processed_of_shown (h : Leads s w rounds w')
    (hshown : ∀ r ∈ rounds, r.scan.lookup file = some state)
    (hw : w.processed.lookup file = some state) : w'.processed.lookup file = some state := by
  induction h with
  | refl => exact hw
  | stop _ ih => exact ih hshown
  | round _ hr ih =>
    obtain ⟨hrounds, hlast⟩ := List.forall_mem_append.mp hshown
    exact hr.processed_of_shown (hlast _ (List.mem_singleton_self _)) (ih hrounds)

/-- What is recorded of a file was recorded when the file was handed over for the last time. -/
theorem exists_handed (h : Leads s {} rounds w) (hw : w.processed.lookup file = some state) :
    ∃ before r after, rounds = before ++ r :: after ∧ file ∈ r.handled ∧
      r.scan.lookup file = some state ∧ r.watcher.processed.lookup file = some state ∧
      ∀ r' ∈ after, file ∉ r'.handled ∧ (r'.scan.lookup file).isSome := by
  induction h with
  | refl => cases hw
  | stop _ ih => exact ih hw
  | @round rounds w' r hrounds hr ih =>
    by_cases hfile : file ∈ r.handled
    · have hstate := hr.processed file
      rw [if_pos hfile, hw] at hstate
      exact ⟨rounds, r, [], rfl, hfile, hstate.symm, hw, by rintro _ ⟨⟩⟩
    · have hkept := hr.processed file
      rw [if_neg hfile, hw] at hkept
      split at hkept
      · next hthere =>
        obtain ⟨before, r', after, rfl, hr', hstate, hrecorded, hafter⟩ := ih hkept.symm
        refine ⟨before, r', after ++ [r], by simp, hr', hstate, hrecorded, ?_⟩
        exact List.forall_mem_append.mpr ⟨hafter, List.forall_mem_singleton.mpr ⟨hfile, hthere⟩⟩
      · cases hkept

theorem nodup_handled (h : Leads s w rounds w') : ∀ r ∈ rounds, r.handled.Nodup := by
  induction h with
  | refl => rintro _ ⟨⟩
  | stop _ ih => exact ih
  | round _ hr ih => exact List.forall_mem_append.mpr ⟨ih, List.forall_mem_singleton.mpr hr.nodup⟩

/-- A file that is handed over twice was not shown in the recorded state all the time. -/
theorem exists_changed {between : List (Round τ)} {first second : Round τ}
    (h : Leads s w (earlier ++ first :: between ++ second :: later) w')
    (hfirst : file ∈ first.handled) (hsecond : file ∈ second.handled) :
    ∃ state, first.watcher.processed.lookup file = some state ∧
      ∃ r ∈ between ++ [second], r.scan.lookup file ≠ some state := by
  rw [List.append_assoc] at h
  obtain ⟨_, -, hr₁, hrest⟩ := h.at_round
  obtain ⟨_, hbetween, hr₂, -⟩ := hrest.at_round
  obtain ⟨state, -, -, hrecorded⟩ := hr₁.recorded hfirst
  refine ⟨state, hrecorded, ?_⟩
  by_contra hall
  have hshown : ∀ r ∈ between ++ [second], r.scan.lookup file = some state := fun r hr => by
    by_contra hne
    exact hall ⟨r, hr, hne⟩
  obtain ⟨hbefore, hlast⟩ := List.forall_mem_append.mp hshown
  -- the state of the second hand-over would have been recorded already
  obtain ⟨state', hstate', hnew, -⟩ := hr₂.recorded hsecond
  obtain rfl : state' = state :=
    Option.some.inj (hstate'.symm.trans (hlast second (List.mem_singleton_self _)))
  exact hnew (hbetween.processed_of_shown hbefore hrecorded)

end Leads

end Recorded

/-- No round hands a file over twice, and between two hand-overs of a file, up to the look of the
second, it was not always shown in the state that was recorded at the first. -/
theorem changed_between_handOvers [Sub τ] [LE τ] [DecidableLE τ] (e : Surroundings τ σ) (world : σ)
    (requests : List (Request σ)) :
    (∀ r ∈ (session e world requests).rounds, r.handled.Nodup) ∧
      ∀ earlier first between second later,
        (session e world requests).rounds = earlier ++ first :: between ++ second :: later →
        ∀ file ∈ first.handled, file ∈ second.handled →
          ∃ state, first.watcher.processed.lookup file = some state ∧
            ∃ r ∈ between ++ [second], r.scan.lookup file ≠ some state := by
  have h := session_leads e world requests
  refine ⟨h.nodup_handled, fun earlier first between second later hrounds file hfirst hsecond => ?_⟩
  rw [hrounds] at h
  exact h.exists_changed hfirst hsecond

/-- An empty directory at time zero. -/
def emptyWorld : OrderlyWorld Int := ⟨{ clock := 0 }, List.nodup_nil⟩

/-- Handing over fails up to time two. -/
def failingEarly : Surroundings Int (OrderlyWorld Int) :=
  csvCourse.surroundings fun w _ => { fails := w.clock ≤ 2 }

/-- A poll that is shown one file. -/
def pollOf (reading : Int) (state : FileState) (handled : List Text)
    (pending : List (Text × (FileState × Int))) (processed : List (Text × FileState)) : Round Int :=
  ⟨⟨reading, [("a.csv".toList, state)], handled⟩, true, ⟨pending, processed, false⟩⟩

/-- A file is handed over, which fails, is looked at again, changes and is handed over once more. -/
def retriedRequests : List (Request (OrderlyWorld Int)) :=
  [.write "a.csv".toList ⟨1, 1⟩, .poll, .advance 2, .poll, .poll, .write "a.csv".toList ⟨2, 2⟩,
    .poll, .advance 2, .run 2].map csvCourse.request

/-- The round that hands the file over for the first time. -/
def firstHandOver : Round Int := pollOf 2 ⟨1, 1⟩ ["a.csv".toList] [] [("a.csv".toList, ⟨1, 1⟩)]

/-- The round that hands the file over again. -/
def secondHandOver : Round Int := pollOf 4 ⟨2, 2⟩ ["a.csv".toList] [] [("a.csv".toList, ⟨2, 2⟩)]

/-- The rounds between the two. -/
def betweenHandOvers : List (Round Int) :=
  [pollOf 2 ⟨1, 1⟩ [] [] [("a.csv".toList, ⟨1, 1⟩)],
    pollOf 2 ⟨2, 2⟩ [] [("a.csv".toList, (⟨2, 2⟩, 2))] [("a.csv".toList, ⟨1, 1⟩)]]

theorem rounds_retried : (session failingEarly emptyWorld retriedRequests).rounds =
    [pollOf 0 ⟨1, 1⟩ [] [("a.csv".toList, (⟨1, 1⟩, 0))] []] ++ firstHandOver :: betweenHandOvers ++
      secondHandOver :: [pollOf 4 ⟨2, 2⟩ [] [] [("a.csv".toList, ⟨2, 2⟩)]] := by
  decide +kernel

theorem changed_between_handOvers_retried :
    "a.csv".toList ∈ firstHandOver.handled ∧ "a.csv".toList ∈ secondHandOver.handled ∧
      firstHandOver.watcher.processed.lookup "a.csv".toList = some ⟨1, 1⟩ ∧
      ∃ r ∈ betweenHandOvers ++ [secondHandOver], r.scan.lookup "a.csv".toList ≠ some ⟨1, 1⟩ := by
  have hfirst : "a.csv".toList ∈ firstHandOver.handled := List.mem_singleton_self _
  have hsecond : "a.csv".toList ∈ secondHandOver.handled := List.mem_singleton_self _
  obtain ⟨state, hstate, hchanged⟩ :=
    (changed_between_handOvers failingEarly emptyWorld retriedRequests).2 _ _ _ _ _ rounds_retried _
      hfirst hsecond
  obtain rfl : (⟨1, 1⟩ : FileState) = state := Option.some.inj hstate
  exact ⟨hfirst, hsecond, hstate, hchanged⟩

/-! ### Files that stand still -/

section Waiting

variable [Sub τ] [LE τ] {s : Settings τ} {w w' : Watcher τ} {r : Round τ}
  {rounds : List (Round τ)} {file : Text} {state : FileState} {since bound : τ}

omit [Sub τ] [LE τ] in
/-- A wait is the one before or begins at this look. -/
theorem entryAfter_eq_some {now : τ} {last : Option FileState} {entry : Option (FileState × τ)}
    {shown : FileState} (h : entryAfter now last entry shown = some (state, since)) :
    entry = some (state, since) ∨ since = now := by
  rcases entryAfter_cases h with ⟨-, he⟩ | ⟨-, -, he⟩
  · exact .inl he
  · exact he

/-- A wait dates from a look. -/
theorem Leads.exists_reading_eq (h : Leads s {} rounds w)
    (hw : w.pending.lookup file = some (state, since)) : ∃ r ∈ rounds, r.reading = since := by
  induction h generalizing state since with
  | refl => cases hw
  | stop _ ih => exact ih hw
  | @round rounds w' r _ hr ih =>
    rw [hr.pending] at hw
    split at hw
    · cases hw
    · obtain ⟨shown, -, hentry⟩ := Option.bind_eq_some_iff.mp hw
      rcases entryAfter_eq_some hentry with hold | rfl
      · obtain ⟨r', hr', hreading⟩ := ih hold
        exact ⟨r', List.mem_append_left _ hr', hreading⟩
      · exact ⟨r, List.mem_append_right _ (List.mem_singleton_self r), rfl⟩

/-- A file was handed over in a state last, or it waits in it since a reading not after a bound. -/
def Watcher.HasSeen (w : Watcher τ) (file : Text) (state : FileState) (bound : τ) : Prop :=
  w.processed.lookup file = some state ∨
    ∃ since ≤ bound, w.pending.lookup file = some (state, since)

theorem IsRound.hasSeen (h : IsRound s w r) (hshown : r.scan.lookup file = some state)
    (hw : w.HasSeen file state bound) : r.watcher.HasSeen file state bound := by
  rcases hw with hrecorded | ⟨since, hsince, hentry⟩
  · exact .inl (h.processed_of_shown hshown hrecorded)
  · by_cases hfile : file ∈ r.handled
    · obtain ⟨state', hstate', -, hrecorded⟩ := h.recorded hfile
      obtain rfl : state' = state := Option.some.inj (hstate'.symm.trans hshown)
      exact .inl hrecorded
    · refine .inr ⟨since, hsince, ?_⟩
      rw [h.pending, if_neg hfile, hshown, hentry]
      exact entryAfter_of_same since

theorem Leads.hasSeen (h : Leads s w rounds w')
    (hshown : ∀ r ∈ rounds, r.scan.lookup file = some state) (hw : w.HasSeen file state bound) :
    w'.HasSeen file state bound := by
  induction h with
  | refl => exact hw
  | stop _ ih => exact ih hshown
  | round _ hr ih =>
    obtain ⟨hrounds, hlast⟩ := List.forall_mem_append.mp hshown
    exact hr.hasSeen (hlast _ (List.mem_singleton_self _)) (ih hrounds)

end Waiting

section Window

/-- From a look that shows a file in a state on, the file has been handed over in it or waits. -/
theorem IsRound.hasSeen_reading [Sub τ] [Preorder τ] {s : Settings τ} {w : Watcher τ} {r : Round τ}
    {file : Text} {state : FileState} (h : IsRound s w r)
    (hshown : r.scan.lookup file = some state)
    (hsince : ∀ state since, w.pending.lookup file = some (state, since) → since ≤ r.reading) :
    r.watcher.HasSeen file state r.reading := by
  by_cases hold : w.HasSeen file state r.reading
  · exact h.hasSeen hshown hold
  · obtain ⟨hlast, hentry⟩ := not_or.mp hold
    have hnew : ∀ since, w.pending.lookup file ≠ some (state, since) := fun since he =>
      hentry ⟨since, hsince state since he, he⟩
    -- no file is handed over at the look that shows it first
    have hnot : file ∉ r.handled := fun hfile => by
      obtain ⟨state', hstate', -, since, he, -⟩ := h.ready file hfile
      obtain rfl : state' = state := Option.some.inj (hstate'.symm.trans hshown)
      exact hnew since he
    refine .inr ⟨r.reading, le_rfl, ?_⟩
    rw [h.pending, if_neg hnot, hshown]
    exact entryAfter_of_ne hlast hnew

variable [AddCommGroup τ] [LinearOrder τ] [IsOrderedAddMonoid τ]
variable {s : Settings τ} {w : Watcher τ} {r : Round τ} {file : Text} {state : FileState}

/-- A poll at the end of the window hands over a file that waits, unless the order to stop comes. -/
theorem IsRound.recorded_of_hasSeen {bound : τ} (h : IsRound s w r) (hpoll : r.isPoll = true)
    (hstop : r.watcher.stopped = false) (hshown : r.scan.lookup file = some state)
    (hw : w.HasSeen file state bound) (hbound : bound + s.stability ≤ r.reading) :
    r.watcher.processed.lookup file = some state := by
  by_cases hlast : w.processed.lookup file = some state
  · exact h.processed_of_shown hshown hlast
  · obtain ⟨since, hsince, hentry⟩ := hw.resolve_left hlast
    have hwait : s.stability ≤ r.reading - since :=
      le_sub_iff_add_le'.mpr ((add_le_add_left hsince s.stability).trans hbound)
    have hfile := h.complete hpoll hstop file state hshown ⟨hlast, since, hentry, hwait⟩
    rw [h.processed, if_pos hfile, hshown]

/-- A file that every look from one to a poll showed in one state, as long as the stability asks, is
recorded in this state after the poll, and was handed over in it, unless the watcher was ordered to
stop. -/
theorem handed_of_unchanged {e : Surroundings τ σ} {world : σ} {requests : List (Request σ)}
    (hclock : (session e world requests).rounds.Pairwise fun a b => a.reading ≤ b.reading)
    {earlier between later : List (Round τ)} {first last : Round τ}
    (hrounds : (session e world requests).rounds =
      earlier ++ first :: between ++ last :: later)
    (hpoll : last.isPoll = true) (hstop : last.watcher.stopped = false)
    (hshown : ∀ r ∈ first :: between ++ [last], r.scan.lookup file = some state)
    (hwindow : first.reading + e.settings.stability ≤ last.reading) :
    last.watcher.processed.lookup file = some state ∧
      ∃ before r after, earlier ++ first :: between ++ [last] = before ++ r :: after ∧
        file ∈ r.handled ∧ r.scan.lookup file = some state ∧
        r.watcher.processed.lookup file = some state ∧
        ∀ r' ∈ after, file ∉ r'.handled ∧ (r'.scan.lookup file).isSome := by
  have h := session_leads e world requests
  rw [hrounds] at h hclock
  rw [List.append_assoc] at h hclock
  obtain ⟨w₁, hearlier, hr₁, hrest⟩ := h.at_round
  obtain ⟨w₂, hbetween, hr₂, -⟩ := hrest.at_round
  obtain ⟨hfirst, hshown⟩ := List.forall_mem_cons.mp hshown
  obtain ⟨hmiddle, hlast⟩ := List.forall_mem_append.mp hshown
  have hsince : ∀ state since, w₁.pending.lookup file = some (state, since) →
      since ≤ first.reading := fun state since hentry => by
    obtain ⟨r, hr, rfl⟩ := hearlier.exists_reading_eq hentry
    exact (List.pairwise_append.mp hclock).2.2 r hr first (List.mem_cons_self ..)
  have hseen := hbetween.hasSeen hmiddle (hr₁.hasSeen_reading hfirst hsince)
  have hrecorded := hr₂.recorded_of_hasSeen hpoll hstop (hlast last (List.mem_singleton_self _))
    hseen hwindow
  have hall := (hearlier.round hr₁).trans (hbetween.round hr₂)
  rw [List.append_assoc] at hall ⊢
  exact ⟨hrecorded, hall.exists_handed hrecorded⟩

end Window

/-- One file stands still while another one comes, goes and comes back. -/
def besideRequests : List (Request (OrderlyWorld Int)) :=
  [.write "a.csv".toList ⟨1, 1⟩, .write "b.csv".toList ⟨3, 3⟩, .settle, .advance 1,
    .remove "b.csv".toList, .poll, .write "b.csv".toList ⟨3, 3⟩, .advance 1,
    .poll].map csvCourse.request

/-- The look that sees both files first. -/
def firstLook : Round Int :=
  ⟨⟨0, [("a.csv".toList, ⟨1, 1⟩), ("b.csv".toList, ⟨3, 3⟩)], []⟩, false,
    ⟨[("a.csv".toList, (⟨1, 1⟩, 0)), ("b.csv".toList, (⟨3, 3⟩, 0))], [], false⟩⟩

/-- The poll that hands over the one that stood still. -/
def lastPoll : Round Int :=
  ⟨⟨2, [("a.csv".toList, ⟨1, 1⟩), ("b.csv".toList, ⟨3, 3⟩)], ["a.csv".toList]⟩, true,
    ⟨[("b.csv".toList, (⟨3, 3⟩, 2))], [("a.csv".toList, ⟨1, 1⟩)], false⟩⟩

theorem rounds_beside : (session failingEarly emptyWorld besideRequests).rounds =
    [] ++ firstLook :: [pollOf 1 ⟨1, 1⟩ [] [("a.csv".toList, (⟨1, 1⟩, 0))] []] ++
      lastPoll :: [] := by
  cbv

theorem handed_of_unchanged_beside :
    ((session failingEarly emptyWorld besideRequests).rounds.Pairwise
        fun a b => a.reading ≤ b.reading) ∧
      firstLook.reading + failingEarly.settings.stability ≤ lastPoll.reading ∧
      lastPoll.watcher.processed.lookup "a.csv".toList = some ⟨1, 1⟩ ∧
      ∃ before r after, [firstLook, pollOf 1 ⟨1, 1⟩ [] [("a.csv".toList, (⟨1, 1⟩, 0))] [],
          lastPoll] = before ++ r :: after ∧ "a.csv".toList ∈ r.handled := by
  have hclock : (session failingEarly emptyWorld besideRequests).rounds.Pairwise
      fun a b => a.reading ≤ b.reading := by
    rw [rounds_beside]
    decide
  have hwindow : firstLook.reading + failingEarly.settings.stability ≤ lastPoll.reading := by
    decide
  have hshown : ∀ r ∈ firstLook :: [pollOf 1 ⟨1, 1⟩ [] [("a.csv".toList, (⟨1, 1⟩, 0))] []] ++
      [lastPoll], r.scan.lookup "a.csv".toList = some ⟨1, 1⟩ := by
    decide
  obtain ⟨hrecorded, before, r, after, hsplit, hfile, -⟩ :=
    handed_of_unchanged hclock rounds_beside rfl rfl hshown hwindow
  exact ⟨hclock, hwindow, hrecorded, before, r, after, hsplit, hfile⟩

end SchemaMill.Watch
