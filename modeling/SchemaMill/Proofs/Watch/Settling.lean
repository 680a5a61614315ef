import SchemaMill.Watch.World

/-!
# What a watcher remembers about one file

A watcher treats each file on its own, so a look at the directory is described by what is looked up
for a single file before and after it. `entryAfter` is the waiting entry of a file that was shown,
`IsReady` says when the file is ready, and `IsLook` puts the whole look together. It holds of
`settle` (`Watcher.isLook_settle`) and of `poll` (`Watcher.isLook_poll`), and nothing later unfolds
a watcher.
-/

namespace SchemaMill.Watch

section Lookup

variable {α : Type}

theorem lookup_filter_fst (q : Text → Bool) (l : List (Text × α)) (k : Text) :
    (l.filter fun p => q p.1).lookup k = if q k then l.lookup k else none := by
  induction l with
  | nil => simp
  | cons p rest ih =>
    obtain ⟨k', v⟩ := p
    by_cases hk : k = k'
    · subst hk
      by_cases hq : q k = true
      · simp [hq]
      · simp [hq, ih]
    · have hb : (k == k') = false := beq_eq_false_iff_ne.mpr hk
      by_cases hq : q k' = true <;> simp [List.lookup_cons, hb, hq, ih]

theorem isSome_lookup_iff {l : List (Text × α)} {k : Text} :
    (l.lookup k).isSome = true ↔ k ∈ l.map Prod.fst := by
  rw [List.lookup_isSome_iff, List.mem_map]
  constructor
  · rintro ⟨p, hp, hk⟩
    exact ⟨p, hp, (beq_iff_eq.mp hk).symm⟩
  · rintro ⟨p, hp, rfl⟩
    exact ⟨p, hp, beq_self_eq_true _⟩

theorem lookup_eq_none_of_notMem {l : List (Text × α)} {k : Text} (h : k ∉ l.map Prod.fst) :
    l.lookup k = none := by
  rw [← isSome_lookup_iff] at h
  exact Option.not_isSome_iff_eq_none.mp h

end Lookup

variable {τ σ : Type}

/-! ### Showing the files -/

section Settle

variable [Sub τ] [LE τ] [DecidableLE τ]
variable (s : Settings τ) (now : τ)

/-- The waiting entry of a file after it was shown in a state, from the state in which it was last
handed over and the waiting entry before. -/
def entryAfter (now : τ) (last : Option FileState) (entry : Option (FileState × τ))
    (state : FileState) : Option (FileState × τ) :=
  if last = some state then entry
  else match entry with
    | some (seen, since) => if seen = state then some (seen, since) else some (state, now)
    | none => some (state, now)

section entryAfter

variable {now : τ} {last : Option FileState} {state : FileState}

omit [Sub τ] [LE τ] [DecidableLE τ] in
theorem entryAfter_of_handed (h : last = some state) (entry : Option (FileState × τ)) :
    entryAfter now last entry state = entry :=
  if_pos h

omit [Sub τ] [LE τ] [DecidableLE τ] in
theorem entryAfter_of_same (since : τ) :
    entryAfter now last (some (state, since)) state = some (state, since) := by
  unfold entryAfter
  simp

omit [Sub τ] [LE τ] [DecidableLE τ] in
theorem entryAfter_of_ne (h : last ≠ some state) {entry : Option (FileState × τ)}
    (he : ∀ since, entry ≠ some (state, since)) :
    entryAfter now last entry state = some (state, now) := by
  unfold entryAfter
  rw [if_neg h]
  rcases entry with _ | ⟨seen, since⟩
  · rfl
  · refine if_neg ?_
    rintro rfl
    exact he since rfl

omit [Sub τ] [LE τ] [DecidableLE τ] in
/-- An entry is the one before, of a file that is as it was handed over or that is shown in the
state in which it waits, or it begins to wait now in the state it is shown in. -/
theorem entryAfter_cases {entry : Option (FileState × τ)} {shown : FileState} {since : τ}
    (h : entryAfter now last entry shown = some (state, since)) :
    (last = some shown ∧ entry = some (state, since)) ∨
      (last ≠ some shown ∧ state = shown ∧ (entry = some (state, since) ∨ since = now)) := by
  by_cases hlast : last = some shown
  · rw [entryAfter_of_handed hlast] at h
    exact .inl ⟨hlast, h⟩
  refine .inr ⟨hlast, ?_⟩
  by_cases hsame : ∃ t, entry = some (shown, t)
  · obtain ⟨t, rfl⟩ := hsame
    rw [entryAfter_of_same] at h
    exact ⟨(Prod.mk.inj (Option.some.inj h)).1.symm, .inl h⟩
  · rw [entryAfter_of_ne hlast fun t ht => hsame ⟨t, ht⟩] at h
    obtain ⟨rfl, rfl⟩ := Prod.mk.inj (Option.some.inj h)
    exact ⟨rfl, .inr rfl⟩

omit [Sub τ] [LE τ] [DecidableLE τ] in
theorem exists_entryAfter (h : last ≠ some state) (now : τ) (entry : Option (FileState × τ)) :
    ∃ since, entryAfter now last entry state = some (state, since) := by
  by_cases hsame : ∃ t, entry = some (state, t)
  · obtain ⟨t, rfl⟩ := hsame
    exact ⟨t, entryAfter_of_same t⟩
  · exact ⟨now, entryAfter_of_ne h fun t ht => hsame ⟨t, ht⟩⟩

end entryAfter

/-- A file that is shown in a state is ready: it differs from what was handed over last and has
waited in this state for long enough. -/
def IsReady (s : Settings τ) (now : τ) (last : Option FileState) (entry : Option (FileState × τ))
    (state : FileState) : Prop :=
  last ≠ some state ∧ ∃ since, entry = some (state, since) ∧ s.stability ≤ now - since

namespace Watcher

variable (w : Watcher τ) (file : Text) (state : FileState)

/-- A file is as it was handed over, or it begins to wait in a new state, or it waits on. -/
theorem examine_cases :
    (w.processed.lookup file = some state ∧ (examine s now w file state).watcher = w ∧
      (examine s now w file state).ready = []) ∨
    (w.processed.lookup file ≠ some state ∧
      (∀ since, w.pending.lookup file ≠ some (state, since)) ∧
      (examine s now w file state).watcher =
        { w with pending := setField file (state, now) w.pending } ∧
      (examine s now w file state).ready = []) ∨
    ∃ since, w.processed.lookup file ≠ some state ∧ w.pending.lookup file = some (state, since) ∧
      (examine s now w file state).watcher = w ∧
      (examine s now w file state).ready = if s.stability ≤ now - since then [file] else [] := by
  by_cases hlast : w.processed.lookup file = some state
  · refine .inl ⟨hlast, ?_⟩
    unfold examine
    rw [if_pos hlast]
    exact ⟨rfl, rfl⟩
  refine .inr ?_
  unfold examine
  rw [if_neg hlast]
  rcases he : w.pending.lookup file with _ | ⟨seen, since⟩
  · exact .inl ⟨hlast, fun _ h => Option.some_ne_none _ h.symm, rfl, rfl⟩
  by_cases hs : seen = state
  · subst hs
    refine .inr ⟨since, hlast, rfl, ?_⟩
    dsimp only
    rw [if_neg (not_not_intro rfl)]
    split
    · exact ⟨rfl, rfl⟩
    · exact ⟨rfl, rfl⟩
  · refine .inl ⟨hlast, fun _ h => hs (Prod.mk.inj (Option.some.inj h)).1, ?_⟩
    dsimp only
    rw [if_pos hs]
    exact ⟨rfl, rfl⟩

theorem processed_examine : (examine s now w file state).watcher.processed = w.processed := by
  rcases examine_cases s now w file state with ⟨-, hw, -⟩ | ⟨-, -, hw, -⟩ | ⟨_, -, -, hw, -⟩
  all_goals rw [hw]

theorem lookup_pending_examine (k : Text) :
    (examine s now w file state).watcher.pending.lookup k =
      if k = file then entryAfter now (w.processed.lookup file) (w.pending.lookup file) state
      else w.pending.lookup k := by
  have hkeep : ∀ e, w.pending.lookup file = e →
      w.pending.lookup k = if k = file then e else w.pending.lookup k := by
    intro e he
    split
    · next hk => rw [hk, he]
    · rfl
  rcases examine_cases s now w file state with
    ⟨hlast, hw, -⟩ | ⟨hlast, hnew, hw, -⟩ | ⟨since, -, he, hw, -⟩
  · rw [hw, entryAfter_of_handed hlast]
    exact hkeep _ rfl
  · rw [hw, entryAfter_of_ne hlast hnew]
    exact lookup_setField ..
  · rw [hw, he, entryAfter_of_same]
    exact hkeep _ he

theorem mem_ready_examine (k : Text) :
    k ∈ (examine s now w file state).ready ↔
      k = file ∧ IsReady s now (w.processed.lookup file) (w.pending.lookup file) state := by
  unfold IsReady
  rcases examine_cases s now w file state with
    ⟨hlast, -, hr⟩ | ⟨-, hnew, -, hr⟩ | ⟨since, hlast, he, -, hr⟩
  · simp [hr, hlast]
  · simp [hr, hnew]
  · by_cases ho : s.stability ≤ now - since <;> simp [hr, hlast, he, ho]

theorem ready_examine : (examine s now w file state).ready.Sublist [file] := by
  rcases examine_cases s now w file state with ⟨-, -, hr⟩ | ⟨-, -, -, hr⟩ | ⟨since, -, -, -, hr⟩
  · rw [hr]
    exact List.nil_sublist _
  · rw [hr]
    exact List.nil_sublist _
  · rw [hr]
    split
    · exact List.Sublist.refl _
    · exact List.nil_sublist _

theorem processed_examineAll (scan : Scan) :
    (examineAll s now w scan).watcher.processed = w.processed := by
  induction scan generalizing w with
  | nil => rfl
  | cons p rest ih => exact (ih _).trans (processed_examine s now w p.1 p.2)

theorem ready_examineAll (scan : Scan) :
    (examineAll s now w scan).ready.Sublist (scan.map Prod.fst) := by
  induction scan generalizing w with
  | nil => exact List.Sublist.refl _
  | cons p rest ih => exact (ready_examine s now w p.1 p.2).append (ih _)

theorem lookup_pending_examineAll_of_notMem {scan : Scan} {k : Text}
    (h : k ∉ scan.map Prod.fst) :
    (examineAll s now w scan).watcher.pending.lookup k = w.pending.lookup k := by
  induction scan generalizing w with
  | nil => rfl
  | cons p rest ih =>
    rw [List.map_cons, List.mem_cons, not_or] at h
    refine (ih _ h.2).trans ?_
    rw [lookup_pending_examine, if_neg h.1]

theorem lookup_pending_examineAll {scan : Scan} (hnd : (scan.map Prod.fst).Nodup) {k : Text}
    {state : FileState} (hk : scan.lookup k = some state) :
    (examineAll s now w scan).watcher.pending.lookup k =
      entryAfter now (w.processed.lookup k) (w.pending.lookup k) state := by
  induction scan generalizing w with
  | nil => cases hk
  | cons p rest ih =>
    obtain ⟨file, st⟩ := p
    obtain ⟨hfile, hrest⟩ := List.nodup_cons.mp hnd
    change (examineAll s now (examine s now w file st).watcher rest).watcher.pending.lookup k = _
    by_cases hkf : k = file
    · subst hkf
      obtain rfl : st = state := by simpa using hk
      rw [lookup_pending_examineAll_of_notMem s now _ hfile, lookup_pending_examine, if_pos rfl]
    · have hk' : rest.lookup k = some state := by
        simpa [List.lookup_cons, beq_eq_false_iff_ne.mpr hkf] using hk
      rw [ih _ hrest hk', processed_examine, lookup_pending_examine, if_neg hkf]

theorem mem_ready_examineAll {scan : Scan} (hnd : (scan.map Prod.fst).Nodup) {k : Text} :
    k ∈ (examineAll s now w scan).ready ↔ ∃ state, scan.lookup k = some state ∧
      IsReady s now (w.processed.lookup k) (w.pending.lookup k) state := by
  induction scan generalizing w with
  | nil => simp [examineAll]
  | cons p rest ih =>
    obtain ⟨file, st⟩ := p
    obtain ⟨hfile, hrest⟩ := List.nodup_cons.mp hnd
    change k ∈ (examine s now w file st).ready ++
      (examineAll s now (examine s now w file st).watcher rest).ready ↔ _
    rw [List.mem_append, mem_ready_examine, ih _ hrest, processed_examine]
    by_cases hkf : k = file
    · subst hkf
      have hnone : rest.lookup k = none := lookup_eq_none_of_notMem hfile
      simp [hnone]
    · have hb : (k == file) = false := beq_eq_false_iff_ne.mpr hkf
      simp only [hkf, false_and, false_or, List.lookup_cons, hb, lookup_pending_examine, if_false]

/-! ### One scan -/

variable (scan : Scan)

omit [Sub τ] [LE τ] [DecidableLE τ] in
theorem lookup_forget (k : Text) :
    (w.forget scan).watcher.pending.lookup k =
        (if (scan.lookup k).isSome then w.pending.lookup k else none) ∧
      (w.forget scan).watcher.processed.lookup k =
        if (scan.lookup k).isSome then w.processed.lookup k else none := by
  have hthere : (scan.map Prod.fst).contains k = (scan.lookup k).isSome := by
    rw [Bool.eq_iff_iff, isSome_lookup_iff, List.contains_iff_mem]
  constructor
  · refine (lookup_filter_fst (fun k => (scan.map Prod.fst).contains k) w.pending k).trans ?_
    rw [hthere]
  · refine (lookup_filter_fst (fun k => (scan.map Prod.fst).contains k) w.processed k).trans ?_
    rw [hthere]

/-- The state in which a file was last handed over is forgotten only if the file is gone. -/
theorem lookup_processed_settle (k : Text) :
    (w.settle s now scan).watcher.processed.lookup k =
      if (scan.lookup k).isSome then w.processed.lookup k else none := by
  change (examineAll s now (w.forget scan).watcher scan).watcher.processed.lookup k = _
  rw [processed_examineAll, (w.lookup_forget scan k).2]

variable {scan}

theorem lookup_pending_settle (hnd : (scan.map Prod.fst).Nodup) (k : Text) :
    (w.settle s now scan).watcher.pending.lookup k =
      (scan.lookup k).bind (entryAfter now (w.processed.lookup k) (w.pending.lookup k)) := by
  change (examineAll s now (w.forget scan).watcher scan).watcher.pending.lookup k = _
  cases hk : scan.lookup k with
  | none =>
    have hnot : k ∉ scan.map Prod.fst := by
      rw [← isSome_lookup_iff, hk]
      exact Bool.false_ne_true
    rw [lookup_pending_examineAll_of_notMem s now _ hnot, (w.lookup_forget scan k).1, hk]
    rfl
  | some state =>
    rw [lookup_pending_examineAll s now _ hnd hk, (w.lookup_forget scan k).1,
      (w.lookup_forget scan k).2, hk]
    rfl

theorem mem_ready_settle (hnd : (scan.map Prod.fst).Nodup) (k : Text) :
    k ∈ (w.settle s now scan).ready ↔ ∃ state, scan.lookup k = some state ∧
      IsReady s now (w.processed.lookup k) (w.pending.lookup k) state := by
  change k ∈ (examineAll s now (w.forget scan).watcher scan).ready ↔ _
  rw [mem_ready_examineAll s now _ hnd]
  refine exists_congr fun state => and_congr_right fun hk => ?_
  rw [(w.lookup_forget scan k).1, (w.lookup_forget scan k).2, hk]
  rfl

theorem exists_pending_of_mem_ready (hnd : (scan.map Prod.fst).Nodup) {k : Text}
    (h : k ∈ (w.settle s now scan).ready) : ∃ state since, scan.lookup k = some state ∧
      (w.settle s now scan).watcher.pending.lookup k = some (state, since) := by
  obtain ⟨state, hstate, -, since, hentry, -⟩ := (mem_ready_settle s now w hnd k).mp h
  refine ⟨state, since, hstate, ?_⟩
  rw [lookup_pending_settle s now w hnd, hstate, hentry]
  exact entryAfter_of_same since

end Watcher

end Settle

/-! ### Handing the ready files over -/

namespace Watcher

variable (handle : Handler σ) (w : Watcher τ) (world : σ)

theorem lookup_pending_take (file k : Text) :
    (w.take file).pending.lookup k = if k = file then none else w.pending.lookup k := by
  unfold take
  split
  · next he =>
    split
    · next hk => rw [hk, he]
    · rfl
  · refine (lookup_filter_fst (fun k => k != file) w.pending k).trans ?_
    by_cases hk : k = file <;> simp [hk]

theorem lookup_processed_take_of_ne {file k : Text} (h : k ≠ file) :
    (w.take file).processed.lookup k = w.processed.lookup k := by
  unfold take
  split
  · rfl
  · exact (lookup_setField ..).trans (if_neg h)

theorem pending_handOver (file : Text) :
    (handOver handle w world file).watcher.pending = (w.take file).pending := by
  unfold handOver stop
  dsimp only
  split <;> rfl

theorem processed_handOver (file : Text) :
    (handOver handle w world file).watcher.processed = (w.take file).processed := by
  unfold handOver stop
  dsimp only
  split <;> rfl

theorem handled_handOverAll (files : List Text) :
    (handOverAll handle w world files).handled <+: files := by
  induction files generalizing w world with
  | nil => exact List.nil_prefix
  | cons file rest ih =>
    unfold handOverAll
    split
    · exact List.nil_prefix
    · exact (List.prefix_append_right_inj [file]).mpr (ih _ _)

/-- No entry waits for a file that was handed over, and every other file waits as before. -/
theorem lookup_pending_handOverAll (files : List Text) (k : Text) :
    (handOverAll handle w world files).watcher.pending.lookup k =
      if k ∈ (handOverAll handle w world files).handled then none else w.pending.lookup k := by
  induction files generalizing w world with
  | nil => rfl
  | cons file rest ih =>
    unfold handOverAll
    split
    · rfl
    · refine (ih _ _).trans ?_
      rw [pending_handOver, lookup_pending_take]
      change _ = if k ∈ [file] ++ _ then _ else _
      by_cases hk : k = file <;> simp [hk]

theorem lookup_processed_handOverAll_of_notMem {files : List Text} {k : Text}
    (h : k ∉ (handOverAll handle w world files).handled) :
    (handOverAll handle w world files).watcher.processed.lookup k = w.processed.lookup k := by
  induction files generalizing w world with
  | nil => rfl
  | cons file rest ih =>
    unfold handOverAll at h ⊢
    split
    · rfl
    · next hs =>
      rw [if_neg hs] at h
      obtain ⟨hfile, hrest⟩ := List.ne_and_not_mem_of_not_mem_cons h
      refine (ih _ _ hrest).trans ?_
      rw [processed_handOver, lookup_processed_take_of_ne _ hfile]

/-- A file is handed over in the state in which it waits. -/
theorem lookup_processed_handOverAll_of_mem {files : List Text} (hnd : files.Nodup) {k : Text}
    {state : FileState} {since : τ} (hk : w.pending.lookup k = some (state, since))
    (h : k ∈ (handOverAll handle w world files).handled) :
    (handOverAll handle w world files).watcher.processed.lookup k = some state := by
  induction files generalizing w world with
  | nil => cases h
  | cons file rest ih =>
    obtain ⟨hfile, hrest⟩ := List.nodup_cons.mp hnd
    unfold handOverAll at h ⊢
    split
    · next hs =>
      rw [if_pos hs] at h
      cases h
    · next hs =>
      rw [if_neg hs] at h
      rcases List.mem_cons.mp h with rfl | h
      · -- nothing that is handed over later has this name
        refine (lookup_processed_handOverAll_of_notMem _ _ _ ?_).trans ?_
        · exact fun hm => hfile ((handled_handOverAll handle _ _ _).subset hm)
        · rw [processed_handOver]
          unfold take
          rw [hk]
          exact (lookup_setField ..).trans (if_pos rfl)
      · refine ih _ _ hrest ?_ h
        rw [pending_handOver, lookup_pending_take, if_neg, hk]
        rintro rfl
        exact hfile ((handled_handOverAll handle _ _ _).subset h)

end Watcher

/-! ### One look -/

section Look

variable [Sub τ] [LE τ] [DecidableLE τ]

/-- What one look at the directory does to a watcher, file by file. -/
structure IsLook (s : Settings τ) (now : τ) (scan : Scan) (handled : List Text)
    (w w' : Watcher τ) : Prop where
  /-- A file waits unless it is gone or was handed over. -/
  pending : ∀ k, w'.pending.lookup k = if k ∈ handled then none
    else (scan.lookup k).bind (entryAfter now (w.processed.lookup k) (w.pending.lookup k))
  /-- The state in which a file was last handed over is forgotten only if the file is gone. -/
  processed : ∀ k, w'.processed.lookup k = if k ∈ handled then scan.lookup k
    else if (scan.lookup k).isSome then w.processed.lookup k else none
  /-- Only files that are ready are handed over. -/
  ready : ∀ k ∈ handled, ∃ state, scan.lookup k = some state ∧
    IsReady s now (w.processed.lookup k) (w.pending.lookup k) state

namespace Watcher

variable (s : Settings τ) (now : τ) {scan : Scan} (hnd : (scan.map Prod.fst).Nodup)
  (w : Watcher τ)
include hnd

theorem isLook_settle : IsLook s now scan [] w (w.settle s now scan).watcher := by
  refine ⟨fun k => ?_, fun k => ?_, by rintro _ ⟨⟩⟩
  · rw [lookup_pending_settle s now w hnd, if_neg (List.not_mem_nil)]
  · rw [lookup_processed_settle, if_neg (List.not_mem_nil)]

theorem isLook_poll (handle : Handler σ) (world : σ) :
    IsLook s now scan (w.poll s handle now scan world).handled w
      (w.poll s handle now scan world).watcher := by
  have hready : ∀ k ∈ (w.poll s handle now scan world).handled, ∃ state,
      scan.lookup k = some state ∧
        IsReady s now (w.processed.lookup k) (w.pending.lookup k) state := fun k hk =>
    (mem_ready_settle s now w hnd k).mp ((handled_handOverAll handle _ world _).subset hk)
  refine ⟨fun k => ?_, fun k => ?_, hready⟩
  · refine (lookup_pending_handOverAll handle _ world _ k).trans ?_
    rw [lookup_pending_settle s now w hnd]
    rfl
  · split
    · next hk =>
      obtain ⟨state, since, hstate, hwait⟩ := exists_pending_of_mem_ready s now w hnd
        ((handled_handOverAll handle _ world _).subset hk)
      exact (lookup_processed_handOverAll_of_mem handle _ world
        ((ready_examineAll s now _ scan).nodup hnd) hwait hk).trans hstate.symm
    · next hk =>
      refine (lookup_processed_handOverAll_of_notMem handle (w.settle s now scan).watcher world
        hk).trans ?_
      exact lookup_processed_settle s now w scan k

end Watcher

end Look

end SchemaMill.Watch
