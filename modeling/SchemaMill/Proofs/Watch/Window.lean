import Mathlib
import SchemaMill.Proofs.Watch.Journal

/-!
# How long a file has stood still when it is handed over

`Accounts` ties what a watcher remembers to the looks it took: the state it keeps of a file that was
handed over is the one shown at that look, and a waiting entry dates from a look since which the
file was shown in the waiting state or as it was last handed over (`KeptSince`). The second case is
a gap. A file that comes back to the state of its last hand-over does not end an older wait, so a
file that left that state, came back and left it again in the same way can be handed over at once.

`window_of_mem_handled` says exactly when. A hand-over comes after a full window of looks at one
state (`Unchanged`) unless the file was seen back in the state of its last hand-over and only looks
within the window followed (`Reverted`), and then only is a file handed over that was seen to change
within the window (`SeenChanging`).
-/

namespace SchemaMill.Watch

variable {τ : Type}

/-- The state in which a file was last handed over, if it has been there ever since. -/
def lastHanded (file : Text) (looks : List (Look τ)) : Option FileState :=
  looks.foldl (fun last look =>
    if file ∈ look.handled then look.scan.lookup file
    else if (look.scan.lookup file).isSome then last else none) none

/-- Since a look at a reading that showed a file in a state, every look showed the file in this
state or as it was last handed over. -/
def KeptSince (file : Text) (last : Option FileState) (state : FileState) (since : τ)
    (looks : List (Look τ)) : Prop :=
  ∃ older first newer, looks = older ++ first :: newer ∧ first.reading = since ∧
    first.scan.lookup file = some state ∧
    ∀ look ∈ newer, ∃ shown, look.scan.lookup file = some shown ∧
      (shown = state ∨ last = some shown)

theorem lastHanded_snoc (file : Text) (looks : List (Look τ)) (look : Look τ) :
    lastHanded file (looks ++ [look]) =
      if file ∈ look.handled then look.scan.lookup file
      else if (look.scan.lookup file).isSome then lastHanded file looks else none := by
  unfold lastHanded
  rw [List.foldl_append]
  rfl

namespace KeptSince

variable {file : Text} {last : Option FileState} {state shown : FileState} {since : τ}
  {looks : List (Look τ)} {look : Look τ}

theorem snoc (h : KeptSince file last state since looks)
    (hlook : look.scan.lookup file = some shown) (hshown : shown = state ∨ last = some shown) :
    KeptSince file last state since (looks ++ [look]) := by
  obtain ⟨older, first, newer, rfl, hsince, hfirst, hnewer⟩ := h
  refine ⟨older, first, newer ++ [look], by simp, hsince, hfirst, fun l hl => ?_⟩
  rcases List.mem_append.mp hl with hl | hl
  · exact hnewer l hl
  · obtain rfl := List.mem_singleton.mp hl
    exact ⟨shown, hlook, hshown⟩

theorem start (hlook : look.scan.lookup file = some state) :
    KeptSince file last state look.reading (looks ++ [look]) :=
  ⟨looks, look, [], rfl, rfl, hlook, by rintro _ ⟨⟩⟩

/-- A wait that goes on or begins at a look dates from a look since which the file was kept. -/
theorem of_entryAfter {entry : Option (FileState × τ)}
    (hentry : ∀ state since, entry = some (state, since) → KeptSince file last state since looks)
    (hlook : look.scan.lookup file = some shown)
    (h : entryAfter look.reading last entry shown = some (state, since)) :
    KeptSince file last state since (looks ++ [look]) := by
  rcases entryAfter_cases h with ⟨hlast, he⟩ | ⟨-, rfl, he | rfl⟩
  · exact (hentry state since he).snoc hlook (.inr hlast)
  · exact (hentry _ since he).snoc hlook (.inl rfl)
  · exact .start hlook

end KeptSince

/-! ### What a watcher remembers, told by its looks -/

section Accounts

variable [Add τ] [Sub τ] [LE τ] [DecidableLE τ]
variable {c : Course τ}

/-- Each file that a look handed over had waited for long enough in the state it was shown in. -/
def AllWaited (s : Settings τ) (looks : List (Look τ)) : Prop :=
  ∀ earlier look, earlier ++ [look] <+: looks → ∀ file ∈ look.handled, ∃ state since,
    look.scan.lookup file = some state ∧ lastHanded file earlier ≠ some state ∧
      s.stability ≤ look.reading - since ∧
      KeptSince file (lastHanded file earlier) state since earlier

/-- A watcher remembers what it was shown. -/
structure Accounts (c : Course τ) (j : Journal τ) : Prop where
  names : j.world.directory.names.Nodup
  processed : ∀ file, j.world.watcher.processed.lookup file = lastHanded file j.looks
  pending : ∀ file state since, j.world.watcher.pending.lookup file = some (state, since) →
    KeptSince file (lastHanded file j.looks) state since j.looks
  handled : AllWaited c.settings j.looks

omit [Add τ] [DecidableLE τ] in
theorem AllWaited.snoc {s : Settings τ} {looks : List (Look τ)} {look : Look τ}
    (h : AllWaited s looks) (hlook : ∀ file ∈ look.handled, ∃ state since,
      look.scan.lookup file = some state ∧ lastHanded file looks ≠ some state ∧
        s.stability ≤ look.reading - since ∧
        KeptSince file (lastHanded file looks) state since looks) :
    AllWaited s (looks ++ [look]) := by
  intro earlier l hl file hfile
  rcases List.prefix_concat_iff.mp hl with he | hl
  · obtain ⟨rfl, hll⟩ := List.append_inj' he rfl
    obtain rfl := List.singleton_inj.mp hll
    exact hlook file hfile
  · exact h earlier l hl file hfile

omit [Add τ] [DecidableLE τ] in
theorem Accounts.look {j j' : Journal τ} {look : Look τ} (h : Accounts c j)
    (hnames : j'.world.directory.names.Nodup) (hlooks : j'.looks = j.looks ++ [look])
    (hlook : IsLook c.settings look.reading look.scan look.handled j.world.watcher
      j'.world.watcher) : Accounts c j' := by
  refine ⟨hnames, fun file => ?_, fun file state since hentry => ?_, ?_⟩
  · rw [hlooks, lastHanded_snoc, hlook.processed, h.processed]
  · rw [hlook.pending] at hentry
    rw [hlooks, lastHanded_snoc]
    split at hentry
    · cases hentry
    · next hfile =>
      -- the file waits after the look, so the look showed it
      obtain ⟨shown, hshown, hentry⟩ := Option.bind_eq_some_iff.mp hentry
      rw [h.processed] at hentry
      rw [if_neg hfile, hshown, Option.isSome_some, if_pos rfl]
      exact .of_entryAfter (h.pending file) hshown hentry
  · rw [hlooks]
    refine h.handled.snoc fun file hfile => ?_
    obtain ⟨state, hstate, hlast, since, hentry, hold⟩ := hlook.ready file hfile
    rw [h.processed] at hlast
    exact ⟨state, since, hstate, hlast, hold, h.pending file state since hentry⟩

theorem Accounts.step {j : Journal τ} (h : Accounts c j) {a : Action τ}
    (ha : ∀ rounds, a ≠ .run rounds) : Accounts c (j.step c a) := by
  have hnames := World.nodup_names_step (c := c) h.names ha
  rcases Journal.step_cases (c := c) h.names ha with ⟨look, hlooks, hlook⟩ | ⟨hlooks, hp, hq⟩
  · exact h.look hnames hlooks hlook
  · refine ⟨hnames, ?_, ?_, ?_⟩
    · rw [hlooks, hq]
      exact h.processed
    · rw [hlooks, hp]
      exact h.pending
    · rw [hlooks]
      exact h.handled

theorem accounts_journal (c : Course τ) (start : τ) (actions : List (Action τ)) :
    Accounts c (journal c start actions) := by
  refine journal_induction ?_ fun j a ha _ h => h.step ha
  refine ⟨List.nodup_nil, fun _ => rfl, by rintro _ _ _ ⟨⟩, fun earlier look hl => ?_⟩
  exact absurd (List.prefix_nil.mp hl) (List.append_ne_nil_of_right_ne_nil _ (List.cons_ne_nil _ _))

end Accounts

/-! ### Windows of looks -/

section Windows

variable [LE τ] [LT τ]

/-- The looks end with ones that show a file in one state, and the first of them is not later than a
reading. -/
def Unchanged (bound : τ) (file : Text) (state : FileState) (looks : List (Look τ)) : Prop :=
  ∃ older first newer, looks = older ++ first :: newer ∧ first.reading ≤ bound ∧
    ∀ look ∈ first :: newer, look.scan.lookup file = some state

/-- A file was seen as it was last handed over, and only looks later than a reading followed. -/
def Reverted (bound : τ) (file : Text) (last : Option FileState) (looks : List (Look τ)) : Prop :=
  ∃ older look newer old, looks = older ++ look :: newer ∧ last = some old ∧
    look.scan.lookup file = some old ∧ ∀ l ∈ newer, bound < l.reading

/-- Two looks in a row, the second of them later than a reading, show different things of a file. -/
def SeenChanging (bound : τ) (file : Text) (looks : List (Look τ)) : Prop :=
  ∃ older before after newer, looks = older ++ before :: after :: newer ∧ bound < after.reading ∧
    before.scan.lookup file ≠ after.scan.lookup file

end Windows

section Lists

variable {α : Type}

theorem mem_or_mem_of_splits {l₁ r₁ l₂ r₂ : List α} {x y : α}
    (h : l₁ ++ x :: r₁ = l₂ ++ y :: r₂) : y ∈ r₁ ∨ x ∈ y :: r₂ := by
  rcases List.append_eq_append_iff.mp h with ⟨t, -, ht⟩ | ⟨t, -, ht⟩
  · rcases t with _ | ⟨z, t⟩
    · obtain ⟨rfl, -⟩ := List.cons.inj ht
      exact .inr (List.mem_cons_self ..)
    · obtain ⟨-, rfl⟩ := List.cons.inj ht
      exact .inl (List.mem_append_right _ (List.mem_cons_self ..))
  · rw [ht]
    exact .inr (List.mem_append_right _ (List.mem_cons_self ..))

theorem forall_or_exists_last (p : α → Prop) (l : List α) :
    (∀ x ∈ l, p x) ∨ ∃ l₁ x l₂, l = l₁ ++ x :: l₂ ∧ ¬ p x ∧ ∀ y ∈ l₂, p y := by
  induction l with
  | nil => exact .inl (by rintro _ ⟨⟩)
  | cons a rest ih =>
    rcases ih with hall | ⟨l₁, x, l₂, rfl, hx, hl₂⟩
    · by_cases ha : p a
      · exact .inl (List.forall_mem_cons.mpr ⟨ha, hall⟩)
      · exact .inr ⟨[], a, rest, rfl, ha, hall⟩
    · exact .inr ⟨a :: l₁, x, l₂, rfl, hx, hl₂⟩

end Lists

section Order

variable [LinearOrder τ] {bound : τ} {file : Text} {last : Option FileState} {state : FileState}
  {looks : List (Look τ)}

/-- A window since which a file was kept shows one state unless the file was seen back in it. -/
theorem unchanged_iff_not_reverted {since : τ} (hkept : KeptSince file last state since looks)
    (hsince : since ≤ bound) (hlast : last ≠ some state) :
    Unchanged bound file state looks ↔ ¬ Reverted bound file last looks := by
  constructor
  · rintro ⟨older, first, newer, hlooks, hfirst, hall⟩ ⟨older', look, newer', old, hlooks', rfl,
      hold, hlate⟩
    rcases mem_or_mem_of_splits (hlooks'.symm.trans hlooks) with hm | hm
    · exact absurd hfirst (not_le_of_gt (hlate first hm))
    · exact hlast (hold.symm.trans (hall look hm))
  · intro hnot
    obtain ⟨older, first, newer, rfl, rfl, hfirst, hnewer⟩ := hkept
    rcases forall_or_exists_last (fun look => look.scan.lookup file = some state) newer with
      hall | ⟨l₁, look, l₂, rfl, hlook, hl₂⟩
    · exact ⟨older, first, newer, rfl, hsince, List.forall_mem_cons.mpr ⟨hfirst, hall⟩⟩
    · -- the last look that showed another state showed the one of the last hand-over
      obtain ⟨shown, hshown, rfl | hback⟩ :=
        hnewer look (List.mem_append_right _ (List.mem_cons_self ..))
      · exact absurd hshown hlook
      obtain ⟨l, hl, hle⟩ : ∃ l ∈ l₂, l.reading ≤ bound := by
        by_contra hno
        refine hnot ⟨older ++ first :: l₁, look, l₂, shown, by simp, hback, hshown, fun l hl => ?_⟩
        exact lt_of_not_ge fun hle => hno ⟨l, hl, hle⟩
      obtain ⟨s, t, rfl⟩ := List.append_of_mem hl
      refine ⟨older ++ first :: l₁ ++ look :: s, l, t, by simp, hle, fun l' hl' => ?_⟩
      exact hl₂ l' (List.mem_append_right _ hl')

omit [LinearOrder τ] in
theorem Unchanged.snoc [LE τ] {look : Look τ} (h : Unchanged bound file state looks)
    (hlook : look.scan.lookup file = some state) :
    Unchanged bound file state (looks ++ [look]) := by
  obtain ⟨older, first, newer, rfl, hfirst, hall⟩ := h
  refine ⟨older, first, newer ++ [look], by simp, hfirst, fun l hl => ?_⟩
  rcases List.mem_append.mp (show l ∈ (first :: newer) ++ [look] from hl) with hl | hl
  · exact hall l hl
  · obtain rfl := List.mem_singleton.mp hl
    exact hlook

omit [LinearOrder τ] in
theorem SeenChanging.snoc [LT τ] (h : SeenChanging bound file looks) (look : Look τ) :
    SeenChanging bound file (looks ++ [look]) := by
  obtain ⟨older, before, after, newer, rfl, hlate, hne⟩ := h
  exact ⟨older, before, after, newer ++ [look], by simp, hlate, hne⟩

/-- A late look shows what the look before it showed, unless the file was seen to change. -/
theorem lookup_of_not_seenChanging {before look : Look τ} (hlate : bound < look.reading)
    (h : ¬ SeenChanging bound file (looks ++ [before] ++ [look])) :
    before.scan.lookup file = look.scan.lookup file := by
  by_contra hne
  exact h ⟨looks, before, look, [], by simp, hlate, hne⟩

theorem unchanged_of_not_seenChanging {look : Look τ} (hlook : look.scan.lookup file = some state)
    (hold : ∃ l ∈ looks ++ [look], l.reading ≤ bound)
    (h : ¬ SeenChanging bound file (looks ++ [look])) :
    Unchanged bound file state (looks ++ [look]) := by
  induction looks using List.reverseRecOn generalizing look with
  | nil =>
    obtain ⟨l, hl, hle⟩ := hold
    obtain rfl := List.mem_singleton.mp hl
    exact ⟨[], l, [], rfl, hle, List.forall_mem_singleton.mpr hlook⟩
  | append_singleton looks before ih =>
    rcases le_or_gt look.reading bound with hle | hlate
    · exact ⟨looks ++ [before], look, [], rfl, hle, List.forall_mem_singleton.mpr hlook⟩
    -- the window goes back beyond this look
    have hbefore := (lookup_of_not_seenChanging hlate h).trans hlook
    refine (ih hbefore ?_ fun hs => h (hs.snoc look)).snoc hlook
    obtain ⟨l, hl, hle⟩ := hold
    rcases List.mem_append.mp hl with hl | hl
    · exact ⟨l, hl, hle⟩
    · obtain rfl := List.mem_singleton.mp hl
      exact absurd hle (not_le_of_gt hlate)

theorem not_seenChanging_of_unchanged (hord : looks.Pairwise fun a b => a.reading ≤ b.reading)
    (h : Unchanged bound file state looks) : ¬ SeenChanging bound file looks := by
  rintro ⟨older', before, after, newer', hlooks', hlate, hne⟩
  obtain ⟨older, first, newer, hlooks, hfirst, hall⟩ := h
  rw [hlooks'] at hord
  have hafter : ∀ l ∈ after :: newer', bound < l.reading := by
    have hpair := (List.pairwise_cons.mp (List.pairwise_append.mp hord).2.1).2
    intro l hl
    rcases List.mem_cons.mp hl with rfl | hl
    · exact hlate
    · exact hlate.trans_le ((List.pairwise_cons.mp hpair).1 l hl)
  rcases mem_or_mem_of_splits (hlooks'.symm.trans hlooks) with hm | hm
  · exact absurd hfirst (not_le_of_gt (hafter first hm))
  · have hsplit : (older' ++ [before]) ++ after :: newer' = older ++ first :: newer := by
      rw [← hlooks, hlooks']
      simp
    rcases mem_or_mem_of_splits hsplit with hm' | hm'
    · exact absurd hfirst (not_le_of_gt (hafter first (List.mem_cons_of_mem _ hm')))
    · exact hne ((hall before hm).trans (hall after hm').symm)

/-- A file shown at the last look was seen to change within the window if and only if the window is
open and the file did not stand in this state before. -/
theorem seenChanging_iff {look : Look τ}
    (hord : (looks ++ [look]).Pairwise fun a b => a.reading ≤ b.reading)
    (hlook : look.scan.lookup file = some state) (hold : ∃ l ∈ looks, l.reading ≤ bound) :
    SeenChanging bound file (looks ++ [look]) ↔
      bound < look.reading ∧ ¬ Unchanged bound file state looks := by
  constructor
  · intro h
    refine ⟨?_, fun hu => not_seenChanging_of_unchanged hord (hu.snoc hlook) h⟩
    obtain ⟨older, before, after, newer, hlooks, hlate, -⟩ := h
    have hmem : after ∈ looks ++ [look] := by simp [hlooks]
    rcases List.mem_append.mp hmem with hm | hm
    · exact hlate.trans_le ((List.pairwise_append.mp hord).2.2 after hm look (by simp))
    · obtain rfl := List.mem_singleton.mp hm
      exact hlate
  · rintro ⟨hlate, hnot⟩
    by_contra h
    rcases List.eq_nil_or_concat looks with rfl | ⟨older, before, rfl⟩
    · obtain ⟨_, ⟨⟩, _⟩ := hold
    rw [List.concat_eq_append] at hold hnot h
    have hbefore := (lookup_of_not_seenChanging hlate h).trans hlook
    exact hnot (unchanged_of_not_seenChanging hbefore hold fun hs => h (hs.snoc look))

end Order

/-! ### When a file is handed over -/

section HandedOver

variable [AddCommGroup τ] [LinearOrder τ] [IsOrderedAddMonoid τ]
variable {c : Course τ} {start : τ} {actions : List (Action τ)}

/-- A file that is handed over was there at a look that lies the whole stability back and at every
look since, in the state it is handed over in or in that of its last hand-over. These looks all show
the one state if and only if the file was not seen back in the other one with only later looks after
it, and in that case alone the file was not seen to change within the window. -/
theorem window_of_mem_handled (htick : 0 ≤ c.tick)
    (hadvance : ∀ d, Action.advance d ∈ actions → 0 ≤ d) {earlier : List (Look τ)} {look : Look τ}
    (hlook : earlier ++ [look] <+: (journal c start actions).looks) {file : Text}
    (hfile : file ∈ look.handled) :
    let bound := look.reading - c.settings.stability
    let last := lastHanded file earlier
    ∃ state, look.scan.lookup file = some state ∧ last ≠ some state ∧
      (∃ since ≤ bound, KeptSince file last state since earlier) ∧
      (Unchanged bound file state earlier ↔ ¬ Reverted bound file last earlier) ∧
      (SeenChanging bound file (earlier ++ [look]) ↔
        0 < c.settings.stability ∧ Reverted bound file last earlier) := by
  intro bound last
  obtain ⟨state, since, hstate, hlast, hwait, hkept⟩ :=
    (accounts_journal c start actions).handled earlier look hlook file hfile
  have hsince : since ≤ bound := le_sub_comm.mp hwait
  have hiff := unchanged_iff_not_reverted hkept hsince hlast
  have hord := (pairwise_reading_journal htick hadvance).sublist hlook.sublist
  have hold : ∃ l ∈ earlier, l.reading ≤ bound := by
    obtain ⟨older, first, newer, hearlier, rfl, -⟩ := hkept
    exact ⟨first, by simp [hearlier], hsince⟩
  refine ⟨state, hstate, hlast, ⟨since, hsince, hkept⟩, hiff, ?_⟩
  rw [seenChanging_iff hord hstate hold, hiff, not_not]
  exact and_congr_left fun _ => sub_lt_self_iff _

end HandedOver

/-- Tables are handed over when they have stood still for two units of time. -/
def csvCourse : Course Int where
  settings := { stability := 2, extensions := [".csv".toList] }
  tick := 0
  outcome _ := {}

/-- A file is handed over, changes, changes back and changes again in the same way. -/
def revertingActions : List (Action Int) :=
  [.write "a.csv".toList ⟨1, 1⟩, .poll, .advance 2, .poll,
    .write "a.csv".toList ⟨2, 2⟩, .poll, .advance 1,
    .write "a.csv".toList ⟨1, 1⟩, .poll, .advance 1,
    .write "a.csv".toList ⟨2, 2⟩, .poll]

def revertingLooks : List (Look Int) :=
  [⟨0, [("a.csv".toList, ⟨1, 1⟩)], []⟩, ⟨2, [("a.csv".toList, ⟨1, 1⟩)], ["a.csv".toList]⟩,
    ⟨2, [("a.csv".toList, ⟨2, 2⟩)], []⟩, ⟨3, [("a.csv".toList, ⟨1, 1⟩)], []⟩]

/-- The last look, which hands the file over although it changed one unit of time before. -/
def revertingLook : Look Int :=
  ⟨4, [("a.csv".toList, ⟨2, 2⟩)], ["a.csv".toList]⟩

theorem looks_reverting :
    (journal csvCourse 0 revertingActions).looks = revertingLooks ++ [revertingLook] := by
  decide +kernel

theorem reverted_reverting :
    Reverted 2 "a.csv".toList (lastHanded "a.csv".toList revertingLooks) revertingLooks :=
  ⟨revertingLooks.take 3, _, [], ⟨1, 1⟩, rfl, by decide, by decide, by rintro _ ⟨⟩⟩

theorem window_of_mem_handled_reverting :
    0 ≤ csvCourse.tick ∧ (∀ d, Action.advance d ∈ revertingActions → 0 ≤ d) ∧
      revertingLooks ++ [revertingLook] <+: (journal csvCourse 0 revertingActions).looks ∧
      "a.csv".toList ∈ revertingLook.handled ∧
      ¬ Unchanged 2 "a.csv".toList ⟨2, 2⟩ revertingLooks ∧
      SeenChanging 2 "a.csv".toList (revertingLooks ++ [revertingLook]) := by
  have htick : 0 ≤ csvCourse.tick := le_rfl
  have hadvance : ∀ d, Action.advance d ∈ revertingActions → 0 ≤ d := by
    intro d hd
    simp only [revertingActions, List.mem_cons, reduceCtorEq, Action.advance.injEq, false_or,
      List.not_mem_nil, or_false] at hd
    omega
  have hlooks : revertingLooks ++ [revertingLook] <+:
      (journal csvCourse 0 revertingActions).looks := looks_reverting ▸ List.prefix_rfl
  have hfile : "a.csv".toList ∈ revertingLook.handled := List.mem_singleton_self _
  obtain ⟨state, hstate, -, -, hunchanged, hseen⟩ :=
    window_of_mem_handled htick hadvance hlooks hfile
  obtain rfl : (⟨2, 2⟩ : FileState) = state := Option.some.inj hstate
  refine ⟨htick, hadvance, hlooks, hfile, ?_, ?_⟩
  · exact fun h => hunchanged.mp h reverted_reverting
  · exact hseen.mpr ⟨by decide, reverted_reverting⟩

end SchemaMill.Watch
