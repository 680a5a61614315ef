import Mathlib
import SchemaMill.Schema.Order

/-!
# What a visit of the tables keeps

`Progress.Valid r defined free p`: after any part of a visit the emitted tables are distinct and
none of them is open, what an emitted table links to is emitted or open, and a reference of an
emitted table is noted exactly if its table was not emitted before. The open tables are those of
`defined` that are not in `free`; `Way` says that each of them leads to the table that is visited.

`visited` and `followed` are the two halves of one induction over the visit. A reference is noted
when its table is open, and an open table is emitted later: this is why the noted references are
those in the wrong order. `visitAll_valid` is the run from the beginning, where nothing is open.
-/

namespace SchemaMill.Schema

open Relation

/-- A table references another one that is defined. -/
def Links (r : Outline) (defined : List Text) (t d : Text) : Prop :=
  d ∈ r.references t ∧ d ≠ t ∧ d ∈ defined

/-- What a reference is noted as, if it is not followed. -/
def issueOf (defined : List Text) (t d : Text) : Issue :=
  if d ∈ defined then .cycle t d else .undefined t d

theorem issueOf_of_mem {defined : List Text} {d : Text} (h : d ∈ defined) (t : Text) :
    issueOf defined t d = .cycle t d := if_pos h

theorem issueOf_inj {defined : List Text} {t d t' d' : Text} :
    issueOf defined t d = issueOf defined t' d' ↔ t = t' ∧ d = d' := by
  constructor
  · intro h
    unfold issueOf at h
    split at h <;> split at h <;> simp_all
  · rintro ⟨rfl, rfl⟩
    rfl

variable {r : Outline} {defined free : List Text} {table : Text} {p q : Progress}

/-- What holds after each step of a visit, while the tables of `free` are not open. -/
structure Progress.Valid (r : Outline) (defined free : List Text) (p : Progress) : Prop where
  nodup : p.emitted.Nodup
  /-- An emitted table is not open. -/
  unopened : ∀ t ∈ p.emitted, t ∈ free
  /-- What an emitted table links to is emitted or open. -/
  closed : ∀ t ∈ p.emitted, ∀ d, Links r defined t d → d ∈ p.emitted ∨ d ∉ free
  /-- A reference of an emitted table is noted unless its table was emitted before. -/
  accounted : ∀ before t after, p.emitted = before ++ t :: after →
    ∀ d ∈ r.references t, d ≠ t → (issueOf defined t d ∈ p.issues ↔ d ∉ before)
  /-- An issue is about a reference of a table whose visit has begun, and a cycle leads back. -/
  noted : ∀ i ∈ p.issues, ∃ t ∈ defined, ∃ d ∈ r.references t, i = issueOf defined t d ∧ d ≠ t ∧
    (t ∈ p.emitted ∨ t ∉ free) ∧ (d ∈ defined → ReflTransGen (Links r defined) d t)

/-- Every open table leads to `table`. -/
structure Way (r : Outline) (defined free : List Text) (table : Text) : Prop where
  mem : table ∈ defined
  nodup : free.Nodup
  known : ∀ t ∈ free, t ∈ defined
  reaches : ∀ t ∈ defined, t ∉ free → ReflTransGen (Links r defined) t table

theorem mem_of_notMem_erase {t : Text} (h : t ∉ free.erase table) : t ∉ free ∨ t = table := by
  by_cases ht : t = table
  · exact Or.inr ht
  · exact Or.inl fun hf => h ((List.mem_erase_of_ne ht).mpr hf)

namespace Way

theorem link (h : Way r defined free table) {d : Text} (hd : Links r defined table d) :
    Way r defined free d :=
  ⟨hd.2.2, h.nodup, h.known, fun t ht hf => (h.reaches t ht hf).tail hd⟩

theorem erase (h : Way r defined free table) : Way r defined (free.erase table) table where
  mem := h.mem
  nodup := h.nodup.erase table
  known t ht := h.known t (List.mem_of_mem_erase ht)
  reaches t ht hf := by
    rcases mem_of_notMem_erase hf with hf | rfl
    · exact h.reaches t ht hf
    · exact ReflTransGen.refl

theorem start (hnd : defined.Nodup) (hmem : table ∈ defined) : Way r defined defined table :=
  ⟨hmem, hnd, fun _ ht => ht, fun _ ht hf => absurd ht hf⟩

end Way

/-- What a visit of `table` makes of its progress. -/
structure Visited (r : Outline) (defined free : List Text) (table : Text) (p q : Progress) :
    Prop where
  valid : q.Valid r defined free
  emitted : p.emitted <+: q.emitted
  issues : p.issues <+: q.issues
  mem : table ∈ q.emitted
  /-- Nothing is noted about the tables that are open. -/
  frame : ∀ t, t ∉ free → ∀ d, issueOf defined t d ∈ q.issues → issueOf defined t d ∈ p.issues

/-- What following some `references` of the open `table` makes of its progress. -/
structure Followed (r : Outline) (defined free : List Text) (table : Text)
    (references : List Text) (p q : Progress) : Prop where
  valid : q.Valid r defined free
  emitted : p.emitted <+: q.emitted
  issues : p.issues <+: q.issues
  /-- A reference of `table` is noted only if it goes to an open or an undefined table. -/
  own : ∀ d, issueOf defined table d ∈ q.issues → d ∉ free
  /-- Nothing is noted about the other tables that are open. -/
  frame : ∀ t, t ∉ free → t ≠ table →
    ∀ d, issueOf defined t d ∈ q.issues → issueOf defined t d ∈ p.issues
  /-- No reference is passed over. -/
  handled : ∀ d ∈ references, d ≠ table → d ∈ q.emitted ∨ issueOf defined table d ∈ q.issues

namespace Progress.Valid

theorem empty (r : Outline) (defined free : List Text) : Progress.Valid r defined free {} where
  nodup := List.nodup_nil
  unopened t ht := absurd ht List.not_mem_nil
  closed t ht := absurd ht List.not_mem_nil
  accounted before t after h := by simp at h
  noted i hi := absurd hi List.not_mem_nil

theorem opened (h : p.Valid r defined free) (ht : table ∉ p.emitted) :
    p.Valid r defined (free.erase table) where
  nodup := h.nodup
  unopened t hm := by
    have hne : t ≠ table := by
      rintro rfl
      exact ht hm
    exact (List.mem_erase_of_ne hne).mpr (h.unopened t hm)
  closed t hm d hd := (h.closed t hm d hd).imp_right fun hf he => hf (List.mem_of_mem_erase he)
  accounted := h.accounted
  noted i hi := by
    obtain ⟨t, ht, d, hd, e, hne, hb, hr⟩ := h.noted i hi
    exact ⟨t, ht, d, hd, e, hne, hb.imp_right fun hf he => hf (List.mem_of_mem_erase he), hr⟩

theorem not_noted (h : p.Valid r defined free) (ht : table ∉ p.emitted) (hf : table ∈ free)
    (d : Text) : issueOf defined table d ∉ p.issues := by
  intro hi
  obtain ⟨t', -, d', -, e, -, hb, -⟩ := h.noted _ hi
  obtain ⟨rfl, rfl⟩ := issueOf_inj.mp e
  rcases hb with hb | hb
  · exact ht hb
  · exact hb hf

/-- Noting a reference of the open `table` that goes to a table which is not free. -/
theorem note (h : p.Valid r defined free) (hw : Way r defined free table) (ht : table ∉ free)
    {d : Text} (hd : d ∈ r.references table) (hne : d ≠ table) (hf : d ∉ free) :
    Progress.Valid r defined free { p with issues := p.issues ++ [issueOf defined table d] } where
  nodup := h.nodup
  unopened := h.unopened
  closed := h.closed
  accounted before t after he d' hd' hne' := by
    have htp : t ∈ p.emitted := by
      change p.emitted = before ++ t :: after at he
      rw [he]; simp
    have hnt : t ≠ table := fun e => ht (e ▸ h.unopened t htp)
    rw [← h.accounted before t after he d' hd' hne', List.mem_append, List.mem_singleton,
      issueOf_inj]
    exact or_iff_left fun hc => hnt hc.1
  noted i hi := by
    rcases List.mem_append.mp hi with hi | hi
    · exact h.noted i hi
    · exact ⟨table, hw.mem, d, hd, List.mem_singleton.mp hi, hne, Or.inr ht,
        fun hdef => hw.reaches d hdef hf⟩

/-- Emitting the open `table` once all of its references were handled. -/
theorem emit (hnd : free.Nodup) (ht : table ∈ free)
    (h : Followed r defined (free.erase table) table (r.references table) p q) :
    Progress.Valid r defined free { q with emitted := q.emitted ++ [table] } where
  nodup := by
    -- `table` was open until now, so it was not emitted meanwhile
    refine List.nodup_append.mpr ⟨h.valid.nodup, List.pairwise_singleton _ _, ?_⟩
    intro a ha b hb e
    obtain rfl := List.mem_singleton.mp hb
    exact hnd.not_mem_erase (e ▸ h.valid.unopened a ha)
  unopened t hm := by
    rcases List.mem_append.mp hm with hm | hm
    · exact List.mem_of_mem_erase (h.valid.unopened t hm)
    · rw [List.mem_singleton.mp hm]; exact ht
  closed t hm d hd := by
    have hopen : d ∉ free.erase table → d ∈ q.emitted ++ [table] ∨ d ∉ free := by
      intro hf
      rcases mem_of_notMem_erase hf with hf | rfl
      · exact Or.inr hf
      · exact Or.inl (by simp)
    have hmem : d ∈ q.emitted → d ∈ q.emitted ++ [table] ∨ d ∉ free := fun hd =>
      Or.inl (List.mem_append_left _ hd)
    rcases List.mem_append.mp hm with hm | hm
    · exact (h.valid.closed t hm d hd).elim hmem hopen
    · obtain rfl := List.mem_singleton.mp hm
      exact (h.handled d hd.1 hd.2.1).elim hmem fun hi => hopen (h.own d hi)
  accounted before t after he d hd hne := by
    rcases List.eq_nil_or_concat after with rfl | ⟨after', z, rfl⟩
    · -- the table that is emitted now
      obtain ⟨rfl, hz⟩ := List.append_inj' he rfl
      obtain rfl := (List.cons.inj hz).1
      constructor
      · exact fun hi hm => h.own d hi (h.valid.unopened d hm)
      · exact fun hm => (h.handled d hd hne).resolve_left hm
    · have he' : q.emitted ++ [table] = (before ++ t :: after') ++ [z] := by simpa using he
      exact h.valid.accounted before t after' (List.append_inj' he' rfl).1 d hd hne
  noted i hi := by
    obtain ⟨t, ht, d, hd, e, hne, hb, hr⟩ := h.valid.noted i hi
    refine ⟨t, ht, d, hd, e, hne, ?_, hr⟩
    rcases hb with hb | hb
    · exact Or.inl (List.mem_append_left _ hb)
    · rcases mem_of_notMem_erase hb with hb | rfl
      · exact Or.inr hb
      · exact Or.inl (by simp)

end Progress.Valid

/-! ### The two halves of a visit -/

namespace Followed

variable {d : Text} {rest : List Text}

theorem nil (h : p.Valid r defined free)
    (hown : ∀ d, issueOf defined table d ∈ p.issues → d ∉ free) :
    Followed r defined free table [] p p :=
  ⟨h, List.prefix_rfl, List.prefix_rfl, hown, fun _ _ _ _ hi => hi,
    fun _ hd => absurd hd List.not_mem_nil⟩

/-- A reference needs nothing: it goes to the table itself, or to one that is emitted. -/
theorem pass (hd : d = table ∨ d ∈ p.emitted) (h : Followed r defined free table rest p q) :
    Followed r defined free table (d :: rest) p q where
  valid := h.valid
  emitted := h.emitted
  issues := h.issues
  own := h.own
  frame := h.frame
  handled d' hd' hne := by
    rcases List.mem_cons.mp hd' with rfl | hd'
    · exact Or.inl (h.emitted.subset (hd.resolve_left hne))
    · exact h.handled d' hd' hne

/-- A reference is followed: the visit of its table comes before the other references. -/
theorem descend {v : Progress} (hv : Visited r defined free d p v)
    (h : Followed r defined free table rest v q) :
    Followed r defined free table (d :: rest) p q where
  valid := h.valid
  emitted := hv.emitted.trans h.emitted
  issues := hv.issues.trans h.issues
  own := h.own
  frame t hf hne d' hi := hv.frame t hf d' (h.frame t hf hne d' hi)
  handled d' hd' hne := by
    rcases List.mem_cons.mp hd' with rfl | hd'
    · exact Or.inl (h.emitted.subset hv.mem)
    · exact h.handled d' hd' hne

theorem note
    (h : Followed r defined free table rest
      { p with issues := p.issues ++ [issueOf defined table d] } q) :
    Followed r defined free table (d :: rest) p q where
  valid := h.valid
  emitted := h.emitted
  issues := (List.prefix_append _ _).trans h.issues
  own := h.own
  frame t hf hne d' hi := by
    rcases List.mem_append.mp (h.frame t hf hne d' hi) with hi | hi
    · exact hi
    · exact absurd (issueOf_inj.mp (List.mem_singleton.mp hi)).1 hne
  handled d' hd' hne := by
    rcases List.mem_cons.mp hd' with rfl | hd'
    · exact Or.inr (h.issues.subset (by simp))
    · exact h.handled d' hd' hne

theorem emit (hnd : free.Nodup) (ht : table ∈ free)
    (h : Followed r defined (free.erase table) table (r.references table) p q) :
    Visited r defined free table p { q with emitted := q.emitted ++ [table] } where
  valid := Progress.Valid.emit hnd ht h
  emitted := h.emitted.trans (List.prefix_append _ _)
  issues := h.issues
  mem := by simp
  frame t hf d hi :=
    h.frame t (fun he => hf (List.mem_of_mem_erase he)) (fun e => hf (e ▸ ht)) d hi

end Followed

/-- The visit of a table and the following of its references, by one induction: each case is the
lemma of its name in `Followed`. -/
theorem visited_and_followed (r : Outline) (defined : List Text) :
    (∀ free table p, Way r defined free table → table ∈ free → table ∉ p.emitted →
      p.Valid r defined free → Visited r defined free table p (visit r defined free table p)) ∧
    ∀ free table references p, Way r defined free table → table ∉ free →
      (∀ d ∈ references, d ∈ r.references table) → p.Valid r defined free →
      (∀ d, issueOf defined table d ∈ p.issues → d ∉ free) →
      Followed r defined free table references p (follow r defined free table references p) := by
  apply visit.mutual_induct
  case case1 =>
    intro free table p hmem ih hw _ hnew hv
    rw [visit, dif_pos hmem]
    refine Followed.emit hw.nodup hmem (ih hw.erase hw.nodup.not_mem_erase (fun _ hd => hd)
      (hv.opened hnew) ?_)
    intro d hi
    exact absurd hi (hv.not_noted hnew hmem d)
  case case2 =>
    intro free table p hmem _ h
    exact absurd h hmem
  case case3 =>
    intro free table p _ _ _ hv hown
    rw [follow]
    exact Followed.nil hv hown
  case case4 =>
    intro free table d rest p hd ih hw ht hsub hv hown
    rw [follow, if_pos hd]
    exact Followed.pass hd (ih hw ht (fun d hd => hsub d (List.mem_cons_of_mem _ hd)) hv hown)
  case case5 =>
    intro free table d rest p hd hmem ihv ih hw ht hsub hv hown
    rw [follow, if_neg hd, if_pos hmem]
    have hlink : Links r defined table d :=
      ⟨hsub d (List.mem_cons_self ..), fun e => hd (Or.inl e), hw.known d hmem⟩
    have hvisit := ihv (hw.link hlink) hmem (fun he => hd (Or.inr he)) hv
    refine Followed.descend hvisit (ih hw ht (fun d hd => hsub d (List.mem_cons_of_mem _ hd))
      hvisit.valid ?_)
    intro d' hi
    exact hown d' (hvisit.frame table ht d' hi)
  case case6 =>
    intro free table d rest p hd hmem _ ih hw ht hsub hv hown
    rw [follow, if_neg hd, if_neg hmem]
    refine Followed.note (ih hw ht (fun d hd => hsub d (List.mem_cons_of_mem _ hd))
      (hv.note hw ht (hsub d (List.mem_cons_self ..)) (fun e => hd (Or.inl e)) hmem) ?_)
    intro d' hi
    rcases List.mem_append.mp hi with hi | hi
    · exact hown d' hi
    · rw [(issueOf_inj.mp (List.mem_singleton.mp hi)).2]
      exact hmem

theorem visit_valid (hnd : defined.Nodup) (hmem : table ∈ defined) (hnew : table ∉ p.emitted)
    (h : p.Valid r defined defined) :
    Visited r defined defined table p (visit r defined defined table p) :=
  (visited_and_followed r defined).1 _ _ _ (Way.start hnd hmem) hmem hnew h

/-- One table of several: it is visited unless it was met before. -/
theorem visit_unless_emitted (hnd : defined.Nodup) (table : Text) (h : p.Valid r defined defined) :
    let q := if table ∈ p.emitted then p else visit r defined defined table p
    q.Valid r defined defined ∧ p.emitted <+: q.emitted ∧
      (table ∈ defined → table ∈ q.emitted) := by
  intro q
  by_cases hnew : table ∈ p.emitted
  · have hq : q = p := if_pos hnew
    rw [hq]
    exact ⟨h, List.prefix_rfl, fun _ => hnew⟩
  by_cases hmem : table ∈ defined
  · have hq : q = visit r defined defined table p := if_neg hnew
    have hvisit := visit_valid hnd hmem hnew h
    rw [hq]
    exact ⟨hvisit.valid, hvisit.emitted, fun _ => hvisit.mem⟩
  · have hq : q = p := by
      show (if table ∈ p.emitted then p else visit r defined defined table p) = p
      rw [if_neg hnew, visit, dif_neg hmem]
    rw [hq]
    exact ⟨h, List.prefix_rfl, fun hd => absurd hd hmem⟩

/-- After the visits of several tables those of them that are defined are emitted. -/
theorem visitAll_valid (hnd : defined.Nodup) (tables : List Text) (h : p.Valid r defined defined) :
    (visitAll r defined tables p).Valid r defined defined ∧
    p.emitted <+: (visitAll r defined tables p).emitted ∧
    ∀ t ∈ tables, t ∈ defined → t ∈ (visitAll r defined tables p).emitted := by
  induction tables generalizing p with
  | nil => exact ⟨h, List.prefix_rfl, fun _ ht => absurd ht List.not_mem_nil⟩
  | cons table rest ih =>
    obtain ⟨hv, hp, htable⟩ := visit_unless_emitted hnd table h
    obtain ⟨hv', hp', hall⟩ := ih hv
    rw [visitAll]
    refine ⟨hv', hp.trans hp', fun t ht hd => ?_⟩
    rcases List.mem_cons.mp ht with rfl | ht
    · exact hp'.subset (htable hd)
    · exact hall t ht hd

end SchemaMill.Schema
