import SchemaMill.Proofs.Nesting.Encodings

/-!
# Referenced tables

A dotted name is read as far as it goes: its tokens are identifiers with points between them, and
none goes on behind it (`exists_dotted_of_readName`, `Dotted.unique`). So the tables that some
tokens mention can be told without reading parts: of each dotted name behind the word `REFERENCES`
the last component (`Mentions`).

A table depends on what its elements mention (`dependencies_mentionsIn`), each table once and in
the order of the first mention.
-/

namespace SchemaMill.Sql

open Nesting

/-! ### Dotted names -/

/-- The tokens of a dotted name, and the last of its identifiers. -/
inductive Dotted : List Token → Token → Prop where
  | last {t : Token} (ht : t.isIdentifier) : Dotted [t] t
  | qualifier {t dot last : Token} {named : List Token} (ht : t.isIdentifier)
    (hdot : dot.isSign '.') (hnamed : Dotted named last) : Dotted (t :: dot :: named) last

/-- No dotted name goes on: what comes first is no point with an identifier behind it. -/
def EndsName (ts : List Token) : Prop :=
  ∀ dot t rest, ts = dot :: t :: rest → dot.isSign '.' → ¬t.isIdentifier

section Names

variable {named named' after after' ts : List Token} {last last' t : Token} {q : QualifiedName}

theorem Dotted.exists_cons (h : Dotted named last) :
    ∃ t more, named = t :: more ∧ t.isIdentifier := by
  cases h with
  | last ht => exact ⟨_, [], rfl, ht⟩
  | qualifier ht => exact ⟨_, _, rfl, ht⟩

/-- A name that ends cannot go on. -/
theorem EndsName.ne_dotted {dot : Token} (h : EndsName after) (hdot : dot.isSign '.')
    (hnamed : Dotted named last) : after ≠ dot :: (named ++ after') := by
  rintro rfl
  obtain ⟨t, more, rfl, ht⟩ := hnamed.exists_cons
  exact h dot t (more ++ after') rfl hdot ht

/-- A dotted name at the start of some tokens ends at one place. -/
theorem Dotted.unique (h : Dotted named last) (h' : Dotted named' last') (hend : EndsName after)
    (hend' : EndsName after') (heq : named ++ after = named' ++ after') :
    named = named' ∧ last = last' ∧ after = after' := by
  induction h generalizing named' with
  | last =>
    cases h' with
    | last =>
      cases heq
      exact ⟨rfl, rfl, rfl⟩
    | qualifier _ hdot hnamed => exact absurd (List.cons.inj heq).2 (hend.ne_dotted hdot hnamed)
  | qualifier _ hdot hnamed ih =>
    cases h' with
    | last => exact absurd (List.cons.inj heq).2.symm (hend'.ne_dotted hdot hnamed)
    | qualifier _ _ hnamed' =>
      simp only [List.cons_append, List.cons.injEq] at heq
      obtain ⟨rfl, rfl, heq⟩ := heq
      obtain ⟨rfl, rfl, rfl⟩ := ih hnamed' heq
      exact ⟨rfl, rfl, rfl⟩

theorem exists_dotted_of_readDotted (ht : t.isIdentifier) (ts : List Token) :
    ∃ named last, t :: ts = named ++ (readDotted ts).2 ∧ Dotted named last ∧
      EndsName (readDotted ts).2 ∧
      last.identifier = (t.identifier :: (readDotted ts).1).getLast (List.cons_ne_nil _ _) := by
  fun_induction readDotted ts generalizing t with
  | case1 dot u rest h ih =>
    rw [Bool.and_eq_true] at h
    obtain ⟨named, last, hrow, hnamed, hend, hlast⟩ := ih h.2
    refine ⟨t :: dot :: named, last, ?_, .qualifier ht h.1 hnamed, hend, ?_⟩
    · rw [hrow, List.cons_append, List.cons_append]
    · rw [hlast, List.getLast_cons (List.cons_ne_nil _ _)]
  | case2 dot u rest h =>
    refine ⟨[t], t, rfl, .last ht, ?_, rfl⟩
    intro dot' u' rest' heq hdot hu
    cases heq
    exact h (by rw [hdot, hu]; rfl)
  | case3 ts h =>
    exact ⟨[t], t, rfl, .last ht, fun dot u rest heq => absurd heq (h dot u rest), rfl⟩

/-- What is read as a name is a dotted name that ends, and it names the table of its last
identifier. -/
theorem exists_dotted_of_readName (h : readName ts = some (q, after)) :
    ∃ named last, ts = named ++ after ∧ Dotted named last ∧ EndsName after ∧
      last.identifier = q.table := by
  cases ts with
  | nil => cases h
  | cons t ts =>
    rw [readName] at h
    split at h
    · next ht =>
      cases h
      exact exists_dotted_of_readDotted ht ts
    · cases h

theorem readName_eq_none_iff : readName ts = none ↔ ts.head?.any (·.isIdentifier) = false := by
  cases ts with
  | nil => simp [readName]
  | cons t ts =>
    rw [readName]
    split <;> simp_all

theorem Dotted.exists_readName (h : Dotted named last) (hend : EndsName after) :
    ∃ q, readName (named ++ after) = some (q, after) ∧ q.table = last.identifier := by
  cases hname : readName (named ++ after) with
  | none =>
    obtain ⟨t, more, rfl, ht⟩ := h.exists_cons
    rw [readName_eq_none_iff, List.cons_append, List.head?_cons, Option.any_some, ht] at hname
    cases hname
  | some found =>
    obtain ⟨q, after'⟩ := found
    obtain ⟨named', last', hrow, hnamed', hend', hlast⟩ := exists_dotted_of_readName hname
    obtain ⟨rfl, rfl, rfl⟩ := h.unique hnamed' hend hend' hrow
    exact ⟨q, rfl, hlast.symm⟩

end Names

/-! ### Mentions -/

/-- The names of the tables that some tokens mention, from left to right: the last identifier,
without its quotes, of each dotted name behind the word `REFERENCES`. The search goes on behind the
name, or behind the word if no identifier follows it. -/
inductive Mentions : List Token → List Text → Prop where
  | nil : Mentions [] []
  | other {t : Token} {rest : List Token} {ns : List Text} (ht : ¬t.isWord "REFERENCES")
    (hrest : Mentions rest ns) : Mentions (t :: rest) ns
  | bare {t : Token} {rest : List Token} {ns : List Text} (ht : t.isWord "REFERENCES")
    (hbare : rest.head?.any (·.isIdentifier) = false) (hrest : Mentions rest ns) :
    Mentions (t :: rest) ns
  | name {t last : Token} {named rest : List Token} {ns : List Text} (ht : t.isWord "REFERENCES")
    (hnamed : Dotted named last) (hend : EndsName rest) (hrest : Mentions rest ns) :
    Mentions (t :: (named ++ rest)) (last.identifier.name :: ns)

/-- The names of the tables among some parts. -/
def tableNames (ps : List Part) : List Text := (ps.filterMap Part.name?).map (·.name)

theorem mentions_liftReferences (ts : List Token) :
    Mentions ts (tableNames (liftReferences ts)) := by
  fun_induction liftReferences ts with
  | case1 => exact .nil
  | case2 t rest ht q after hname ih =>
    obtain ⟨named, last, rfl, hnamed, hend, hlast⟩ := exists_dotted_of_readName hname
    have hmore : tableNames (.token t :: .name q :: liftReferences after) =
        last.identifier.name :: tableNames (liftReferences after) := by rw [hlast]; rfl
    rw [hmore]
    exact .name ht hnamed hend ih
  | case3 t rest ht hname ih => exact .bare ht (readName_eq_none_iff.mp hname) ih
  | case4 t rest ht ih => exact .other ht ih

theorem Mentions.eq_tableNames {ts : List Token} {ns : List Text} (h : Mentions ts ns) :
    ns = tableNames (liftReferences ts) := by
  induction h with
  | nil => rw [liftReferences]; rfl
  | other ht _ ih => rw [liftReferences, if_neg ht, ih]; rfl
  | bare ht hbare _ ih =>
    rw [liftReferences, if_pos ht, readName_eq_none_iff.mpr hbare, ih]
    rfl
  | name ht hnamed hend _ ih =>
    obtain ⟨q, hname, hlast⟩ := hnamed.exists_readName hend
    rw [liftReferences, if_pos ht, hname, ih, ← hlast]
    rfl

/-! ### Elements -/

/-- The tokens of an element that are searched for references: all of a table-level element, and of
a column those that are left without its name, its type with the arguments, and the clauses for its
encoding. -/
inductive Element.Searched : Element → (ts searched : List Token) → Prop where
  | constraint {c : Constraint} {ts : List Token} : Searched (.constraint c) ts ts
  | column {c : Column} {front rest : List Token} {kept : List (Token × Bool)}
    (htyped : c.IsTyped front rest)
    (hkept : Rewritten id encodingRule (marked Token.change 0 rest) kept) :
    Searched (.column c) (front ++ rest) (kept.map Prod.fst)

section Elements

variable {e : Element} {ts searched searched' : List Token}

theorem Element.Searched.unique (h : e.Searched ts searched) (h' : e.Searched ts searched') :
    searched = searched' := by
  cases h with
  | constraint => cases h'; rfl
  | @column c front rest kept htyped hkept =>
    generalize hrow : front ++ rest = row at h'
    cases h' with
    | column htyped' hkept' =>
      obtain ⟨rfl, rfl⟩ := htyped.eq_of_append_eq htyped' hrow
      rw [hkept.unique hkept']

theorem exists_searched_of_readElement (h : readElement ts = .ok e) :
    ∃ searched, e.Searched ts searched ∧ Mentions searched (tableNames e.parts) := by
  cases e with
  | constraint c =>
    have hparts : c.parts = liftReferences ts := by
      cases ts with
      | nil => cases h
      | cons t ts =>
        rw [readElement] at h
        split at h
        · cases h; rfl
        · cases hcolumn : readColumn t ts <;> rw [hcolumn] at h <;> cases h
    refine ⟨ts, .constraint, ?_⟩
    rw [Element.parts, hparts]
    exact mentions_liftReferences ts
  | column c =>
    obtain ⟨front, rest, rfl, htyped, hoptions⟩ := exists_tokens_of_readElement h
    obtain ⟨kept, hkept, hleft⟩ :=
      exists_rewritten_extractEncoding {} (marked Token.change 0 rest)
    rw [map_fst_marked] at hleft
    refine ⟨kept.map Prod.fst, .column htyped hkept, ?_⟩
    rw [Element.parts, hoptions, hleft]
    exact mentions_liftReferences _

end Elements

/-! ### Tables -/

/-- The names of the tables that the elements of a table mention in a statement, from left to
right. -/
def Table.MentionsIn (t : Table) (sql : Text) (names : List Text) : Prop :=
  ∃ parts : List (List Text), names = parts.flatten ∧
    List.Forall₂ (fun e ns => ∃ ts searched,
      t.ElementAt sql e.2 ts ∧ e.1.Searched ts searched ∧ Mentions searched ns)
      (t.elements.getD []).zipIdx parts

theorem Table.MentionsIn.unique {t : Table} {sql : Text} {names names' : List Text}
    (h : t.MentionsIn sql names) (h' : t.MentionsIn sql names') : names = names' := by
  obtain ⟨parts, rfl, hparts⟩ := h
  obtain ⟨parts', rfl, hparts'⟩ := h'
  congr 1
  refine List.right_unique_forall₂' ?_ hparts hparts'
  rintro e ns ns' ⟨ts, searched, hat, hsearched, hns⟩ ⟨ts', searched', hat', hsearched', hns'⟩
  obtain rfl := hat.unique hat'
  obtain rfl := hsearched.unique hsearched'
  rw [hns.eq_tableNames, hns'.eq_tableNames]

theorem mentionsIn_references {sql : Text} {t : Table} (h : readTable sql = .ok t) :
    t.MentionsIn sql (t.references.map (·.name)) := by
  refine ⟨(t.elements.getD []).map fun e => tableNames e.parts, ?_, ?_⟩
  · rw [Table.references, List.map_flatMap, List.flatMap_def]
    rfl
  · rw [List.forall₂_iff_get]
    refine ⟨by simp, fun i hi _ => ?_⟩
    have hi' : i < (t.elements.getD []).length := by simpa using hi
    obtain ⟨ts, hat, hread⟩ := exists_elementAt h (List.getElem?_eq_getElem hi')
    obtain ⟨searched, hsearched, hns⟩ := exists_searched_of_readElement hread
    exact ⟨ts, searched, by simpa using hat, by simpa using hsearched, by simpa using hns⟩

theorem pairwise_idxOf_firstOccurrences (ns : List Text) :
    (firstOccurrences ns).Pairwise fun m n => ns.idxOf m < ns.idxOf n := by
  induction ns with
  | nil => exact .nil
  | cons n ns ih =>
    have hstep {m : Text} (hm : m ∈ (firstOccurrences ns).filter (· != n)) :
        (n :: ns).idxOf m = ns.idxOf m + 1 :=
      List.idxOf_cons_ne ns (bne_iff_ne.mp (List.mem_filter.mp hm).2).symm
    refine List.pairwise_cons.mpr ⟨fun m hm => ?_, ?_⟩
    · rw [List.idxOf_cons_self, hstep hm]
      exact Nat.succ_pos _
    · refine (ih.filter _).imp_of_mem fun hm hm' hlt => ?_
      rw [hstep hm, hstep hm']
      exact Nat.succ_lt_succ hlt

/-- The elements of a statement mention tables in one way. The table depends on those and on no
others, on each once, in the order in which they are first mentioned. -/
theorem dependencies_mentionsIn {sql : Text} {t : Table} (h : readTable sql = .ok t) :
    (∃! names, t.MentionsIn sql names) ∧ ∀ names, t.MentionsIn sql names →
      (∀ n, n ∈ t.dependencies ↔ n ∈ names) ∧
        t.dependencies.Pairwise fun m n => names.idxOf m < names.idxOf n := by
  have hmentions := mentionsIn_references h
  refine ⟨⟨_, hmentions, fun names hnames => hnames.unique hmentions⟩, fun names hnames => ?_⟩
  obtain rfl := hnames.unique hmentions
  exact ⟨fun n => mem_firstOccurrences, pairwise_idxOf_firstOccurrences _⟩

theorem exists_of_map_readTable {α : Type} {f : Table → α} {a : α} {sql : Text}
    (h : (readTable sql).toOption.map f = some a) : ∃ t, readTable sql = .ok t ∧ f t = a := by
  cases hread : readTable sql with
  | error e => rw [hread] at h; cases h
  | ok t =>
    rw [hread] at h
    exact ⟨t, rfl, Option.some.inj h⟩

/-- A statement that references a table twice, another one in between, and has the word in a
check. -/
def ordered : Text :=
  "CREATE TABLE t (a INT REFERENCES s.\"p\"\"q\" COLLATE c, CHECK (REFERENCES > 1),
    FOREIGN KEY (a) REFERENCES `r`, FOREIGN KEY (a) REFERENCES `p\"q`)"

theorem dependencies_ordered : ∃ t names, readTable ordered = .ok t ∧
    t.dependencies = ["p\"q".toList, "r".toList] ∧ t.MentionsIn ordered names ∧
      (∀ n, n ∈ t.dependencies ↔ n ∈ names) ∧
        t.dependencies.Pairwise fun m n => names.idxOf m < names.idxOf n := by
  have hsome : (readTable ordered).toOption.map Table.dependencies =
      some ["p\"q".toList, "r".toList] := by decide +kernel
  obtain ⟨t, hread, htables⟩ := exists_of_map_readTable hsome
  obtain ⟨⟨names, hnames, -⟩, hdependencies⟩ := dependencies_mentionsIn hread
  exact ⟨t, names, hread, htables, hnames, hdependencies names hnames⟩

end SchemaMill.Sql
