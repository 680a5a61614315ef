import Mathlib
import SchemaMill.Schema.Target
import SchemaMill.Sql.Reader

/-!
# The form of a table that was read

Whatever statement is read, the words up to the table name are words of a `CREATE TABLE`, there is
an element if there are parentheses, each constraint begins with a word for one, and a table name
stands behind each `REFERENCES` that a name follows (`wellFormed_of_readTable`). Moving the table to
a target keeps this form (`Table.WellFormed.move`).
-/

namespace SchemaMill.Sql

/-! ### Clauses with names -/

/-- Whether parts of a clause begin with something that can name a table. -/
def beginsName : List Part → Bool
  | [] => false
  | .token t :: _ => t.isIdentifier
  | .name _ :: _ => true

/-- Whether a name in front of the parts would go on in them. -/
def continuesName : List Part → Bool
  | .token t :: ps => t.isSign '.' && beginsName ps
  | _ => false

/-- The parts of a clause in which a name stands behind each `REFERENCES` that one follows, and
nowhere else. -/
inductive Lifted : List Part → Prop where
  | nil : Lifted []
  /-- A token that is no `REFERENCES`. -/
  | token {t : Token} {ps : List Part} (h : t.isWord "REFERENCES" = false) (hps : Lifted ps) :
    Lifted (.token t :: ps)
  /-- A `REFERENCES` with the name behind it. -/
  | named {t : Token} {q : QualifiedName} {ps : List Part} (h : t.isWord "REFERENCES")
    (hnext : continuesName ps = false) (hps : Lifted ps) : Lifted (.token t :: .name q :: ps)
  /-- A `REFERENCES` without a name behind it. -/
  | bare {t : Token} {ps : List Part} (h : t.isWord "REFERENCES") (hnext : beginsName ps = false)
    (hps : Lifted ps) : Lifted (.token t :: ps)

/-- What makes up the first part makes up the first token. -/
theorem exists_liftReferences (t : Token) (ts : List Token) :
    ∃ ps, liftReferences (t :: ts) = .token t :: ps ∧
      (t.isWord "REFERENCES" = false → ps = liftReferences ts) := by
  rw [liftReferences]
  split
  · next h =>
    split
    · exact ⟨_, rfl, fun h' => by simp [h] at h'⟩
    · exact ⟨_, rfl, fun _ => rfl⟩
  · exact ⟨_, rfl, fun _ => rfl⟩

theorem beginsName_liftReferences (ts : List Token) :
    beginsName (liftReferences ts) = ts.head?.any (·.isIdentifier) := by
  cases ts with
  | nil => simp [liftReferences, beginsName]
  | cons t ts =>
    obtain ⟨ps, hps, -⟩ := exists_liftReferences t ts
    simp [hps, beginsName]

theorem isWord_references_of_isSign {t : Token} (h : t.isSign '.') :
    t.isWord "REFERENCES" = false := by
  have hvalue : t.value = ['.'] := by simpa [Token.isSign] using h
  rw [Token.isWord, Token.word, hvalue]
  split <;> decide

theorem continuesName_liftReferences (t : Token) (ts : List Token) :
    continuesName (liftReferences (t :: ts)) = (t.isSign '.' && ts.head?.any (·.isIdentifier)) := by
  obtain ⟨ps, hps, hrest⟩ := exists_liftReferences t ts
  rw [hps, continuesName]
  by_cases hdot : t.isSign '.'
  · rw [hrest (isWord_references_of_isSign hdot), beginsName_liftReferences]
  · simp [hdot]

theorem continuesName_readDotted (ts : List Token) :
    continuesName (liftReferences (readDotted ts).2) = false := by
  fun_induction readDotted ts with
  | case1 dot t rest h ih => exact ih
  | case2 dot t rest h => simpa [continuesName_liftReferences] using h
  | case3 ts h =>
    rcases ts with _ | ⟨dot, _ | ⟨t, rest⟩⟩
    · simp [liftReferences, continuesName]
    · simp [continuesName_liftReferences]
    · exact absurd rfl (h dot t rest)

theorem continuesName_readName {ts after : List Token} {q : QualifiedName}
    (h : readName ts = some (q, after)) : continuesName (liftReferences after) = false := by
  cases ts with
  | nil => cases h
  | cons t ts =>
    rw [readName] at h
    split at h
    · cases h
      exact continuesName_readDotted ts
    · cases h

theorem beginsName_readName {ts : List Token} (h : readName ts = none) :
    beginsName (liftReferences ts) = false := by
  rw [beginsName_liftReferences]
  cases ts with
  | nil => rfl
  | cons t ts =>
    rw [readName] at h
    split at h
    · cases h
    · next ht => simpa using ht

theorem lifted_liftReferences (ts : List Token) : Lifted (liftReferences ts) := by
  fun_induction liftReferences ts with
  | case1 => exact .nil
  | case2 t rest h q after hname ih =>
    exact .named h (continuesName_readName hname) ih
  | case3 t rest h hname ih =>
    exact .bare h (beginsName_readName hname) ih
  | case4 t rest h ih => exact .token (by simpa using h) ih

/-! ### Tables -/

/-- Whether a word begins a table-level element. -/
def beginsConstraint (w : Text) : Bool := w == "CONSTRAINT".toList || constraintWords.contains w

/-- The form of an element that was read. -/
def Element.WellFormed : Element → Prop
  | column c => Lifted c.options
  | constraint c => Lifted c.parts ∧ ∃ t ps, c.parts = .token t :: ps ∧ beginsConstraint t.word

/-- The form of a table that was read. -/
structure Table.WellFormed (t : Table) : Prop where
  create : t.head.head?.any (·.isWord "CREATE")
  table : t.head.any (·.isWord "TABLE")
  /-- All words are such as may stand before the table name. -/
  words : t.head.all fun u => headWords.contains u.word
  nonempty : t.elements ≠ some []
  elements : ∀ es ∈ t.elements, ∀ e ∈ es, e.WellFormed

theorem lifted_of_readColumn {name : Token} {ts : List Token} {c : Column}
    (h : readColumn name ts = .ok c) : Lifted c.options := by
  cases ts with
  | nil => cases h
  | cons type ts =>
    cases ts with
    | nil => cases h; exact lifted_liftReferences _
    | cons t ts =>
      simp only [readColumn] at h
      split at h
      · split at h <;> cases h
        exact lifted_liftReferences _
      · cases h
        exact lifted_liftReferences _

theorem wellFormed_of_readElement {ts : List Token} {e : Element} (h : readElement ts = .ok e) :
    e.WellFormed := by
  cases ts with
  | nil => cases h
  | cons t ts =>
    rw [readElement] at h
    split at h
    · next hword =>
      cases h
      obtain ⟨ps, hps, -⟩ := exists_liftReferences t ts
      exact ⟨lifted_liftReferences _, t, ps, hps, hword⟩
    · cases hc : readColumn t ts with
      | error e => rw [hc] at h; cases h
      | ok c =>
        rw [hc] at h
        cases h
        exact lifted_of_readColumn hc

theorem wellFormed_of_mapM {chunks : List (List Token)} {es : List Element}
    (h : chunks.mapM readElement = .ok es) :
    es.length = chunks.length ∧ ∀ e ∈ es, e.WellFormed := by
  induction chunks generalizing es with
  | nil => cases h; simp
  | cons chunk chunks ih =>
    rw [List.mapM_cons] at h
    cases he : readElement chunk with
    | error e => rw [he] at h; cases h
    | ok e =>
      cases hes : chunks.mapM readElement with
      | error e => rw [he, hes] at h; cases h
      | ok es =>
        rw [he, hes] at h
        cases h
        obtain ⟨hlength, hall⟩ := ih hes
        exact ⟨congrArg _ hlength, List.forall_mem_cons.mpr ⟨wellFormed_of_readElement he, hall⟩⟩

/-- What follows the table name in a statement that is read. -/
theorem readBody_eq_ok {head : List Token} {name : QualifiedName} {ts : List Token} {t : Table}
    (h : readBody head name ts = .ok t) : t.head = head ∧ (t.elements = none ∨
      ∃ chunks es, chunks ≠ [] ∧ chunks.mapM readElement = .ok es ∧ t.elements = some es) := by
  cases ts with
  | nil => cases h; exact ⟨rfl, .inl rfl⟩
  | cons u us =>
    simp only [readBody] at h
    split at h
    · split at h
      · cases h
      · split at h
        · cases h
        · next body _ _ _ hne =>
          cases hes : (splitElements body).mapM readElement with
          | error e => rw [hes] at h; cases h
          | ok es =>
            rw [hes] at h
            simp only [bind, Except.bind] at h
            split at h <;> cases h
            exact ⟨rfl, .inr ⟨_, es, hne, hes, rfl⟩⟩
    · split at h <;> cases h
      exact ⟨rfl, .inl rfl⟩

theorem wellFormed_of_readTokens {ts : List Token} {t : Table} (h : readTokens ts = .ok t) :
    t.WellFormed := by
  simp only [readTokens] at h
  generalize dropTerminators ts = us at h
  split at h
  · cases h
  · next hcreate =>
    split at h
    · cases h
    · next htable =>
      split at h
      · cases h
      · obtain ⟨hhead, helements⟩ := readBody_eq_ok h
        refine ⟨?_, ?_, ?_, ?_, ?_⟩
        · rw [hhead]
          cases us with
          | nil => simp at hcreate
          | cons u us =>
            have hu : u.isWord "CREATE" := by simpa using hcreate
            have hword : headWords.contains u.word := by
              rw [beq_iff_eq.mp hu]
              decide
            rw [List.takeWhile_cons, if_pos hword]
            exact hu
        · rw [hhead]
          simpa using htable
        · rw [hhead]
          exact List.all_takeWhile
        · rcases helements with helements | ⟨chunks, es, hne, hes, helements⟩
          · simp [helements]
          · have hlength := (wellFormed_of_mapM hes).1
            rw [helements]
            rintro ⟨⟩
            exact hne (List.eq_nil_of_length_eq_zero hlength.symm)
        · rcases helements with helements | ⟨chunks, es, hne, hes, helements⟩
          · simp [helements]
          · rw [helements]
            rintro _ ⟨⟩
            exact (wellFormed_of_mapM hes).2

/-- A table that was read has the form of one. -/
theorem wellFormed_of_readTable {sql : Text} {t : Table} (h : readTable sql = .ok t) :
    t.WellFormed := by
  rw [readTable] at h
  split at h
  · cases h
  · exact wellFormed_of_readTokens h

/-! ### Moving -/

theorem Lifted.mapName {f : Text → Text} {ps : List Part} (h : Lifted ps) :
    Lifted (ps.map (Part.mapName f)) := by
  have hbegins : ∀ ps : List Part, beginsName (ps.map (Part.mapName f)) = beginsName ps := by
    rintro (- | ⟨t | q, ps⟩) <;> rfl
  have hcontinues : ∀ ps : List Part,
      continuesName (ps.map (Part.mapName f)) = continuesName ps := by
    rintro (- | ⟨t | q, ps⟩)
    · rfl
    · simp only [List.map_cons, Part.mapName, continuesName, hbegins]
    · rfl
  induction h with
  | nil => exact .nil
  | token h _ ih => exact .token h ih
  | named h hnext _ ih => exact .named h (by rwa [hcontinues]) ih
  | bare h hnext _ ih => exact .bare h (by rwa [hbegins]) ih

theorem Element.WellFormed.move {e : Element} (h : e.WellFormed) (o : Schema.Target) :
    (o.moveElement e).WellFormed := by
  cases e with
  | column c => exact Lifted.mapName h
  | constraint c =>
    obtain ⟨hlifted, t, ps, hparts, hword⟩ := h
    exact ⟨hlifted.mapName, t, ps.map (Part.mapName (Schema.Target.bareName o.strip)),
      by rw [hparts]; rfl, hword⟩

/-- A table keeps its form when it is moved to a target. -/
theorem Table.WellFormed.move {t : Table} (h : t.WellFormed) (o : Schema.Target) :
    (o.move t).WellFormed := by
  refine ⟨h.create, h.table, h.words, ?_, ?_⟩
  · cases helements : t.elements with
    | none => simp [Schema.Target.move, helements]
    | some es =>
      have hne : es ≠ [] := by rintro rfl; exact h.nonempty helements
      simpa [Schema.Target.move, helements] using hne
  · intro es hes e he
    obtain ⟨es', hes', rfl⟩ := Option.map_eq_some_iff.mp hes
    obtain ⟨e', he', rfl⟩ := List.mem_map.mp he
    exact (h.elements es' hes' e' he').move o

end SchemaMill.Sql
