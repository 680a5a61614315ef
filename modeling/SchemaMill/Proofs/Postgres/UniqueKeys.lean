import Mathlib.Data.List.Chain
import SchemaMill.Sql.Postgres
import SchemaMill.Proofs.Nesting.Depth

/-!
# Unique keys

A unique key may have a symbol, a name, and a type in front of its parts or behind them
(`UniqueKey`). The name and the types are dropped, and all else stays, if and only if no type stands
in front of the parts without a name, where the word `USING` is taken for the name, and nothing is
dropped among the parts (`constraint_uniqueKey_iff`).
-/

namespace SchemaMill.Sql.Postgres

/-! ### Parts that stay -/

/-- Two neighbours that stay both: no index type, and nothing but a parenthesis behind `UNIQUE`. -/
def StayBeside (p q : Part) : Prop :=
  startsIndexType [p, q] = false ∧ (p.isWord "UNIQUE" → q.isSign '(')

theorem length_constraintParts_le (ps : List Part) : (constraintParts ps).length ≤ ps.length := by
  fun_induction constraintParts ps with
  | case1 => exact Nat.le_refl _
  | case2 p rest _ ih =>
    have := (List.tail_sublist rest).length_le
    simp only [List.length_cons]
    omega
  | case3 p rest _ _ ih =>
    have := length_afterUnique_le rest
    simp only [List.length_cons]
    omega
  | case4 p rest _ _ ih =>
    simp only [List.length_cons]
    omega

theorem dropIndexWord_of_not {p : Part} {ps : List Part} (hkey : ¬p.isWord "KEY")
    (hindex : ¬p.isWord "INDEX") : dropIndexWord (p :: ps) = p :: ps := by
  rw [dropIndexWord, if_neg]
  rw [Bool.or_eq_true, not_or]
  exact ⟨hkey, hindex⟩

theorem dropIndexWord_of_isSign {p : Part} (h : p.isSign '(') (ps : List Part) :
    dropIndexWord (p :: ps) = p :: ps :=
  dropIndexWord_of_not (Part.not_isWord_of_isSign (Or.inl h) (by decide))
    (Part.not_isWord_of_isSign (Or.inl h) (by decide))

theorem afterUnique_of_isSign {p : Part} (h : p.isSign '(') (ps : List Part) :
    afterUnique (p :: ps) = p :: ps := by
  rw [afterUnique, dropIndexWord_of_isSign h, dropIndexName, if_pos h]

theorem length_afterUnique_lt {p : Part} (h : ¬p.isSign '(') (ps : List Part) :
    (afterUnique (p :: ps)).length < (p :: ps).length := by
  have hname := (dropIndexName_suffix ps).length_le
  rw [afterUnique, dropIndexWord]
  split_ifs
  · exact Nat.lt_succ_of_le hname
  · rw [dropIndexName, if_neg h]
    exact Nat.lt_succ_self _

/-- All parts stay if and only if all neighbours do. -/
theorem constraintParts_eq_self_iff (ps : List Part) :
    constraintParts ps = ps ↔ ps.IsChain StayBeside := by
  fun_induction constraintParts ps with
  | case1 => simp
  | case2 p rest hstarts ih =>
    rcases rest with _ | ⟨q, rest⟩
    · cases hstarts
    have hpair : startsIndexType [p, q] = true := hstarts
    refine iff_of_false (fun heq => ?_) fun hchain => ?_
    · have hlength := length_constraintParts_le rest
      have hlength' := congrArg List.length heq
      simp only [List.tail_cons, List.length_cons] at hlength'
      omega
    · rw [(List.isChain_cons_cons.mp hchain).1.1] at hpair
      cases hpair
  | case3 p rest hstarts hunique ih =>
    rw [List.cons.injEq, and_iff_right rfl]
    rcases rest with _ | ⟨q, rest⟩
    · simp [afterUnique, dropIndexWord, dropIndexName, constraintParts]
    rw [List.isChain_cons_cons]
    by_cases hq : q.isSign '('
    · have hbeside : StayBeside p q := ⟨Bool.eq_false_iff.mpr hstarts, fun _ => hq⟩
      rw [afterUnique_of_isSign hq] at ih ⊢
      rw [ih, and_iff_right hbeside]
    · refine iff_of_false (fun heq => ?_) fun hchain => hq (hchain.1.2 hunique)
      have hlength := length_constraintParts_le (afterUnique (q :: rest))
      rw [heq] at hlength
      exact Nat.not_lt.mpr hlength (length_afterUnique_lt hq rest)
  | case4 p rest hstarts hunique ih =>
    rw [List.cons.injEq, and_iff_right rfl, ih]
    rcases rest with _ | ⟨q, rest⟩
    · simp
    have hbeside : StayBeside p q :=
      ⟨Bool.eq_false_iff.mpr hstarts, fun hword => absurd hword hunique⟩
    rw [List.isChain_cons_cons, and_iff_right hbeside]

theorem constraintParts_append {front : List Part}
    (h : ∀ p ∈ front, ¬p.isWord "USING" ∧ ¬p.isWord "UNIQUE") (ps : List Part) :
    constraintParts (front ++ ps) = front ++ constraintParts ps := by
  induction front with
  | nil => rfl
  | cons p front ih =>
    obtain ⟨⟨husing, hunique⟩, hfront⟩ := List.forall_mem_cons.mp h
    have hstarts : ¬startsIndexType (p :: (front ++ ps)) := fun hstarts => by
      cases hrest : front ++ ps with
      | nil => rw [hrest] at hstarts; cases hstarts
      | cons q rest =>
        rw [hrest, startsIndexType, Bool.and_eq_true] at hstarts
        exact husing hstarts.1
    rw [List.cons_append, constraintParts, if_neg hstarts, if_neg hunique, ih hfront,
      List.cons_append]

/-! ### The parenthesis behind the parts of a key -/

section Closing

variable {closing : Part} (hclose : closing.isSign ')')
include hclose

theorem not_isWord_of_closing {w : String} (hw : w.toList ∉ bareWords) : ¬closing.isWord w :=
  Part.not_isWord_of_isSign (Or.inr hclose) hw

theorem not_isSign_of_closing : ¬closing.isSign '(' := by
  cases closing with
  | name q => cases hclose
  | token t =>
    have hvalue : t.value = [')'] := beq_iff_eq.mp hclose
    simp [Part.isSign, Token.isSign, hvalue]

theorem dropIndexName_append (ps : List Part) :
    (∃ ps', ps'.length ≤ ps.length ∧
      ∀ after, dropIndexName (ps ++ closing :: after) = ps' ++ closing :: after) ∨
      ∀ after, dropIndexName (ps ++ closing :: after) = after := by
  cases ps with
  | nil =>
    refine Or.inr fun after => ?_
    rw [List.nil_append, dropIndexName, if_neg (not_isSign_of_closing hclose)]
  | cons p ps =>
    refine Or.inl ?_
    by_cases hp : p.isSign '('
    · refine ⟨p :: ps, Nat.le_refl _, fun after => ?_⟩
      rw [List.cons_append, dropIndexName, if_pos hp]
    · refine ⟨ps, Nat.le_succ _, fun after => ?_⟩
      rw [List.cons_append, dropIndexName, if_neg hp]

/-- Nothing behind the parenthesis is taken for the name of an index. -/
theorem afterUnique_append (ps : List Part) :
    (∃ ps', ps'.length ≤ ps.length ∧
      ∀ after, afterUnique (ps ++ closing :: after) = ps' ++ closing :: after) ∨
      ∀ after, afterUnique (ps ++ closing :: after) = after := by
  cases ps with
  | nil =>
    refine Or.inr fun after => ?_
    rw [List.nil_append, afterUnique, dropIndexWord_of_not
      (not_isWord_of_closing hclose (by decide)) (not_isWord_of_closing hclose (by decide)),
      dropIndexName, if_neg (not_isSign_of_closing hclose)]
  | cons p ps =>
    simp only [List.cons_append, afterUnique, dropIndexWord]
    split_ifs
    · obtain ⟨ps', hlength, heq⟩ | heq := dropIndexName_append hclose ps
      · exact Or.inl ⟨ps', Nat.le_succ_of_le hlength, heq⟩
      · exact Or.inr heq
    · exact dropIndexName_append hclose (p :: ps)

theorem constraintParts_append_closing {after : List Part} (hafter : constraintParts after = [])
    (ps : List Part) :
    constraintParts (ps ++ closing :: after) = constraintParts (ps ++ [closing]) := by
  match ps with
  | [] =>
    have hplain : ∀ p ∈ [closing], ¬p.isWord "USING" ∧ ¬p.isWord "UNIQUE" :=
      List.forall_mem_singleton.mpr
        ⟨not_isWord_of_closing hclose (by decide), not_isWord_of_closing hclose (by decide)⟩
    have hkept : ∀ us, constraintParts (closing :: us) = closing :: constraintParts us :=
      constraintParts_append hplain
    rw [List.nil_append, List.nil_append, hkept, hkept, hafter, constraintParts]
  | p :: rest =>
    have hsame : startsIndexType (p :: (rest ++ closing :: after)) =
        startsIndexType (p :: (rest ++ [closing])) := by
      cases rest <;> rfl
    rw [List.cons_append, List.cons_append, constraintParts, constraintParts, hsame]
    split_ifs with hstarts hunique
    · cases rest with
      | nil =>
        simp only [List.nil_append, startsIndexType, Bool.and_eq_true, Bool.or_eq_true] at hstarts
        rcases hstarts.2 with htype | htype
        all_goals exact absurd htype (not_isWord_of_closing hclose (by decide))
      | cons q rest => exact constraintParts_append_closing hafter rest
    · obtain ⟨ps', hlength, heq⟩ | heq := afterUnique_append hclose rest
      · rw [heq, heq, constraintParts_append_closing hafter ps']
      · rw [heq, heq, hafter, constraintParts]
    · rw [constraintParts_append_closing hafter rest]
termination_by ps.length

end Closing

/-! ### Unique keys -/

/-- The choice of a type of index. -/
structure IndexType where
  /-- The word `USING`. -/
  key : Token
  type : Token
  isKey : key.isWord "USING"
  isType : type.isWord "BTREE" || type.isWord "HASH"

/-- The words of keys, which name nothing unless they are quoted. -/
def keyWords : List Text := ["CONSTRAINT".toList, "USING".toList] ++ constraintWords

/-- A name in a key: neither a word of keys nor a parenthesis. -/
structure KeyName where
  token : Token
  isFree : ¬token.isSign '(' ∧ token.word ∉ keyWords

/-- What stands in front of a key that has a symbol, or that might have one. -/
structure Naming where
  /-- The word `CONSTRAINT`. -/
  key : Token
  symbol : Option KeyName
  isKey : key.isWord "CONSTRAINT"

/-- A unique key among the elements of a table. -/
structure UniqueKey where
  /-- The symbol with its keyword. -/
  naming : Option Naming
  /-- The word `UNIQUE`. -/
  unique : Token
  /-- The word `KEY` or `INDEX`. -/
  index : Option Token
  name : Option KeyName
  /-- The type of the index, in front of its parts. -/
  typeBefore : Option IndexType
  /-- The parenthesis that opens the parts. -/
  opening : Token
  /-- What the key is made of. -/
  keyParts : List Part
  /-- The parenthesis that closes the parts. -/
  closing : Token
  /-- The type of the index, behind its parts. -/
  typeAfter : Option IndexType
  isUnique : unique.isWord "UNIQUE"
  isIndex : ∀ t ∈ index, t.isWord "KEY" || t.isWord "INDEX"
  isOpening : opening.isSign '('
  isClosing : closing.isSign ')'

/-- The parts of the choice of a type, if one is chosen. -/
def IndexType.parts (t : Option IndexType) : List Part :=
  t.elim [] fun t => [.token t.key, .token t.type]

/-- The part of a name, if there is one. -/
def KeyName.parts (n : Option KeyName) : List Part := (n.map fun n => Part.token n.token).toList

/-- The parts in front of a key. -/
def Naming.parts (n : Option Naming) : List Part :=
  n.elim [] fun n => .token n.key :: KeyName.parts n.symbol

namespace UniqueKey

/-- The parts of a unique key. -/
def parts (k : UniqueKey) : List Part :=
  Naming.parts k.naming ++ .token k.unique :: ((k.index.map Part.token).toList ++
    (KeyName.parts k.name ++ (IndexType.parts k.typeBefore ++
      .token k.opening :: (k.keyParts ++ .token k.closing :: IndexType.parts k.typeAfter))))

/-- The parts of a unique key without the name and the type of an index. -/
def bareParts (k : UniqueKey) : List Part :=
  Naming.parts k.naming ++ .token k.unique :: .token k.opening ::
    (k.keyParts ++ [.token k.closing])

/-- The type in front of the parts, without its keyword if no name stands in front of it. -/
def typeBehindName (k : UniqueKey) : List Part :=
  if k.name = none then (IndexType.parts k.typeBefore).tail else IndexType.parts k.typeBefore

/-- What is left of the type of an index. -/
def typeLeft (k : UniqueKey) : List Part :=
  match k.name, k.typeBefore with
  | none, some t => [.token t.type]
  | _, _ => []

end UniqueKey

theorem IndexType.word_type (t : IndexType) : t.type.word ∉ bareWords ∧
    t.type.word ≠ "USING".toList ∧ t.type.word ≠ "UNIQUE".toList := by
  have htype := t.isType
  rw [Bool.or_eq_true] at htype
  rcases htype with htype | htype <;> rw [beq_iff_eq.mp htype] <;> decide

theorem constraintParts_indexType (t : Option IndexType) (ps : List Part) :
    constraintParts (IndexType.parts t ++ ps) = constraintParts ps := by
  cases t with
  | none => rfl
  | some t =>
    have hstarts : startsIndexType (.token t.key :: .token t.type :: ps) := by
      rw [startsIndexType, Bool.and_eq_true]
      exact ⟨t.isKey, t.isType⟩
    simp only [IndexType.parts, Option.elim_some, List.cons_append, List.nil_append]
    rw [constraintParts, if_pos hstarts, List.tail_cons]

theorem KeyName.word_ne (n : KeyName) {w : String} (h : w.toList ∈ keyWords) :
    ¬n.token.isWord w := fun hword => n.isFree.2 (beq_iff_eq.mp hword ▸ h)

theorem constraintParts_naming (n : Option Naming) (ps : List Part) :
    constraintParts (Naming.parts n ++ ps) = Naming.parts n ++ constraintParts ps := by
  refine constraintParts_append (fun p hp => ?_) ps
  cases n with
  | none => cases hp
  | some n =>
    have hkey : ∀ {w : String}, w.toList ≠ "CONSTRAINT".toList → ¬n.key.isWord w := fun hw hword =>
      hw ((beq_iff_eq.mp hword).symm.trans (beq_iff_eq.mp n.isKey))
    rw [Naming.parts, Option.elim_some, List.mem_cons] at hp
    rcases hp with rfl | hp
    · exact ⟨hkey (by decide), hkey (by decide)⟩
    · obtain ⟨s, -, rfl⟩ : ∃ s, n.symbol = some s ∧ Part.token s.token = p := by
        simpa [KeyName.parts] using hp
      exact ⟨s.word_ne (by decide), s.word_ne (by decide)⟩

theorem dropIndexWord_uniqueKey (k : UniqueKey) (ps : List Part) :
    dropIndexWord ((k.index.map Part.token).toList ++ (KeyName.parts k.name ++
      (IndexType.parts k.typeBefore ++ .token k.opening :: ps))) =
    KeyName.parts k.name ++ (IndexType.parts k.typeBefore ++ .token k.opening :: ps) := by
  cases hi : k.index with
  | some t =>
    have ht : (Part.token t).isWord "KEY" || (Part.token t).isWord "INDEX" := k.isIndex t hi
    rw [Option.map_some, Option.toList_some, List.singleton_append, dropIndexWord, if_pos ht]
  | none =>
    rw [Option.map_none, Option.toList_none, List.nil_append]
    cases k.name with
    | some n => exact dropIndexWord_of_not (n.word_ne (by decide)) (n.word_ne (by decide))
    | none =>
      cases k.typeBefore with
      | none =>
        have hopen : (Part.token k.opening).isSign '(' := k.isOpening
        exact dropIndexWord_of_isSign hopen ps
      | some t =>
        have hkey : t.key.word = "USING".toList := beq_iff_eq.mp t.isKey
        refine dropIndexWord_of_not ?_ ?_ <;> rw [Part.isWord, Part.word, hkey] <;> decide

/-- Behind `UNIQUE` the name of the index is dropped, or without one the keyword of its type. -/
theorem afterUnique_uniqueKey (k : UniqueKey) (ps : List Part) :
    afterUnique ((k.index.map Part.token).toList ++ (KeyName.parts k.name ++
      (IndexType.parts k.typeBefore ++ .token k.opening :: ps))) =
    k.typeBehindName ++ .token k.opening :: ps := by
  rw [afterUnique, dropIndexWord_uniqueKey, UniqueKey.typeBehindName]
  cases k.name with
  | some n =>
    have hn : ¬(Part.token n.token).isSign '(' := n.isFree.1
    rw [KeyName.parts, Option.map_some, Option.toList_some, List.singleton_append, dropIndexName,
      if_neg hn, if_neg (Option.some_ne_none n)]
  | none =>
    rw [KeyName.parts, Option.map_none, Option.toList_none, List.nil_append, if_pos rfl]
    cases k.typeBefore with
    | none =>
      have hopen : (Part.token k.opening).isSign '(' := k.isOpening
      rw [IndexType.parts, Option.elim_none, List.nil_append, dropIndexName, if_pos hopen]
      rfl
    | some t =>
      have hword : (Part.token t.key).isWord "USING" := t.isKey
      have hkey : ¬(Part.token t.key).isSign '(' :=
        Bool.eq_false_iff.mp (Part.isSign_of_isWord (by decide) hword).1
      rw [IndexType.parts, Option.elim_some, List.cons_append, dropIndexName, if_neg hkey]
      rfl

/-- A symbol is not taken for the kind of a key. -/
theorem kind_naming (n : Option Naming) {t : Token} (ht : constraintWords.contains t.word)
    (ps : List Part) : Constraint.kind ⟨Naming.parts n ++ .token t :: ps⟩ = t.word := by
  have hword : ¬t.word == "CONSTRAINT".toList := fun heq => by
    rw [beq_iff_eq.mp heq] at ht
    exact absurd ht (by decide)
  rcases n with _ | ⟨key, symbol, hkey⟩
  · rw [Naming.parts, Option.elim_none, List.nil_append, Constraint.kind]
    simp only [List.filterMap_cons]
    rw [Constraint.wordsAfterSymbol.eq_def]
    simp only [if_neg hword]
    rfl
  · have hkey' : key.word == "CONSTRAINT".toList := hkey
    rw [Naming.parts, Option.elim_some, Constraint.kind]
    cases symbol with
    | none =>
      simp only [KeyName.parts, Option.map_none, Option.toList_none, List.cons_append,
        List.nil_append, List.filterMap_cons]
      rw [Constraint.wordsAfterSymbol, if_pos hkey']
      simp only [if_pos ht]
      rfl
    | some s =>
      have hs : ¬constraintWords.contains s.token.word := fun hmem =>
        s.isFree.2 (List.mem_append_right _ (List.contains_iff_mem.mp hmem))
      simp only [KeyName.parts, Option.map_some, Option.toList_some, List.cons_append,
        List.nil_append, List.filterMap_cons]
      rw [Constraint.wordsAfterSymbol, if_pos hkey']
      simp only [if_neg hs]
      rfl

theorem constraintParts_typeBehindName (k : UniqueKey) (ps : List Part) :
    constraintParts (k.typeBehindName ++ .token k.opening :: ps) =
      k.typeLeft ++ .token k.opening :: constraintParts ps := by
  have hopening : ∀ {ps}, constraintParts (.token k.opening :: ps) =
      .token k.opening :: constraintParts ps := by
    intro ps
    have hopen : (Part.token k.opening).isSign '(' := k.isOpening
    exact constraintParts_append (List.forall_mem_singleton.mpr
      ⟨Part.not_isWord_of_isSign (Or.inl hopen) (by decide),
        Part.not_isWord_of_isSign (Or.inl hopen) (by decide)⟩) _
  rw [UniqueKey.typeBehindName, UniqueKey.typeLeft]
  cases k.name with
  | some n =>
    rw [if_neg (Option.some_ne_none n), constraintParts_indexType, hopening]
    rfl
  | none =>
    rw [if_pos rfl]
    cases k.typeBefore with
    | none => exact hopening
    | some t =>
      have htype : ∀ p ∈ [Part.token t.type], ¬p.isWord "USING" ∧ ¬p.isWord "UNIQUE" := by
        obtain ⟨-, husing, hunique⟩ := t.word_type
        exact List.forall_mem_singleton.mpr
          ⟨fun h => husing (beq_iff_eq.mp h), fun h => hunique (beq_iff_eq.mp h)⟩
      rw [← hopening]
      exact constraintParts_append htype _

/-- What becomes of a unique key. -/
theorem constraint_uniqueKey (k : UniqueKey) :
    constraint? ⟨k.parts⟩ = some ⟨Naming.parts k.naming ++ .token k.unique :: (k.typeLeft ++
      .token k.opening :: constraintParts (k.keyParts ++ [.token k.closing]))⟩ := by
  have hword : (Part.token k.unique).word = "UNIQUE".toList := beq_iff_eq.mp k.isUnique
  have hkind : Constraint.kind ⟨k.parts⟩ = "UNIQUE".toList :=
    (kind_naming k.naming (by rw [← Part.word, hword]; decide) _).trans hword
  have hunique : (Part.token k.unique).isWord "UNIQUE" := k.isUnique
  have hstarts : ∀ ps, ¬startsIndexType (.token k.unique :: ps) := fun ps hstarts => by
    cases ps with
    | nil => cases hstarts
    | cons p ps =>
      rw [startsIndexType, Part.isWord, hword] at hstarts
      cases hstarts
  have hclosing : (Part.token k.closing).isSign ')' := k.isClosing
  have hafter : constraintParts (IndexType.parts k.typeAfter) = [] := by
    rw [← List.append_nil (IndexType.parts k.typeAfter), constraintParts_indexType, constraintParts]
  rw [constraint?, hkind, if_neg (by decide)]
  rw [UniqueKey.parts, constraintParts_naming, constraintParts, if_neg (hstarts _),
    if_pos hunique, afterUnique_uniqueKey, constraintParts_typeBehindName,
    constraintParts_append_closing hclosing hafter]

/-- A unique key loses the name and the type of the index, and nothing else, if and only if its type
does not stand behind `UNIQUE` without a name and nothing in its parts is dropped. -/
theorem constraint_uniqueKey_iff (k : UniqueKey) :
    constraint? ⟨k.parts⟩ = some ⟨k.bareParts⟩ ↔
      (k.name = none → k.typeBefore = none) ∧
        (k.keyParts ++ [Part.token k.closing]).IsChain StayBeside := by
  rw [constraint_uniqueKey, ← constraintParts_eq_self_iff, UniqueKey.bareParts,
    Option.some.injEq, Constraint.mk.injEq, List.append_cancel_left_eq, List.cons.injEq,
    and_iff_right rfl]
  cases hname : k.name with
  | some n => simp [UniqueKey.typeLeft, hname]
  | none =>
    cases htype : k.typeBefore with
    | none => simp [UniqueKey.typeLeft, hname, htype]
    | some t =>
      have hne : t.type ≠ k.opening := fun heq => by
        have hopen := (Token.isSign_of_word t.word_type.1).1
        rw [heq, k.isOpening] at hopen
        cases hopen
      simp [UniqueKey.typeLeft, hname, htype, hne]

/-- The key `UNIQUE KEY USING BTREE (a)`, with a name behind `KEY` if there is one. -/
def treeKey (name : Option KeyName) : UniqueKey where
  naming := none
  unique := ⟨.keyword, "UNIQUE", false⟩
  index := some ⟨.keyword, "KEY", true⟩
  name := name
  typeBefore := some ⟨⟨.keyword, "USING", true⟩, ⟨.name, "BTREE", true⟩, by decide, by decide⟩
  opening := ⟨.punctuation, "(", true⟩
  keyParts := [.token ⟨.name, "a", false⟩]
  closing := ⟨.punctuation, ")", false⟩
  typeAfter := none
  isUnique := by decide
  isIndex := by decide
  isOpening := by decide
  isClosing := by decide

/-- Without a name the type of the index stays. -/
theorem constraint_treeKey :
    let k := treeKey (some ⟨⟨.name, "k", true⟩, by decide⟩)
    constraint? ⟨k.parts⟩ = some ⟨k.bareParts⟩ ∧
      constraint? ⟨(treeKey none).parts⟩ ≠ some ⟨(treeKey none).bareParts⟩ ∧
      (constraint? ⟨(treeKey none).parts⟩).map (renderParts .postgres ·.parts) =
        some "UNIQUE BTREE (a)".toList := by
  intro k
  have hparts : (k.keyParts ++ [Part.token k.closing]).IsChain StayBeside :=
    List.isChain_pair.mpr ⟨by decide, by decide⟩
  have hname : k.name = none → k.typeBefore = none := fun hnone => by cases hnone
  refine ⟨(constraint_uniqueKey_iff k).mpr ⟨hname, hparts⟩, fun hbare => ?_, by decide +kernel⟩
  cases ((constraint_uniqueKey_iff (treeKey none)).mp hbare).1 rfl

end SchemaMill.Sql.Postgres
