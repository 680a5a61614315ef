import Mathlib.Data.List.Forall2
import SchemaMill.Proofs.Reading.Elements

/-!
# What a table is read from

The tokens of a statement that is read are the words up to the table name, the table name, the
elements in parentheses, if there are any, the table options, and semicolons
(`exists_tokens_of_readTable`). Each element is read from one stretch between commas
(`exists_elementAt`, `Table.ElementAt.unique`). A column is its name, its type with the arguments in
parentheses, and options (`exists_tokens_of_readElement`).
-/

namespace SchemaMill.Sql

/-! ### Groups and names -/

theorem eq_append_of_closeGroup {depth : Nat} {ts inside after : List Token}
    (h : closeGroup (depth + 1) ts = some (inside, after)) :
    ∃ closing : Token, ts = inside ++ closing :: after ∧ closing.isSign ')' ∧
      openAfter depth inside = some 0 := by
  induction ts generalizing depth inside with
  | nil => cases h
  | cons t ts ih =>
    have hrest : ∀ {depth' : Nat} {found : Option (List Token × List Token)},
        closeGroup (depth' + 1) ts = found →
          found.map (fun group => (t :: group.1, group.2)) = some (inside, after) →
            ∃ rest closing, inside = t :: rest ∧ ts = rest ++ closing :: after ∧
              closing.isSign ')' ∧ openAfter depth' rest = some 0 := by
      intro depth' found hfound hmap
      obtain ⟨⟨rest, after⟩, rfl, heq⟩ := Option.map_eq_some_iff.mp hmap
      cases heq
      obtain ⟨closing, hts, hclose, hdepth⟩ := ih hfound
      exact ⟨rest, closing, rfl, hts, hclose, hdepth⟩
    simp only [closeGroup] at h
    split at h
    · next hopen =>
      obtain ⟨rest, closing, rfl, rfl, hclosing, hdepth⟩ := hrest rfl h
      exact ⟨closing, rfl, hclosing, by simpa only [openAfter, if_pos hopen] using hdepth⟩
    · next hopen =>
      split at h
      · next hclose =>
        cases depth with
        | zero =>
          cases h
          exact ⟨t, rfl, hclose, rfl⟩
        | succ depth =>
          obtain ⟨rest, closing, rfl, rfl, hclosing, hdepth⟩ := hrest rfl h
          refine ⟨closing, rfl, hclosing, ?_⟩
          simpa only [openAfter, if_neg hopen, if_pos hclose] using hdepth
      · next hclose =>
        obtain ⟨rest, closing, rfl, rfl, hclosing, hdepth⟩ := hrest rfl h
        refine ⟨closing, rfl, hclosing, ?_⟩
        simpa only [openAfter, if_neg hopen, if_neg hclose] using hdepth

theorem exists_of_closeGroup {ts inside after : List Token}
    (h : closeGroup 1 ts = some (inside, after)) :
    ∃ closing : Token, ts = inside ++ closing :: after ∧ closing.isSign ')' ∧
      isBalanced inside := by
  obtain ⟨closing, hts, hclose, hdepth⟩ := eq_append_of_closeGroup h
  exact ⟨closing, hts, hclose, beq_iff_eq.mpr hdepth⟩

theorem exists_of_readDotted (ts : List Token) :
    ∃ named, ts = named ++ (readDotted ts).2 ∧
      named.length = (dottedTokens (readDotted ts).1).length := by
  fun_induction readDotted ts with
  | case1 dot t rest h ih =>
    obtain ⟨named, hrest, hlength⟩ := ih
    refine ⟨dot :: t :: named, by rw [List.cons_append, List.cons_append, ← hrest], ?_⟩
    simpa [dottedTokens] using hlength
  | case2 dot t rest h => exact ⟨[], rfl, rfl⟩
  | case3 ts h => exact ⟨[], rfl, rfl⟩

theorem exists_of_readName {ts after : List Token} {q : QualifiedName}
    (h : readName ts = some (q, after)) :
    ∃ named, ts = named ++ after ∧ named.length = (nameTokens q).length := by
  cases ts with
  | nil => cases h
  | cons t ts =>
    rw [readName] at h
    split at h
    · obtain ⟨named, hts, hlength⟩ := exists_of_readDotted ts
      cases h
      refine ⟨t :: named, by rw [List.cons_append, ← hts], ?_⟩
      rw [nameTokens, QualifiedName.parts, List.dropLast_append_getLast, List.length_cons,
        List.length_cons, hlength]
    · cases h

/-! ### Columns -/

/-- The tokens of a column in front of its options, and the options: the name and the type, and the
arguments of the type if a parenthesis opens behind it. -/
inductive Column.IsTyped (c : Column) : (front rest : List Token) → Prop where
  | bare {name type : Token} {rest : List Token} (hname : name.identifier = c.name)
    (htype : type.word = c.dataType) (hargs : c.typeArgs = [])
    (hrest : rest.head?.any (·.isSign '(') = false) : IsTyped c [name, type] rest
  | args {name type opening closing : Token} {rest : List Token}
    (hname : name.identifier = c.name) (htype : type.word = c.dataType)
    (hopen : opening.isSign '(') (hclose : closing.isSign ')') (hargs : isBalanced c.typeArgs) :
    IsTyped c (name :: type :: opening :: (c.typeArgs ++ [closing])) rest

/-- The type of a column ends at one place. -/
theorem Column.IsTyped.eq_of_append_eq {c : Column} {front front' rest rest' : List Token}
    (h : c.IsTyped front rest) (h' : c.IsTyped front' rest')
    (heq : front ++ rest = front' ++ rest') : front = front' ∧ rest = rest' := by
  have hbare : ∀ {name type name' type' opening closing : Token} {args us us' : List Token},
      us.head?.any (·.isSign '(') = false → opening.isSign '(' = true →
        [name, type] ++ us ≠ name' :: type' :: opening :: (args ++ [closing]) ++ us' := by
    intro name type name' type' opening closing args us us' hus hopen heq
    simp only [List.cons_append, List.nil_append, List.cons.injEq] at heq
    rw [heq.2.2, List.head?_cons, Option.any_some, hopen] at hus
    cases hus
  cases h with
  | bare _ _ _ hrest =>
    cases h' with
    | bare => exact List.append_inj heq rfl
    | args _ _ hopen => exact absurd heq (hbare hrest hopen)
  | args _ _ hopen =>
    cases h' with
    | bare _ _ _ hrest => exact absurd heq.symm (hbare hrest hopen)
    | args => exact List.append_inj heq (by simp)

theorem exists_tokens_of_readColumn {name : Token} {ts : List Token} {c : Column}
    (h : readColumn name ts = .ok c) :
    ∃ front rest, name :: ts = front ++ rest ∧ c.IsTyped front rest ∧
      c.options = liftReferences (extractEncoding {} rest).1 := by
  cases ts with
  | nil => cases h
  | cons type ts =>
    cases hparen : ts.head?.any (·.isSign '(') with
    | false =>
      rw [readColumn_bare name type hparen] at h
      cases h
      exact ⟨[name, type], ts, rfl, .bare rfl rfl rfl hparen, rfl⟩
    | true =>
      cases ts with
      | nil => cases hparen
      | cons opening ts =>
        have hopen : opening.isSign '(' := hparen
        cases hclosed : closeGroup 1 ts with
        | none =>
          simp only [readColumn] at h
          rw [if_pos hopen, hclosed] at h
          cases h
        | some found =>
          obtain ⟨args, rest⟩ := found
          obtain ⟨closing, rfl, hclose, hargs⟩ := exists_of_closeGroup hclosed
          rw [readColumn_args name type hargs hopen hclose] at h
          cases h
          exact ⟨name :: type :: opening :: (args ++ [closing]), rest, by simp,
            .args rfl rfl hopen hclose hargs, rfl⟩

/-- The tokens of a column are those in front of its options and those that its options are made
of. -/
theorem exists_tokens_of_readElement {ts : List Token} {c : Column}
    (h : readElement ts = .ok (.column c)) :
    ∃ front rest, ts = front ++ rest ∧ c.IsTyped front rest ∧
      c.options = liftReferences (extractEncoding {} rest).1 := by
  cases ts with
  | nil => cases h
  | cons name ts =>
    rw [readElement] at h
    split at h
    · cases h
    · cases hcolumn : readColumn name ts with
      | error e => rw [hcolumn] at h; cases h
      | ok c' =>
        rw [hcolumn] at h
        cases h
        exact exists_tokens_of_readColumn hcolumn

/-! ### Statements -/

/-- The tokens between the table name and the table options, and the elements that are read from
them. -/
inductive ElementsFrom : List Token → Option (List Element) → Prop where
  | none : ElementsFrom [] none
  | some {opening closing : Token} {body : List Token} {es : List Element}
    (hopen : opening.isSign '(') (hclose : closing.isSign ')') (hbody : isBalanced body)
    (hread : List.Forall₂ (fun ts e => readElement ts = .ok e) (splitElements body) es) :
    ElementsFrom (opening :: (body ++ [closing])) (some es)

theorem forall₂_of_mapM {chunks : List (List Token)} {es : List Element}
    (h : chunks.mapM readElement = .ok es) :
    List.Forall₂ (fun ts e => readElement ts = .ok e) chunks es := by
  induction chunks generalizing es with
  | nil => cases h; exact .nil
  | cons chunk chunks ih =>
    rw [List.mapM_cons] at h
    cases he : readElement chunk with
    | error e => rw [he] at h; cases h
    | ok e =>
      cases hes : chunks.mapM readElement with
      | error e => rw [he, hes] at h; cases h
      | ok es =>
        rw [he, hes] at h
        cases h
        exact .cons he (ih hes)

theorem exists_tokens_of_readBody {head ts : List Token} {name : QualifiedName} {t : Table}
    (h : readBody head name ts = .ok t) :
    t.head = head ∧ t.name = name ∧
      ∃ inner, ts = inner ++ t.options ∧ ElementsFrom inner t.elements := by
  cases ts with
  | nil => cases h; exact ⟨rfl, rfl, [], rfl, .none⟩
  | cons u us =>
    simp only [readBody] at h
    split at h
    · next hopen =>
      split at h
      · cases h
      · next body tail hclosed =>
        obtain ⟨closing, rfl, hclose, hbody⟩ := exists_of_closeGroup hclosed
        split at h
        · cases h
        · cases hes : (splitElements body).mapM readElement with
          | error e => rw [hes] at h; cases h
          | ok es =>
            rw [hes] at h
            simp only [bind, Except.bind] at h
            split at h <;> cases h
            exact ⟨rfl, rfl, u :: (body ++ [closing]), by simp,
              .some hopen hclose hbody (forall₂_of_mapM hes)⟩
    · split at h <;> cases h
      exact ⟨rfl, rfl, [], rfl, .none⟩

theorem exists_terminators (ts : List Token) :
    ∃ ends, ts = dropTerminators ts ++ ends ∧ ∀ u ∈ ends, u.isSign ';' := by
  refine ⟨(ts.reverse.takeWhile (·.isSign ';')).reverse, ?_, fun u hu => ?_⟩
  · rw [dropTerminators, ← List.reverse_append, List.takeWhile_append_dropWhile,
      List.reverse_reverse]
  · exact List.mem_takeWhile_imp (p := fun u : Token => u.isSign ';') (List.mem_reverse.mp hu)

/-- The tokens of a statement that is read as a table definition. -/
theorem exists_tokens_of_readTable {sql : Text} {t : Table} (h : readTable sql = .ok t) :
    ∃ named inner ends,
      tokenize sql = .ok (t.head ++ (named ++ (inner ++ (t.options ++ ends)))) ∧
      readName (named ++ (inner ++ t.options)) = some (t.name, inner ++ t.options) ∧
      ElementsFrom inner t.elements ∧ ∀ u ∈ ends, u.isSign ';' := by
  rw [readTable] at h
  split at h
  · cases h
  · next ts hts =>
    obtain ⟨ends, hends, hsigns⟩ := exists_terminators ts
    simp only [readTokens] at h
    generalize dropTerminators ts = us at h hends
    split at h
    · cases h
    · split at h
      · cases h
      · split at h
        · cases h
        · next name rest hname =>
          obtain ⟨named, hnamed, -⟩ := exists_of_readName hname
          obtain ⟨hhead, rfl, inner, rfl, hinner⟩ := exists_tokens_of_readBody h
          refine ⟨named, inner, ends, ?_, by rw [← hnamed, hname], hinner, hsigns⟩
          have hus : us = t.head ++ (named ++ (inner ++ t.options)) := by
            rw [hhead, ← hnamed, List.takeWhile_append_dropWhile]
          rw [hts, hends, hus]
          simp only [List.append_assoc]

/-- The tokens `ts` of the statement `sql` for the table `t` are those of element `i`: of all that
is not empty between commas outside further parentheses. -/
def Table.ElementAt (t : Table) (sql : Text) (i : Nat) (ts : List Token) : Prop :=
  ∃ named opening body closing ends,
    tokenize sql = .ok
      (t.head ++ (named ++ (opening :: (body ++ closing :: (t.options ++ ends))))) ∧
    readName (named ++ opening :: (body ++ closing :: t.options)) =
      some (t.name, opening :: (body ++ closing :: t.options)) ∧
    opening.isSign '(' ∧ closing.isSign ')' ∧ isBalanced body ∧ (splitElements body)[i]? = some ts ∧
    ∀ u ∈ ends, u.isSign ';'

/-- The tokens of an element are one stretch of the statement. -/
theorem Table.ElementAt.unique {t : Table} {sql : Text} {i : Nat} {ts ts' : List Token}
    (h : t.ElementAt sql i ts) (h' : t.ElementAt sql i ts') : ts = ts' := by
  obtain ⟨named, opening, body, closing, ends, htokens, hname, -, hclose, hbody, hts, -⟩ := h
  obtain ⟨named', opening', body', closing', ends', htokens', hname', -, hclose', hbody', hts',
    -⟩ := h'
  have hlength : ∀ {us after : List Token}, readName (us ++ after) = some (t.name, after) →
      us.length = (nameTokens t.name).length := by
    intro us after hread
    obtain ⟨us', heq, hlength⟩ := exists_of_readName hread
    rw [List.append_cancel_right heq, hlength]
  rw [htokens] at htokens'
  have hrow := List.append_cancel_left (Except.ok.inj htokens')
  have hinner := (List.append_inj hrow ((hlength hname).trans (hlength hname').symm)).2
  have hgroup := congrArg (closeGroup 1) (List.cons.inj hinner).2
  rw [closeGroup_of_isBalanced hbody hclose, closeGroup_of_isBalanced hbody' hclose'] at hgroup
  rw [(Prod.mk.inj (Option.some.inj hgroup)).1, hts'] at hts
  exact (Option.some.inj hts).symm

/-- Each element is read from tokens of the statement. -/
theorem exists_elementAt {sql : Text} {t : Table} {i : Nat} {e : Element}
    (h : readTable sql = .ok t) (he : (t.elements.getD [])[i]? = some e) :
    ∃ ts, t.ElementAt sql i ts ∧ readElement ts = .ok e := by
  obtain ⟨named, inner, ends, htokens, hname, hinner, hends⟩ := exists_tokens_of_readTable h
  cases helements : t.elements with
  | none => rw [helements] at he; cases he
  | some es =>
    rw [helements] at hinner he
    cases hinner with
    | @some opening closing body _ hopen hclose hbody hread =>
      obtain ⟨hi, heq⟩ := List.getElem?_eq_some_iff.mp he
      have hi' : i < (splitElements body).length := hread.length_eq ▸ hi
      refine ⟨(splitElements body)[i], ⟨named, opening, body, closing, ends, ?_, ?_, hopen, hclose,
        hbody, List.getElem?_eq_getElem hi', hends⟩, ?_⟩
      · simpa using htokens
      · simpa using hname
      · have helement := hread.get hi' hi
        rwa [List.get_eq_getElem, List.get_eq_getElem, show es[i] = e from heq] at helement

end SchemaMill.Sql
