import SchemaMill.Proofs.Nesting.Depth
import SchemaMill.Proofs.Reading.Sources

/-!
# Character sets and names in parentheses

Clauses for a character set or a collation are taken out of the options of a column wherever they
stand, also inside parentheses. The options are what they are when nothing is taken from there
(`LiftedOutside`) if and only if no clause begins inside parentheses and no name of a table is read
there (`liftedOutside_iff`). Then all that stands inside parentheses in the statement is in the
options, in its order (`LiftedOutside.sublist`).
-/

namespace SchemaMill.Sql

open Nesting

/-! ### Rules -/

/-- Some of the members are held. -/
def anyHeld {α : Type} (as : List (α × Bool)) : Bool := as.any Prod.snd

/-- Takes a clause for a character set or a collation. -/
def encodingRule : Rule (Token × Bool) (Token × Bool)
  | t :: u :: rest =>
    if t.1.isWord "CHARACTER" && u.1.isWord "SET" then
      rest.head?.map fun v => ⟨[t, u, v], [], rest.tail⟩
    else if t.1.isWord "CHARSET" || t.1.isWord "COLLATE" then some ⟨[t, u], [], rest⟩
    else none
  | _ => none

/-- Takes `REFERENCES` with the name behind it, and makes one part of the name. -/
def nameRule : Rule (Token × Bool) Part
  | [] => none
  | t :: rest =>
    if t.1.isWord "REFERENCES" then
      (readName (rest.map Prod.fst)).map fun (q, after) =>
        let n := rest.length - after.length
        ⟨t :: rest.take n, [.token t.1, .name q], rest.drop n⟩
    else none

/-- A token as a part of a clause. -/
def keptToken (t : Token × Bool) : Part := .token t.1

theorem encodingRule_cases {as : List (Token × Bool)} {e : Exchange (Token × Bool) (Token × Bool)}
    (h : encodingRule as = some e) :
    (∃ t u, as = t :: u :: e.rest ∧ e.taken = [t, u] ∧ e.given = [] ∧ t.1.word ∉ bareWords) ∨
      ∃ t u v, as = t :: u :: v :: e.rest ∧ e.taken = [t, u, v] ∧ e.given = [] ∧
        t.1.word ∉ bareWords ∧ u.1.word ∉ bareWords := by
  have hword : ∀ {t : Token} {w : String}, w.toList ∉ bareWords → t.isWord w → t.word ∉ bareWords :=
    fun hw ht => beq_iff_eq.mp ht ▸ hw
  unfold encodingRule at h
  split at h
  · next t u rest =>
    split at h
    · next hkey =>
      rw [Bool.and_eq_true] at hkey
      cases rest with
      | nil => cases h
      | cons v rest =>
        cases h
        exact Or.inr ⟨t, u, v, rfl, rfl, rfl, hword (by decide) hkey.1, hword (by decide) hkey.2⟩
    · split at h
      · next hkey =>
        cases h
        rw [Bool.or_eq_true] at hkey
        exact Or.inl ⟨t, u, rfl, rfl, rfl, hkey.elim (hword (by decide)) (hword (by decide))⟩
      · cases h
  · cases h

theorem exchanges_encodingRule : encodingRule.Exchanges id fun _ => true := by
  intro as e h
  obtain ⟨t, u, hrow, htaken, hgiven, -⟩ | ⟨t, u, v, hrow, htaken, hgiven, -⟩ :=
    encodingRule_cases h <;> simp [hrow, htaken, hgiven]

/-- A clause that begins inside parentheses ends there. -/
theorem held_of_encodingRule {as : List (Token × Bool)}
    {e : Exchange (Token × Bool) (Token × Bool)} (hmarked : IsMarked Token.change as)
    (h : encodingRule as = some e) (hheld : anyHeld e.taken = true) :
    ∀ t ∈ e.taken, t.2 = true := by
  obtain ⟨t, u, rfl, htaken, -, ht⟩ | ⟨t, u, v, rfl, htaken, -, ht, hu⟩ := encodingRule_cases h
  · have hmark := hmarked.mark_eq (Token.change_of_word ht)
    simpa [htaken, anyHeld, hmark] using hheld
  · have hmark := hmarked.mark_eq (Token.change_of_word ht)
    have hmark' := hmarked.tail.mark_eq (Token.change_of_word hu)
    simpa [htaken, anyHeld, hmark, hmark'] using hheld

theorem anyHeld_cons {α : Type} (a : α × Bool) (as : List (α × Bool)) (h : a.2 = true) :
    anyHeld (a :: as) = true := by
  rw [anyHeld, List.any_cons, h, Bool.true_or]

theorem keepsBarred_encodingRule :
    Rewritten.KeepsBarred encodingRule anyHeld (IsMarked Token.change) :=
  keepsBarred_of_held exchanges_encodingRule anyHeld_cons held_of_encodingRule

/-- A name takes as many tokens as it has. -/
theorem of_nameRule {as : List (Token × Bool)} {e : Exchange (Token × Bool) Part}
    (h : nameRule as = some e) :
    ∃ t named q, as = t :: (named ++ e.rest) ∧ e.taken = t :: named ∧
      e.given = [.token t.1, .name q] ∧ named.length = (nameTokens q).length := by
  cases as with
  | nil => cases h
  | cons t rest =>
    rw [nameRule] at h
    split at h
    · obtain ⟨⟨q, after⟩, hname, rfl⟩ := Option.map_eq_some_iff.mp h
      obtain ⟨named, hnamed, hlength⟩ := exists_of_readName hname
      have hrest := congrArg List.length hnamed
      rw [List.length_map, List.length_append] at hrest
      refine ⟨t, _, q, by rw [List.take_append_drop], rfl, rfl, ?_⟩
      rw [List.length_take, hrest, Nat.add_sub_cancel, ← hlength]
      omega
    · cases h

theorem eq_append_of_nameRule {as : List (Token × Bool)} {e : Exchange (Token × Bool) Part}
    (h : nameRule as = some e) : as = e.taken ++ e.rest := by
  obtain ⟨t, named, -, hrow, htaken, -⟩ := of_nameRule h
  rw [hrow, htaken, List.cons_append]

theorem nameTokens_ne_nil (q : QualifiedName) : nameTokens q ≠ [] := by
  obtain ⟨i, is, hparts⟩ := q.exists_parts
  rw [nameTokens, hparts]
  exact List.cons_ne_nil _ _

/-! ### Runs -/

theorem encodingRule_of_keyword {t u : Token × Bool}
    (h : t.1.isWord "CHARSET" || t.1.isWord "COLLATE") (rest : List (Token × Bool)) :
    encodingRule (t :: u :: rest) = some ⟨[t, u], [], rest⟩ := by
  have hset : t.1.isWord "CHARACTER" = false := by
    simp only [Token.isWord, Bool.or_eq_true, beq_iff_eq] at h ⊢
    rcases h with h | h <;> rw [h] <;> decide
  rw [encodingRule, hset, Bool.false_and, if_neg Bool.false_ne_true, if_pos h]

theorem exists_rewritten_extractEncoding (found : ColumnEncoding) (ts : List (Token × Bool)) :
    ∃ kept, Rewritten id encodingRule ts kept ∧
      (extractEncoding found (ts.map Prod.fst)).1 = kept.map Prod.fst := by
  match ts with
  | [] => exact ⟨[], .nil, rfl⟩
  | [t] => exact ⟨[t], .keep rfl .nil, rfl⟩
  | [t, u] =>
    by_cases hkey : t.1.isWord "CHARSET" || t.1.isWord "COLLATE"
    · refine ⟨[], .rule (encodingRule_of_keyword hkey []) .nil, ?_⟩
      by_cases hset : t.1.isWord "CHARSET"
      · simp [extractEncoding, hset]
      · simp_all [extractEncoding]
    · have hnone : encodingRule [t, u] = none := by
        rw [encodingRule, if_neg hkey, List.head?_nil, Option.map_none, ite_self]
      refine ⟨[t, u], .keep hnone (.keep rfl .nil), ?_⟩
      simp_all [extractEncoding]
  | t :: u :: v :: rest =>
    simp only [List.map_cons, extractEncoding]
    split
    · next hset =>
      obtain ⟨kept, hkept, heq⟩ := exists_rewritten_extractEncoding
        { found with charset := some v.1.value } rest
      have hsome : encodingRule (t :: u :: v :: rest) = some ⟨[t, u, v], [], rest⟩ := by
        rw [encodingRule, if_pos hset]
        rfl
      exact ⟨kept, .rule hsome hkept, heq⟩
    · next hset =>
      split
      · next hkey =>
        obtain ⟨kept, hkept, heq⟩ := exists_rewritten_extractEncoding
          { found with charset := some u.1.value } (v :: rest)
        exact ⟨kept, .rule (encodingRule_of_keyword (by simp [hkey]) _) hkept, heq⟩
      · next hcharset =>
        split
        · next hkey =>
          obtain ⟨kept, hkept, heq⟩ := exists_rewritten_extractEncoding
            { found with collation := some u.1.value } (v :: rest)
          exact ⟨kept, .rule (encodingRule_of_keyword (by simp [hkey]) _) hkept, heq⟩
        · next hcollate =>
          obtain ⟨kept, hkept, heq⟩ := exists_rewritten_extractEncoding found (u :: v :: rest)
          have hnone : encodingRule (t :: u :: v :: rest) = none := by
            rw [encodingRule, if_neg hset, if_neg (by simp [hcharset, hcollate])]
          exact ⟨t :: kept, .keep hnone hkept, congrArg _ heq⟩
termination_by ts.length

theorem rewritten_liftReferences (ts : List (Token × Bool)) :
    Rewritten keptToken nameRule ts (liftReferences (ts.map Prod.fst)) := by
  match ts with
  | [] =>
    rw [List.map_nil, liftReferences]
    exact .nil
  | t :: rest =>
    rw [List.map_cons, liftReferences]
    split
    · next hkey =>
      split
      · next q after hname =>
        have hsome : nameRule (t :: rest) = some ⟨t :: rest.take (rest.length - after.length),
            [.token t.1, .name q], rest.drop (rest.length - after.length)⟩ := by
          rw [nameRule, if_pos hkey, hname]
          rfl
        have hafter : (rest.drop (rest.length - after.length)).map Prod.fst = after := by
          obtain ⟨named, hnamed, -⟩ := exists_of_readName hname
          have hlength := congrArg List.length hnamed
          rw [List.length_map, List.length_append] at hlength
          rw [List.map_drop, hnamed, hlength, Nat.add_sub_cancel, List.drop_left]
        have hrest := rewritten_liftReferences (rest.drop (rest.length - after.length))
        rw [hafter] at hrest
        exact .rule hsome hrest
      · next hname =>
        have hnone : nameRule (t :: rest) = none := by
          rw [nameRule, if_pos hkey, hname, Option.map_none]
        exact .keep hnone (rewritten_liftReferences rest)
    · next hkey =>
      have hnone : nameRule (t :: rest) = none := by rw [nameRule, if_neg hkey]
      exact .keep hnone (rewritten_liftReferences rest)
termination_by ts.length
decreasing_by
  all_goals simp only [List.length_cons, List.length_drop]; omega

/-! ### Lifting outside parentheses -/

/-- The options of a column if clauses for its encoding are taken out, and names of tables read,
only outside parentheses, of which `d` are open in front of the options. -/
def LiftedOutside (d : Int) (ts : List Token) (options : List Part) : Prop :=
  ∃ kept, Rewritten id (encodingRule.except anyHeld) (marked Token.change d ts) kept ∧
    Rewritten keptToken (nameRule.except anyHeld) kept options

/-- A clause for the encoding begins inside parentheses. -/
def EncodingNested (d : Int) (ts : List Token) : Prop :=
  Meets (encodingRule.IsBarred anyHeld) (encodingRule.except anyHeld) (marked Token.change d ts)

/-- The name of a table begins inside parentheses. -/
def NameNested (d : Int) (ts : List Token) : Prop :=
  ∃ kept, Rewritten id (encodingRule.except anyHeld) (marked Token.change d ts) kept ∧
    Meets (nameRule.IsBarred anyHeld) (nameRule.except anyHeld) kept

/-! ### Names -/

variable {rule : Rule (Token × Bool) Part} {ts : List (Token × Bool)} {ps ps' : List Part}

theorem length_tokens_of_rewritten (hrule : ∀ {as e}, rule as = some e → nameRule as = some e)
    (h : Rewritten keptToken rule ts ps) : (ps.flatMap Part.tokens).length = ts.length := by
  induction h with
  | nil => rfl
  | keep _ _ ih => simp [keptToken, Part.tokens, ih]
  | rule hsome _ ih =>
    obtain ⟨t, named, q, hrow, -, hgiven, hlength⟩ := of_nameRule (hrule hsome)
    rw [hrow, hgiven]
    simp [Part.tokens, ih, hlength]

/-- Where a name is not read, a token stands in its place. -/
theorem ne_of_isBarred (h : Rewritten keptToken nameRule ts ps)
    (h' : Rewritten keptToken (nameRule.except anyHeld) ts ps')
    (hbarred : nameRule.IsBarred anyHeld ts) : ps ≠ ps' := by
  obtain ⟨e, hsome, hbar⟩ := hbarred
  obtain ⟨t, named, q, rfl, htaken, hgiven, hlength⟩ := of_nameRule hsome
  obtain ⟨u, named, rfl⟩ : ∃ u us, named = u :: us := by
    cases named with
    | nil => exact absurd (List.length_eq_zero_iff.mp hlength.symm) (nameTokens_ne_nil q)
    | cons u us => exact ⟨u, us, rfl⟩
  have hsecond : ps'[1]? = some (.token u.1) := by
    cases h' with
    | rule hsome' => rw [Rule.except_of_bar hsome hbar] at hsome'; cases hsome'
    | keep _ hrest =>
      cases hrest with
      | keep => rfl
      | rule hsome' =>
        obtain ⟨t', named', q', hrow', -, hgiven', -⟩ :=
          of_nameRule (Rule.except_eq_some_iff.mp hsome').1
        obtain rfl := (List.cons.inj hrow').1
        rw [hgiven']
        rfl
  have hname : ps[1]? = some (.name q) := by
    cases h with
    | keep hnone => rw [hsome] at hnone; cases hnone
    | rule hsome' =>
      rw [hsome] at hsome'
      cases hsome'
      rw [hgiven]
      rfl
  rintro rfl
  rw [hname] at hsecond
  cases hsecond

/-! ### Options -/

variable (d : Int) (rest : List Token)

theorem existsUnique_liftedOutside : ∃! options, LiftedOutside d rest options := by
  have hencoding : ∀ {as e}, encodingRule.except anyHeld as = some e → e.rest.length < as.length :=
    fun hsome => exchanges_encodingRule.length_rest_lt (Rule.except_eq_some_iff.mp hsome).1
  have hname : ∀ {as e}, nameRule.except anyHeld as = some e → e.rest.length < as.length := by
    intro as e hsome
    obtain ⟨t, named, -, hrow, -⟩ := of_nameRule (Rule.except_eq_some_iff.mp hsome).1
    rw [hrow, List.length_cons, List.length_append]
    omega
  obtain ⟨kept, hkept⟩ :=
    Rewritten.exists_of_length_lt id hencoding (marked Token.change d rest)
  obtain ⟨options, hoptions⟩ := Rewritten.exists_of_length_lt keptToken hname kept
  refine ⟨options, ⟨kept, hkept, hoptions⟩, ?_⟩
  rintro options' ⟨kept', hkept', hoptions'⟩
  rw [hkept.unique hkept'] at hoptions
  exact hoptions'.unique hoptions

/-- All that stands inside parentheses is left, in its order. -/
theorem LiftedOutside.sublist {d : Int} {rest : List Token} {options : List Part}
    (h : LiftedOutside d rest options) :
    (((marked Token.change d rest).filter Prod.snd).map keptToken).Sublist options := by
  obtain ⟨kept, hkept, hoptions⟩ := h
  have hheld := hkept.sublist_of_held fun hsome => (exchanges_encodingRule hsome).1
  rw [List.map_id] at hheld
  have hheld' := hheld.filter Prod.snd
  rw [List.filter_filter, List.filter_congr fun _ _ => Bool.and_self _] at hheld'
  exact (hheld'.map keptToken).trans (hoptions.sublist_of_held eq_append_of_nameRule)

/-- What is lifted is lifted outside parentheses if and only if neither a clause for the encoding
nor the name of a table begins inside. -/
theorem liftedOutside_iff :
    LiftedOutside d rest (liftReferences (extractEncoding {} rest).1) ↔
      ¬EncodingNested d rest ∧ ¬NameNested d rest := by
  have hmarked : IsMarked Token.change (marked Token.change d rest) := ⟨d, rest, rfl⟩
  obtain ⟨kept, hkept, heq⟩ := exists_rewritten_extractEncoding {} (marked Token.change d rest)
  rw [map_fst_marked] at heq
  rw [heq]
  have hoptions := rewritten_liftReferences kept
  refine ⟨fun ⟨kept', hkept', hoptions'⟩ => ?_, fun ⟨hencoding, hname⟩ => ?_⟩
  · have hencoding : ¬EncodingNested d rest := fun hmeets => by
      have hlt := Rewritten.countP_lt_of_meets exchanges_encodingRule keepsBarred_encodingRule
        IsMarked.of_append hmarked hkept hkept' hmeets
      have hlength := length_tokens_of_rewritten id hoptions
      rw [length_tokens_of_rewritten (fun hsome => (Rule.except_eq_some_iff.mp hsome).1) hoptions']
        at hlength
      simp only [List.countP_true] at hlt
      omega
    refine ⟨hencoding, fun ⟨kept'', hkept'', hmeets⟩ => ?_⟩
    rw [← (hkept.except hencoding).unique hkept'] at hoptions'
    rw [← (hkept.except hencoding).unique hkept''] at hmeets
    exact Rewritten.of_meets (R := (· ≠ ·)) (K := fun _ => True)
      (fun cs hne heq => hne (List.append_cancel_left heq)) eq_append_of_nameRule (fun _ => trivial)
      (fun _ => ne_of_isBarred) trivial hoptions hoptions' hmeets rfl
  · have hkept' := hkept.except hencoding
    exact ⟨kept, hkept', hoptions.except fun hmeets => hname ⟨kept, hkept', hmeets⟩⟩

/-- There is one way to lift outside parentheses from the tokens behind the type of a column. The
options of the column in a statement are what it gives if and only if neither a clause for the
encoding nor the name of a table begins inside; then all that stands inside is left, in its
order. -/
theorem liftedOutside_options_iff {sql : Text} {t : Table} {c : Column} {i : Nat}
    (h : readTable sql = .ok t) (hc : (t.elements.getD [])[i]? = some (.column c)) :
    ∃ front rest, t.ElementAt sql i (front ++ rest) ∧ c.IsTyped front rest ∧
      let d := (front.map Token.change).sum
      (∃! options, LiftedOutside d rest options) ∧
        (LiftedOutside d rest c.options ↔ ¬EncodingNested d rest ∧ ¬NameNested d rest) ∧
        (LiftedOutside d rest c.options →
          (((marked Token.change d rest).filter Prod.snd).map keptToken).Sublist c.options) := by
  obtain ⟨ts, hat, hread⟩ := exists_elementAt h hc
  obtain ⟨front, rest, rfl, htyped, hoptions⟩ := exists_tokens_of_readElement hread
  refine ⟨front, rest, hat, htyped, existsUnique_liftedOutside _ rest, ?_, LiftedOutside.sublist⟩
  rw [hoptions]
  exact liftedOutside_iff _ rest

/-- A column that references a column `charset`. -/
def referencing : Text := "CREATE TABLE t (a INT REFERENCES p (charset))"

/-- The column that is read from it. -/
def referencingColumn : Column where
  name := ⟨"a", false⟩
  dataType := "INT"
  charset := some ")"
  options := [.token ⟨.name, "REFERENCES", true⟩, .name ⟨[], ⟨"p", false⟩, true⟩,
    .token ⟨.punctuation, "(", true⟩]

/-- The name of the referenced column is read as the keyword of a clause inside parentheses. -/
theorem not_liftedOutside_referencing : ∃ t front rest,
    readTable referencing = .ok t ∧ t.elements = some [.column referencingColumn] ∧
      t.ElementAt referencing 0 (front ++ rest) ∧ referencingColumn.IsTyped front rest ∧
        ¬LiftedOutside (front.map Token.change).sum rest referencingColumn.options := by
  let front : List Token := [⟨.name, "a", false⟩, ⟨.name, "INT", true⟩]
  let rest : List Token := [⟨.name, "REFERENCES", true⟩, ⟨.name, "p", true⟩,
    ⟨.punctuation, "(", true⟩, ⟨.name, "charset", false⟩, ⟨.punctuation, ")", false⟩]
  let t : Table :=
    { head := [⟨.keyword, "CREATE", false⟩, ⟨.name, "TABLE", true⟩]
      name := ⟨[], ⟨"t", false⟩, true⟩
      elements := some [.column referencingColumn] }
  have hsome : (readTable referencing).toOption = some t := by decide +kernel
  have hread : readTable referencing = .ok t := by
    cases hread : readTable referencing with
    | error e => rw [hread] at hsome; cases hsome
    | ok t' => rw [hread] at hsome; cases hsome; rfl
  have hcolumn : (t.elements.getD [])[0]? = some (.column referencingColumn) := rfl
  obtain ⟨front', rest', hat, htyped, -, hiff, -⟩ := liftedOutside_options_iff hread hcolumn
  have hat' : t.ElementAt referencing 0 (front ++ rest) :=
    ⟨[⟨.name, "t", true⟩], ⟨.punctuation, "(", true⟩, front ++ rest, ⟨.punctuation, ")", false⟩, [],
      by decide +kernel, by decide +kernel, rfl, rfl, rfl, by decide, by simp⟩
  have htyped' : referencingColumn.IsTyped front rest := .bare rfl rfl rfl rfl
  obtain ⟨rfl, rfl⟩ := htyped.eq_of_append_eq htyped' (hat.unique hat')
  have hnested : EncodingNested (front.map Token.change).sum rest :=
    .keep rfl (.keep rfl (.keep rfl (.here ⟨_, rfl, rfl⟩)))
  exact ⟨t, front, rest, hread, rfl, hat, htyped, fun hlifted => (hiff.mp hlifted).1 hnested⟩

end SchemaMill.Sql
