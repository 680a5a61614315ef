import SchemaMill.Proofs.Lexing.Layout
import SchemaMill.Proofs.Reading.Mapping
import SchemaMill.Sql.Reader

/-!
# Reading does not tell keywords from names

Whether a word is a keyword or a name makes no difference to the reading of a table definition:
taking keywords for names before the reading or after it gives the same (`readTokens_asName`).
-/

namespace SchemaMill.Sql

@[simp] theorem Token.asName_isWord (t : Token) (w : String) : t.asName.isWord w = t.isWord w := by
  simp [isWord]

@[simp] theorem Token.asName_isSign (t : Token) (c : Char) : t.asName.isSign c = t.isSign c := by
  simp [isSign]

@[simp] theorem Token.asName_identifier (t : Token) : t.asName.identifier = t.identifier := by
  simp [identifier]

/-! ### Names and parentheses -/

theorem readDotted_asName (ts : List Token) :
    readDotted (ts.map Token.asName) = ((readDotted ts).1, (readDotted ts).2.map Token.asName) := by
  fun_induction readDotted ts with
  | case1 dot t rest h ih => simp [readDotted, h, ih]
  | case2 dot t rest h => simp [readDotted, h]
  | case3 ts h =>
    match ts, h with
    | [], _ => rfl
    | [t], _ => rfl
    | dot :: t :: rest, h => exact absurd rfl (h dot t rest)

theorem readName_asName (ts : List Token) : readName (ts.map Token.asName) =
    (readName ts).map fun (q, rest) => (q, rest.map Token.asName) := by
  cases ts with
  | nil => rfl
  | cons t ts =>
    simp only [List.map_cons, readName, Token.asName_isIdentifier, Token.asName_identifier,
      Token.asName_spaced, readDotted_asName]
    split <;> rfl

theorem closeGroup_asName (depth : Nat) (ts : List Token) :
    closeGroup depth (ts.map Token.asName) = (closeGroup depth ts).map fun (inside, after) =>
      (inside.map Token.asName, after.map Token.asName) := by
  fun_induction closeGroup depth ts with
  | case1 => rfl
  | case2 depth t rest h ih => simp [closeGroup, h, ih, Function.comp_def]
  | case3 t rest h h' => simp [closeGroup, h, h']
  | case4 t rest h h' => simp [closeGroup, h, h']
  | case5 t rest h h' d ih => simp [closeGroup, h, h', ih, Function.comp_def]
  | case6 depth t rest h h' ih => simp [closeGroup, h, h', ih, Function.comp_def]

theorem splitAtCommas_asName (depth : Int) (ts : List Token) :
    splitAtCommas depth (ts.map Token.asName) =
      (splitAtCommas depth ts).map (·.map Token.asName) := by
  induction ts generalizing depth with
  | nil => rfl
  | cons t ts ih =>
    simp only [List.map_cons, splitAtCommas, Token.asName_isSign, ih]
    split
    · rfl
    · generalize splitAtCommas _ ts = chunks
      cases chunks <;> rfl

theorem staysOpen_asName (depth : Nat) (ts : List Token) :
    staysOpen depth (ts.map Token.asName) = staysOpen depth ts := by
  fun_induction staysOpen depth ts with
  | case1 => rfl
  | case2 depth t rest h ih => simp [staysOpen, h, ih]
  | case3 t rest h h' => simp [staysOpen, h, h']
  | case4 t rest h h' d ih => simp [staysOpen, h, h', ih]
  | case5 depth t rest h h' ih => simp [staysOpen, h, h', ih]

theorem splitElements_asName (ts : List Token) :
    splitElements (ts.map Token.asName) = (splitElements ts).map (·.map Token.asName) := by
  rw [splitElements, splitElements, splitAtCommas_asName, List.filter_map]
  simp [Function.comp_def]

theorem dropTerminators_asName (ts : List Token) :
    dropTerminators (ts.map Token.asName) = (dropTerminators ts).map Token.asName := by
  rw [dropTerminators, dropTerminators, ← List.map_reverse, List.dropWhile_map, List.map_reverse]
  simp [Function.comp_def]

/-! ### Clauses and elements -/

theorem liftReferences_asName (ts : List Token) : liftReferences (ts.map Token.asName) =
    (liftReferences ts).map (Part.mapToken Token.asName) := by
  fun_induction liftReferences ts with
  | case1 => simp [liftReferences]
  | case2 t rest h q after hname ih =>
    have hname' := readName_asName rest
    rw [hname] at hname'
    rw [List.map_cons, liftReferences, Token.asName_isWord, if_pos h]
    split
    · next q' after' h' => rw [hname'] at h'; cases h'; simp [ih, Part.mapToken]
    · next h' => rw [hname'] at h'; cases h'
  | case3 t rest h hname ih =>
    have hname' := readName_asName rest
    rw [hname] at hname'
    rw [List.map_cons, liftReferences, Token.asName_isWord, if_pos h]
    split
    · next q' after' h' => rw [hname'] at h'; cases h'
    · simp [ih, Part.mapToken]
  | case4 t rest h ih => simp [liftReferences, h, ih, Part.mapToken]

theorem extractEncoding_asName (found : ColumnEncoding) (ts : List Token) :
    extractEncoding found (ts.map Token.asName) =
      ((extractEncoding found ts).1.map Token.asName, (extractEncoding found ts).2) := by
  fun_induction extractEncoding found ts with
  | case1 => rfl
  | case2 => rfl
  | case3 found t u h => simp [extractEncoding, h]
  | case4 found t u h h' => simp [extractEncoding, h, h']
  | case5 found t u h h' => simp [extractEncoding, h, h']
  | case6 found t u v rest h ih => simp [extractEncoding, h, ih]
  | case7 found t u v rest h h' ih => simpa [extractEncoding, h, h'] using ih
  | case8 found t u v rest h h' h'' ih => simpa [extractEncoding, h, h', h''] using ih
  | case9 found t u v rest h h' h'' remaining found' heq ih =>
    rw [heq] at ih
    simp only [List.map_cons] at ih
    simp [extractEncoding, h, h', h'', ih]

theorem readColumn_asName (name : Token) (rest : List Token) :
    readColumn name.asName (rest.map Token.asName) =
      (readColumn name rest).map (Column.mapTokens Token.asName) := by
  cases rest with
  | nil => simp [readColumn, Except.map]
  | cons type rest =>
    cases rest with
    | nil =>
      simp [readColumn, Except.map, extractEncoding, liftReferences, Column.mapTokens]
    | cons t rest =>
      simp only [List.map_cons, readColumn, Token.asName_isSign, closeGroup_asName,
        Token.asName_identifier, Token.asName_word]
      split
      · cases closeGroup 1 rest with
        | none => rfl
        | some found =>
          simp [extractEncoding_asName, liftReferences_asName, Except.map, Column.mapTokens]
      · have henc := extractEncoding_asName {} (t :: rest)
        rw [List.map_cons] at henc
        simp [henc, liftReferences_asName, Except.map, Column.mapTokens]

theorem readElement_asName (ts : List Token) :
    readElement (ts.map Token.asName) = (readElement ts).map (Element.mapTokens Token.asName) := by
  cases ts with
  | nil => rfl
  | cons t ts =>
    have hlift := liftReferences_asName (t :: ts)
    simp only [List.map_cons] at hlift
    simp only [List.map_cons, readElement, Token.asName_isWord, Token.asName_word, hlift,
      readColumn_asName]
    split
    · rfl
    · cases readColumn t ts <;> rfl

theorem mapM_readElement_asName (chunks : List (List Token)) :
    (chunks.map (·.map Token.asName)).mapM readElement =
      (chunks.mapM readElement).map (·.map (Element.mapTokens Token.asName)) := by
  induction chunks with
  | nil => rfl
  | cons chunk chunks ih =>
    rw [List.map_cons, List.mapM_cons, List.mapM_cons, readElement_asName, ih]
    cases readElement chunk with
    | error e => rfl
    | ok e => cases chunks.mapM readElement <;> rfl

/-! ### Statements -/

theorem readBody_asName (head : List Token) (name : QualifiedName) (ts : List Token) :
    readBody (head.map Token.asName) name (ts.map Token.asName) =
      (readBody head name ts).map (Table.mapTokens Token.asName) := by
  cases ts with
  | nil => rfl
  | cons t ts =>
    simp only [List.map_cons, readBody, Token.asName_isSign, closeGroup_asName]
    split
    · cases closeGroup 1 ts with
      | none => rfl
      | some found =>
        obtain ⟨body, tail⟩ := found
        simp only [Option.map_some, splitElements_asName]
        cases splitElements body with
        | nil => rfl
        | cons chunk chunks =>
          have hread := mapM_readElement_asName (chunk :: chunks)
          rw [List.map_cons] at hread
          simp only [List.map_cons, hread, staysOpen_asName]
          cases (chunk :: chunks).mapM readElement with
          | error e => rfl
          | ok elements => by_cases htail : staysOpen 0 tail <;> simp [htail, Except.map, bind,
              Except.bind, Table.mapTokens]
    · have htail := staysOpen_asName 0 (t :: ts)
      rw [List.map_cons] at htail
      rw [htail]
      by_cases hopen : staysOpen 0 (t :: ts) <;> simp [hopen, Except.map, Table.mapTokens]

/-- Keywords may be taken for names before or after the reading. -/
theorem readTokens_asName (ts : List Token) :
    readTokens (ts.map Token.asName) = (readTokens ts).map (Table.mapTokens Token.asName) := by
  simp only [readTokens, dropTerminators_asName]
  generalize dropTerminators ts = ts
  have hcreate : (ts.map Token.asName).head?.any (·.isWord "CREATE") =
      ts.head?.any (·.isWord "CREATE") := by cases ts <;> simp
  have hhead : (ts.map Token.asName).takeWhile (fun t => headWords.contains t.word) =
      (ts.takeWhile fun t => headWords.contains t.word).map Token.asName := by
    simp [List.takeWhile_map, Function.comp_def]
  have hrest : (ts.map Token.asName).dropWhile (fun t => headWords.contains t.word) =
      (ts.dropWhile fun t => headWords.contains t.word).map Token.asName := by
    simp [List.dropWhile_map, Function.comp_def]
  simp only [hcreate, hhead, hrest, List.any_map, Function.comp_def, Token.asName_isWord,
    readName_asName]
  split
  · rfl
  · split
    · rfl
    · cases readName (ts.dropWhile fun t => headWords.contains t.word) with
      | none => rfl
      | some found => exact readBody_asName _ _ _

end SchemaMill.Sql
