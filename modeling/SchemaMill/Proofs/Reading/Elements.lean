import SchemaMill.Proofs.Reading.Clauses

/-!
# Reading elements back

A column or constraint is read back from the tokens of its layout (`readElement_tokens`), and so
are all elements between parentheses, once they are told apart (`splitElements_joinElements`,
`mapM_readElement_tokens`). Needed for it is that each keeps its parentheses and commas to itself,
and that nothing in a column reads as another part of it.
-/

namespace SchemaMill.Sql

/-! ### Parentheses -/

theorem Token.isSign_of_ne {t : Token} {c c' : Char} (h : t.isSign c) (hne : c ≠ c') :
    t.isSign c' = false := by
  rw [isSign, beq_iff_eq] at h
  simp [isSign, h, hne]

/-- How many parentheses are open after some tokens if `depth` are before, and none closes that was
not opened. -/
def openAfter (depth : Nat) : List Token → Option Nat
  | [] => some depth
  | t :: ts =>
    if t.isSign '(' then openAfter (depth + 1) ts
    else if t.isSign ')' then
      match depth with
      | 0 => none
      | d + 1 => openAfter d ts
    else openAfter depth ts

/-- Whether each parenthesis has its partner. -/
def isBalanced (ts : List Token) : Bool := openAfter 0 ts == some 0

theorem openAfter_append {d e : Nat} {ts : List Token} (h : openAfter d ts = some e)
    (us : List Token) : openAfter d (ts ++ us) = openAfter e us := by
  fun_induction openAfter d ts with
  | case1 => cases h; rfl
  | case2 d t ts hopen ih => simpa [openAfter, hopen] using ih h
  | case3 => cases h
  | case4 t ts hopen hclose d ih => simpa [openAfter, hopen, hclose] using ih h
  | case5 d t ts hopen hclose ih => simpa [openAfter, hopen, hclose] using ih h

theorem closeGroup_append {d e : Nat} {ts : List Token} (h : openAfter d ts = some e)
    (us : List Token) : closeGroup (d + 1) (ts ++ us) =
      (closeGroup (e + 1) us).map fun (inside, after) => (ts ++ inside, after) := by
  fun_induction openAfter d ts with
  | case1 => cases h; simp
  | case2 d t ts hopen ih => simp [closeGroup, hopen, ih h, Function.comp_def]
  | case3 => cases h
  | case4 t ts hopen hclose d ih =>
    simp [closeGroup, hopen, hclose, ih h, Function.comp_def]
  | case5 d t ts hopen hclose ih =>
    simp [closeGroup, hopen, hclose, ih h, Function.comp_def]

theorem closeGroup_of_isBalanced {ts : List Token} (h : isBalanced ts) {close : Token}
    (hclose : close.isSign ')') (us : List Token) :
    closeGroup 1 (ts ++ close :: us) = some (ts, us) := by
  have hopen : close.isSign '(' = false := Token.isSign_of_ne hclose (by decide)
  rw [closeGroup_append (beq_iff_eq.mp h), closeGroup]
  simp [hopen, hclose]

/-! ### Commas -/

/-- How many parentheses are open after a token. -/
def depthAfter (d : Int) (t : Token) : Int :=
  if t.isSign '(' then d + 1 else if t.isSign ')' then d - 1 else d

theorem splitAtCommas_cons {d : Int} {t : Token} {ts chunk : List Token}
    {chunks : List (List Token)} (ht : (t.isSign ',' && d == 0) = false)
    (hts : splitAtCommas (depthAfter d t) ts = chunk :: chunks) :
    splitAtCommas d (t :: ts) = (t :: chunk) :: chunks := by
  rw [splitAtCommas, if_neg (by simp [ht])]
  rw [depthAfter] at hts
  simp only [hts]

theorem splitAtCommas_ne_nil (d : Int) (ts : List Token) : splitAtCommas d ts ≠ [] := by
  induction ts generalizing d with
  | nil => simp [splitAtCommas]
  | cons t ts ih =>
    obtain ⟨chunk, chunks, hts⟩ := List.exists_cons_of_ne_nil (ih (depthAfter d t))
    by_cases ht : (t.isSign ',' && d == 0) = true
    · rw [splitAtCommas, if_pos ht]
      simp
    · rw [splitAtCommas_cons (by simpa using ht) hts]
      simp

theorem of_splitAtCommas_cons {d : Int} {t : Token} {ts : List Token}
    (h : splitAtCommas d (t :: ts) = [t :: ts]) :
    (t.isSign ',' && d == 0) = false ∧ splitAtCommas (depthAfter d t) ts = [ts] := by
  obtain ⟨chunk, chunks, hts⟩ :=
    List.exists_cons_of_ne_nil (splitAtCommas_ne_nil (depthAfter d t) ts)
  by_cases ht : (t.isSign ',' && d == 0) = true
  · rw [splitAtCommas, if_pos ht] at h
    cases h
  · rw [splitAtCommas_cons (by simpa using ht) hts] at h
    cases h
    exact ⟨by simpa using ht, hts⟩

theorem splitAtCommas_append {d e : Nat} {ts us chunk : List Token} {chunks : List (List Token)}
    (hopen : openAfter d ts = some e) (hts : splitAtCommas d ts = [ts])
    (hus : splitAtCommas e us = chunk :: chunks) :
    splitAtCommas d (ts ++ us) = (ts ++ chunk) :: chunks := by
  fun_induction openAfter d ts with
  | case1 => cases hopen; exact hus
  | case2 d t ts hsign ih =>
    obtain ⟨ht, hts⟩ := of_splitAtCommas_cons hts
    have hdepth : depthAfter d t = (d + 1 : Nat) := by simp [depthAfter, hsign]
    rw [hdepth] at hts
    exact splitAtCommas_cons ht (hdepth ▸ ih hopen hts)
  | case3 => cases hopen
  | case4 t ts hsign hclose d ih =>
    obtain ⟨ht, hts⟩ := of_splitAtCommas_cons hts
    have hdepth : depthAfter (d + 1 : Nat) t = (d : Nat) := by simp [depthAfter, hsign, hclose]
    rw [hdepth] at hts
    exact splitAtCommas_cons ht (hdepth ▸ ih hopen hts)
  | case5 d t ts hsign hclose ih =>
    obtain ⟨ht, hts⟩ := of_splitAtCommas_cons hts
    have hdepth : depthAfter d t = d := by simp [depthAfter, hsign, hclose]
    rw [hdepth] at hts
    exact splitAtCommas_cons ht (hdepth.symm ▸ ih hopen hts)

/-- Whether tokens make up one element: they are not none, each parenthesis among them has its
partner, and no comma stands outside parentheses. -/
def isElement (ts : List Token) : Bool :=
  !ts.isEmpty && isBalanced ts && splitAtCommas 0 ts == [ts]

/-- Elements behind commas. -/
def joinElements : List (List Token) → List Token
  | [] => []
  | ts :: rest => ts ++ rest.flatMap ({ mark ',' with spaced := false } :: ·)

/-- Elements with commas between them are taken apart again, and their parentheses have partners. -/
theorem splitElements_joinElements {chunks : List (List Token)} (hne : chunks ≠ [])
    (h : chunks.all isElement) :
    isBalanced (joinElements chunks) ∧ splitElements (joinElements chunks) = chunks := by
  have hsplit : ∀ {ts : List Token} {rest : List (List Token)}, isElement ts → rest.all isElement →
      openAfter 0 (joinElements (ts :: rest)) = some 0 ∧
        splitAtCommas 0 (joinElements (ts :: rest)) = ts :: rest := by
    intro ts rest hts hrest
    simp only [isElement, isBalanced, Bool.and_eq_true, beq_iff_eq] at hts
    obtain ⟨⟨-, hopen⟩, hcommas⟩ := hts
    induction rest generalizing ts with
    | nil => simpa [joinElements] using And.intro hopen hcommas
    | cons us rest ih =>
      rw [List.all_cons, Bool.and_eq_true] at hrest
      have hus := hrest.1
      simp only [isElement, isBalanced, Bool.and_eq_true, beq_iff_eq] at hus
      obtain ⟨hopen', hcommas'⟩ := ih hrest.2 hus.2 hus.1.2
      have hjoin : joinElements (ts :: us :: rest) =
          ts ++ { mark ',' with spaced := false } :: joinElements (us :: rest) := by
        simp [joinElements]
      rw [hjoin]
      refine ⟨by rw [openAfter_append hopen]; exact hopen', ?_⟩
      have hcomma : splitAtCommas (0 : Nat) ({ mark ',' with spaced := false } ::
          joinElements (us :: rest)) = [] :: us :: rest := congrArg _ hcommas'
      have hts := splitAtCommas_append (d := 0) hopen hcommas hcomma
      rwa [List.append_nil] at hts
  obtain ⟨ts, rest, rfl⟩ := List.exists_cons_of_ne_nil hne
  have hall := h
  rw [List.all_cons, Bool.and_eq_true] at h
  obtain ⟨hopen, hcommas⟩ := hsplit h.1 h.2
  refine ⟨beq_iff_eq.mpr hopen, ?_⟩
  rw [splitElements, hcommas]
  refine List.filter_eq_self.mpr fun ts hts => ?_
  have := List.all_eq_true.mp hall ts hts
  simp only [isElement, Bool.and_eq_true] at this
  exact this.1.1

/-! ### Character sets and collations -/

theorem length_extractEncoding_le (found : ColumnEncoding) (ts : List Token) :
    (extractEncoding found ts).1.length ≤ ts.length := by
  fun_induction extractEncoding found ts <;> simp_all <;> omega

/-- Options without a clause for an encoding are not changed by looking for one. -/
theorem extractEncoding_of_fst_eq {found : ColumnEncoding} {ts : List Token}
    (h : (extractEncoding found ts).1 = ts) (found' : ColumnEncoding) :
    extractEncoding found' ts = (ts, found') := by
  fun_induction extractEncoding found ts with
  | case1 => rfl
  | case2 => rfl
  | case3 => cases h
  | case4 => cases h
  | case5 found t u hset hcollate => simp [extractEncoding, hset, hcollate]
  | case6 found t u v rest hset ih =>
    have := length_extractEncoding_le { found with charset := some v.value } rest
    have := congrArg List.length h
    simp only [List.length_cons] at this
    omega
  | case7 found t u v rest hset hset' ih =>
    have := length_extractEncoding_le { found with charset := some u.value } (v :: rest)
    have := congrArg List.length h
    simp only [List.length_cons] at *
    omega
  | case8 found t u v rest hset hset' hcollate ih =>
    have := length_extractEncoding_le { found with collation := some u.value } (v :: rest)
    have := congrArg List.length h
    simp only [List.length_cons] at *
    omega
  | case9 found t u v rest hset hset' hcollate remaining found'' heq ih =>
    rw [heq] at ih
    simp [extractEncoding, hset, hset', hcollate, ih (List.cons.inj h).2]

theorem extractEncoding_charset {w w' v : Token} (hw : w.isWord "CHARACTER")
    (hw' : w'.isWord "SET") (found : ColumnEncoding) (ts : List Token) :
    extractEncoding found (w :: w' :: v :: ts) =
      extractEncoding { found with charset := some v.value } ts := by
  simp [extractEncoding, hw, hw']

theorem extractEncoding_collation {w v : Token} (hw : w.isWord "COLLATE") (found : ColumnEncoding)
    (ts : List Token) : extractEncoding found (w :: v :: ts) =
      extractEncoding { found with collation := some v.value } ts := by
  have hne : w.isWord "CHARACTER" = false ∧ w.isWord "CHARSET" = false := by
    rw [Token.isWord, beq_iff_eq] at hw
    simp only [Token.isWord, hw]
    decide
  cases ts with
  | nil => simp [extractEncoding, hw, hne]
  | cons t ts => simp [extractEncoding, hw, hne]

/-- The character set and the collation of a column are read back from their clauses. -/
theorem extractEncoding_placeSettings {charset collation : Option Text}
    (hcharset : charset ≠ some []) (hcollation : collation ≠ some []) {options : List Token}
    (hoptions : (extractEncoding {} options).1 = options) :
    extractEncoding {} ((placeSetting ["CHARACTER", "SET"] charset).map Placed.read ++
      ((placeSetting ["COLLATE"] collation).map Placed.read ++ options)) =
        (options, ⟨charset, collation⟩) := by
  have hsome : ∀ (words : List String) {v : Text}, some v ≠ some [] →
      (placeSetting words (some v)).map Placed.read =
        words.map (fun w => wordToken w.toList) ++ [valueToken v] := by
    intro words v hv
    have hne : v.isEmpty = false := by simpa using hv
    simp [placeSetting, hne, Placed.read, wordToken, valueToken]
  have hcollate : ∀ found : ColumnEncoding, found.collation = none → extractEncoding found
      ((placeSetting ["COLLATE"] collation).map Placed.read ++ options) =
        (options, { found with collation }) := by
    rintro ⟨charset, _⟩ rfl
    cases collation with
    | none => exact extractEncoding_of_fst_eq hoptions _
    | some v =>
      rw [hsome _ hcollation]
      exact (extractEncoding_collation (by decide) _ _).trans (extractEncoding_of_fst_eq hoptions _)
  cases charset with
  | none => exact hcollate {} rfl
  | some v =>
    rw [hsome _ hcharset]
    exact (extractEncoding_charset (by decide) (by decide) _ _).trans (hcollate _ rfl)

/-! ### Columns and constraints -/

/-- The tokens of the options of a column. -/
def Column.optionTokens (c : Column) : List Token := (placeParts [' '] c.options).map Placed.read

/-- Whether nothing in a column reads as another part of it: the name as the beginning of a
constraint, the options as a part of the type or as a clause for an encoding. -/
def Column.isReadable (c : Column) : Bool :=
  c.name.isStable && !beginsConstraint c.name.token.word &&
    (wordToken c.dataType).word == c.dataType &&
    isBalanced ((placeTokens [] c.typeArgs).map Placed.read) &&
    !(c.typeArgs.isEmpty && c.optionTokens.head?.any (·.isSign '(')) &&
    c.charset != some [] && c.collation != some [] &&
    (extractEncoding {} c.optionTokens).1 == c.optionTokens

/-- A column as it is written. -/
def Column.written (c : Column) : Column := (c.mapTokens Token.written).respaced

/-- The column that is read from its name, its type, the arguments of the type and its options. -/
def columnOf (name type : Token) (args options : List Token) : Column :=
  { name := name.identifier, dataType := type.word, typeArgs := args,
    charset := (extractEncoding {} options).2.charset,
    collation := (extractEncoding {} options).2.collation,
    options := liftReferences (extractEncoding {} options).1 }

theorem readColumn_bare (name type : Token) {rest : List Token}
    (h : rest.head?.any (·.isSign '(') = false) :
    readColumn name (type :: rest) = .ok (columnOf name type [] rest) := by
  cases rest with
  | nil => rfl
  | cons t rest =>
    simp only [readColumn]
    rw [if_neg (by simpa using h)]
    rfl

theorem readColumn_args (name type : Token) {args rest : List Token} (h : isBalanced args)
    {opening closing : Token} (hopen : opening.isSign '(') (hclose : closing.isSign ')') :
    readColumn name (type :: opening :: (args ++ closing :: rest)) =
      .ok (columnOf name type args rest) := by
  simp only [readColumn]
  rw [if_pos hopen, closeGroup_of_isBalanced h hclose]
  rfl

/-- A parenthesis in front of which a setting may stand is not the first token of the setting. -/
theorem head?_placeSetting {w : String} (hw : w.toList ≠ ['(']) (ws : List String)
    (value : Option Text) {rest : List Token} (h : rest.head?.any (·.isSign '(') = false) :
    ((placeSetting (w :: ws) value).map Placed.read ++ rest).head?.any (·.isSign '(') = false := by
  cases value with
  | none => exact h
  | some v =>
    rw [placeSetting]
    split
    · exact h
    · simpa [Placed.read, wordToken, Token.isSign] using hw

theorem readElement_column {c : Column} (hc : c.isReadable) (hlifted : Lifted c.options)
    (hstable : c.options.all Part.isStable)
    (hfaithful : ∀ t, .token t ∈ c.options → t.IsFaithful) (gap : Text) :
    readElement ((c.place gap).map Placed.read) = .ok (.column c.written) := by
  simp only [Column.isReadable, Bool.and_eq_true, Bool.not_eq_true', beq_iff_eq, bne_iff_ne] at hc
  obtain ⟨⟨⟨⟨⟨⟨⟨hname, hword⟩, htype⟩, hargs⟩, hbare⟩, hcharset⟩, hcollation⟩, hoptions⟩ := hc
  have hencoding := extractEncoding_placeSettings hcharset hcollation hoptions
  have hlift : liftReferences c.optionTokens = c.written.options :=
    liftReferences_placeParts hlifted hstable hfaithful
  have hwritten : ∀ b : Bool, columnOf { c.name.token with spaced := b } (wordToken c.dataType)
      c.written.typeArgs ((placeSetting ["CHARACTER", "SET"] c.charset).map Placed.read ++
        ((placeSetting ["COLLATE"] c.collation).map Placed.read ++ c.optionTokens)) =
          c.written := by
    intro b
    rw [columnOf, hencoding, hlift, htype, Identifier.identifier_token hname]
    rfl
  have htokens : (c.place gap).map Placed.read =
      { c.name.token with spaced := !gap.isEmpty } :: wordToken c.dataType ::
        ((placeArguments c.typeArgs).map Placed.read ++
          ((placeSetting ["CHARACTER", "SET"] c.charset).map Placed.read ++
            ((placeSetting ["COLLATE"] c.collation).map Placed.read ++ c.optionTokens))) := by
    simp [Column.place, Placed.read, wordToken, Column.optionTokens]
  have hconstraint : ¬ (Token.isWord { c.name.token with spaced := !gap.isEmpty } "CONSTRAINT" ||
      constraintWords.contains (Token.word { c.name.token with spaced := !gap.isEmpty })) := by
    exact Bool.eq_false_iff.mp hword
  rw [htokens, readElement, if_neg hconstraint]
  suffices hcolumn : readColumn { c.name.token with spaced := !gap.isEmpty }
      (wordToken c.dataType :: ((placeArguments c.typeArgs).map Placed.read ++
        ((placeSetting ["CHARACTER", "SET"] c.charset).map Placed.read ++
          ((placeSetting ["COLLATE"] c.collation).map Placed.read ++ c.optionTokens)))) =
        .ok c.written by
    rw [hcolumn]
    rfl
  rw [placeArguments]
  by_cases hnone : c.typeArgs.isEmpty
  · have hargs' : c.written.typeArgs = [] := by
      simp [Column.written, Column.mapTokens, Column.respaced, List.isEmpty_iff.mp hnone,
        respaceTokens]
    rw [if_pos hnone, ← hwritten, hargs']
    refine readColumn_bare _ _ ?_
    refine head?_placeSetting (by decide) _ _ (head?_placeSetting (by decide) _ _ ?_)
    simpa [hnone] using hbare
  · have hargs' : (placeTokens [] c.typeArgs).map Placed.read = c.written.typeArgs :=
      read_placeTokens [] c.typeArgs
    rw [if_neg hnone, List.map_cons, List.map_append, List.cons_append, List.append_assoc, hargs',
      ← hwritten]
    exact readColumn_args _ _ (hargs' ▸ hargs) rfl rfl

theorem readElement_constraint {c : Constraint} (h : (Element.constraint c).WellFormed)
    (hstable : c.parts.all Part.isStable) (hfaithful : ∀ t, .token t ∈ c.parts → t.IsFaithful)
    (gap : Text) : readElement ((placeParts gap c.parts).map Placed.read) =
      .ok (.constraint ⟨writtenParts gap c.parts⟩) := by
  obtain ⟨hlifted, t, ps, hparts, hword⟩ := h
  have hlift : liftReferences ((placeParts gap c.parts).map Placed.read) =
      writtenParts gap c.parts := liftReferences_placeParts hlifted hstable hfaithful
  have ht := (hfaithful t (by simp [hparts])).word
  have htokens : (placeParts gap c.parts).map Placed.read =
      { t.written with spaced := !gap.isEmpty } :: (placeRest ps).map Placed.read := by
    rw [hparts]
    rfl
  have hconstraint : Token.isWord { t.written with spaced := !gap.isEmpty } "CONSTRAINT" ||
      constraintWords.contains (Token.word { t.written with spaced := !gap.isEmpty }) := by
    rw [← ht] at hword
    exact hword
  rw [htokens] at hlift ⊢
  rw [readElement, if_pos hconstraint, hlift]

namespace Element

/-- The tokens of an element in a table. -/
def tokens (e : Element) : List Token := (e.place "\n  ").map Placed.read

/-- Whether nothing in an element reads as another part of it. -/
def isReadable (e : Element) : Bool :=
  e.column?.all Column.isReadable && e.parts.all Part.isStable && isElement e.tokens

/-- An element as it is written. -/
def written (e : Element) : Element := (e.mapTokens Token.written).respaced

end Element

/-- An element is read back from its tokens. -/
theorem readElement_tokens {e : Element} (h : e.WellFormed) (he : e.isReadable)
    (hfaithful : ∀ t, .token t ∈ e.parts → t.IsFaithful) :
    readElement e.tokens = .ok e.written := by
  simp only [Element.isReadable, Bool.and_eq_true] at he
  obtain ⟨⟨hcolumn, hstable⟩, -⟩ := he
  cases e with
  | column c => exact readElement_column hcolumn h hstable hfaithful _
  | constraint c => exact readElement_constraint h hstable hfaithful _

theorem read_placeElements (es : List Element) :
    (placeElements es).map Placed.read = joinElements (es.map Element.tokens) := by
  cases es with
  | nil => rfl
  | cons e es =>
    simp [placeElements, joinElements, Element.tokens, List.map_flatMap, List.flatMap_map,
      Placed.read]

/-- All elements are read back from their tokens. -/
theorem mapM_readElement_tokens {es : List Element} (h : ∀ e ∈ es, e.WellFormed)
    (hes : es.all Element.isReadable)
    (hfaithful : ∀ e ∈ es, ∀ t, .token t ∈ e.parts → t.IsFaithful) :
    (es.map Element.tokens).mapM readElement = .ok (es.map Element.written) := by
  induction es with
  | nil => rfl
  | cons e es ih =>
    rw [List.all_cons, Bool.and_eq_true] at hes
    obtain ⟨he, hrest⟩ := List.forall_mem_cons.mp h
    obtain ⟨hfe, hfrest⟩ := List.forall_mem_cons.mp hfaithful
    rw [List.map_cons, List.mapM_cons, readElement_tokens he hes.1 hfe, ih hrest hes.2 hfrest]
    rfl

end SchemaMill.Sql
