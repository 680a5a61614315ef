import SchemaMill.Proofs.Reading.Form
import SchemaMill.Proofs.Reading.Mapping
import SchemaMill.Proofs.Reading.Placement

/-!
# Reading clauses back

A token that is told apart keeps its keyword and its sign when it is written
(`Token.isFaithful_of_isApart`), so a clause keeps its form, and the names in it are lifted out of
its tokens again (`liftReferences_tokens`).
-/

namespace SchemaMill.Sql

/-! ### Tokens -/

/-- The signs that reading looks for. -/
def readSigns : List Char := ['(', ')', ',', ';', '.']

/-- The token that is written means the same to the reading. -/
structure Token.IsFaithful (t : Token) : Prop where
  word : t.written.word = t.word
  isSign : ∀ c ∈ readSigns, t.written.isSign c = t.isSign c

theorem exists_collapseBlanks_cons {c : Char} (hc : isBlank c = false) (v : Text) :
    ∃ w, collapseBlanks (c :: v) = c :: w := by
  obtain ⟨part, parts, hsplit⟩ := List.exists_cons_of_ne_nil (splitWhere_ne_nil isBlank v)
  have hwords : words (c :: v) = (c :: part) :: parts.filter (!·.isEmpty) := by
    rw [words, splitWhere, if_neg (by simp [hc]), hsplit]
    rfl
  rw [collapseBlanks, hwords, joinWith_cons]
  exact ⟨_, rfl⟩

theorem opensQuoted_collapseBlanks {v : Text} (h : opensQuoted v) :
    opensQuoted (collapseBlanks v) := by
  cases v with
  | nil => cases h
  | cons c v =>
    have hc : isBlank c = false := by
      rw [Bool.eq_false_iff]
      intro hblank
      have hquotes : ∀ n ∈ blankCodes, opensQuoted [Char.ofNat n] = false := by decide
      have hquote := hquotes _ (isBlank_iff.mp hblank)
      rw [Char.ofNat_toNat] at hquote
      rw [show opensQuoted (c :: v) = opensQuoted [c] from rfl, hquote] at h
      cases h
    obtain ⟨w, hw⟩ := exists_collapseBlanks_cons hc v
    rw [hw]
    exact h

theorem Token.written_of_render {t : Token} (h : t.render .mysql = t.value) : t.written = t := by
  rw [written, h]

theorem Token.written_of_isSign {t : Token} {c : Char} (hc : c ∈ readSigns) (h : t.isSign c) :
    t.written = t := by
  have hsigns : ∀ c ∈ readSigns, opensQuoted [c] = false ∧ collapseBlanks [c] = [c] := by decide
  obtain ⟨hquote, hcollapse⟩ := hsigns c hc
  have hvalue : t.value = [c] := by simpa [isSign] using h
  exact written_of_render (by simp [render, hvalue, hquote, hcollapse])

theorem not_isSign_of_value {t : Token} {d : Char} {u : Text} (hvalue : t.value = d :: u)
    (hd : isWordChar d ∨ d = '\x60') {c : Char} (hc : c ∈ readSigns) : t.isSign c = false := by
  have hsigns : ∀ c ∈ readSigns, ¬ (isWordChar c ∨ c = '\x60') := by decide
  rw [Token.isSign, hvalue, beq_eq_false_iff_ne]
  intro heq
  cases heq
  exact hsigns _ hc hd

theorem Identifier.ofText_of_not_quoted {v : Text} (h : (ofText v).quoted = false) :
    (ofText v).name = v := by
  unfold ofText at h ⊢
  split at h
  · rfl
  · split at h
    · rfl
    · split at h
      · cases h
      · next hlast => simp [hlast]

/-- Quotes of either dialect are taken off again as they were put on. -/
theorem Identifier.ofText_render {i : Identifier} (h : i.quoted) (d : Dialect) :
    ofText (i.render d) = i := by
  obtain ⟨name, quoted⟩ := i
  obtain rfl : quoted = true := h
  have hlast (q : Char) : (q :: (double q name ++ [q])).getLast? = some q := by
    simp [List.getLast?_cons]
  cases d <;>
    simp [render, ofText, closingQuote?, hlast, undouble_double, Dialect.identifierQuote]

/-- Only quoted names and keywords are written in another way than they are. -/
theorem Token.written_cases (t : Token) : t.written = t ∨
    (t.kind = .name ∧ opensQuoted t.value ∧
      t.render .mysql = '\x60' :: (double '\x60' t.identifier.name ++ ['\x60'])) ∨
    t.kind = .keyword ∧ t.render .mysql = collapseBlanks t.value := by
  by_cases hname : t.kind = .name ∧ opensQuoted t.value
  · have hrender : t.render .mysql = t.identifier.render .mysql := by simp [render, hname]
    by_cases hquoted : t.identifier.quoted
    · refine .inr (.inl ⟨hname.1, hname.2, ?_⟩)
      rw [hrender, Identifier.render, if_pos hquoted]
      rfl
    · refine .inl (written_of_render ?_)
      rw [hrender, Identifier.render, if_neg hquoted]
      exact Identifier.ofText_of_not_quoted (Bool.eq_false_iff.mpr hquoted)
  · by_cases hkey : t.kind = .keyword
    · exact .inr (.inr ⟨hkey, by simp [render, hkey]⟩)
    · exact .inl (written_of_render (by simp [render, hname, hkey]))

theorem Token.written_render (t : Token) : t.written.render .mysql = t.render .mysql := by
  rcases t.written_cases with heq | ⟨hname, -, hvalue⟩ | ⟨hkey, hvalue⟩
  · rw [heq]
  · -- the name in its quotes is read as the same name
    have hrender : t.render .mysql = Identifier.render .mysql ⟨t.identifier.name, true⟩ := hvalue
    rw [render, written, if_pos ⟨hname, by rw [hvalue]; rfl⟩, identifier, hrender,
      Identifier.ofText_render rfl]
  · have hcollapse : collapseBlanks (collapseBlanks t.value) = collapseBlanks t.value := by
      rw [collapseBlanks, words_collapseBlanks, ← collapseBlanks]
    simp [render, written, hkey, hcollapse]

/-- A token that is told apart is written so that it means the same. -/
theorem Token.isFaithful_of_isApart {before : Option Char} {rest : Text} {t : Token}
    (h : isApart before rest t.written) : t.IsFaithful := by
  suffices hfaithful : t.written.word = t.word ∧ (t.written = t ∨
      ∃ d u, t.written.value = d :: u ∧ (isWordChar d ∨ d = '\x60')) by
    obtain ⟨hword, hvalue⟩ := hfaithful
    refine ⟨hword, fun c hc => ?_⟩
    rcases hvalue with heq | ⟨d, u, hvalue, hd⟩
    · rw [heq]
    · rw [not_isSign_of_value hvalue hd hc, eq_comm, Bool.eq_false_iff]
      intro hsign
      rw [← written_of_isSign hc hsign, not_isSign_of_value hvalue hd hc] at hsign
      cases hsign
  rcases t.written_cases with heq | ⟨hname, hquote, hvalue⟩ | ⟨hkey, hvalue⟩
  · exact ⟨by rw [heq], .inl heq⟩
  · have hopens : ∀ u, opensQuoted ('\x60' :: u) := fun u => rfl
    exact ⟨by simp [word, written, hvalue, hopens, hname, hquote], .inr ⟨_, _, hvalue, .inr rfl⟩⟩
  · have hapart : isWordApart before rest (collapseBlanks t.value) := by
      simpa [isApart, written, hvalue, hkey] using h
    have hquote : opensQuoted t.value = false := by
      rw [Bool.eq_false_iff]
      intro hopens
      have hclosed := opensQuoted_of_isWordApart hapart
      rw [opensQuoted_collapseBlanks hopens] at hclosed
      cases hclosed
    obtain ⟨d, u, hcons, hd⟩ := exists_cons_of_isWordApart hapart
    refine ⟨?_, .inr ⟨d, u, hvalue.trans hcons, .inl hd⟩⟩
    simp [word, written, hvalue, hquote, opensQuoted_of_isWordApart hapart,
      collapseBlanks_upperCase, hkey]

/-! ### Names -/

/-- Whether an identifier is read as it is. -/
def Identifier.isStable (i : Identifier) : Bool := ofText (i.render .mysql) == i

/-- Whether all identifiers of a dotted name are read as they are. -/
def QualifiedName.isStable (q : QualifiedName) : Bool := q.parts.all Identifier.isStable

/-- The tokens of the further names of a dotted name. -/
def dottedTokens (is : List Identifier) : List Token :=
  is.flatMap fun i => [{ mark '.' with spaced := false }, { i.token with spaced := false }]

/-- The tokens of a dotted name. -/
def nameTokens (q : QualifiedName) : List Token :=
  match q.parts with
  | [] => []
  | i :: is => { i.token with spaced := q.spaced } :: dottedTokens is

theorem QualifiedName.exists_parts (q : QualifiedName) : ∃ i is, q.parts = i :: is :=
  List.exists_cons_of_ne_nil (by simp [parts])

theorem Identifier.identifier_token {i : Identifier} (h : i.isStable) (b : Bool) :
    Token.identifier { i.token with spaced := b } = i := beq_iff_eq.mp h

theorem readDotted_dottedTokens {is : List Identifier} (h : is.all Identifier.isStable)
    {rest : List Token} (hrest : readDotted rest = ([], rest)) :
    readDotted (dottedTokens is ++ rest) = (is, rest) := by
  induction is with
  | nil => exact hrest
  | cons i is ih =>
    rw [List.all_cons, Bool.and_eq_true] at h
    rw [dottedTokens, List.flatMap_cons, ← dottedTokens, List.append_assoc]
    simp only [List.cons_append, List.nil_append, readDotted, ih h.2,
      Identifier.identifier_token h.1]
    rfl

theorem readName_cons {t : Token} {ts rest : List Token} {is : List Identifier}
    {q : QualifiedName} (ht : t.isIdentifier) (hdotted : readDotted ts = (is, rest))
    (hparts : q.parts = t.identifier :: is) (hspaced : q.spaced = t.spaced) :
    readName (t :: ts) = some (q, rest) := by
  obtain ⟨qs, table, spaced⟩ := q
  rw [readName, if_pos ht]
  simp only [hdotted, ← hparts, ← hspaced]
  simp [QualifiedName.parts]

theorem readName_nameTokens {q : QualifiedName} (h : q.isStable) {rest : List Token}
    (hrest : readDotted rest = ([], rest)) : readName (nameTokens q ++ rest) = some (q, rest) := by
  obtain ⟨i, is, hparts⟩ := q.exists_parts
  rw [QualifiedName.isStable, hparts, List.all_cons, Bool.and_eq_true] at h
  rw [nameTokens, hparts]
  exact readName_cons rfl (readDotted_dottedTokens h.2 hrest)
    (by rw [hparts, Identifier.identifier_token h.1]) rfl

/-! ### Clauses -/

namespace Part

/-- The tokens of a part of a clause. -/
def tokens : Part → List Token
  | token t => [t]
  | name q => nameTokens q

/-- Whether a part is read as it is, if it is a name. -/
def isStable : Part → Bool
  | token _ => true
  | name q => q.isStable

end Part

theorem flatMap_tokens (ts : List Token) : (ts.map Part.token).flatMap Part.tokens = ts := by
  rw [List.flatMap_map]
  exact List.flatMap_singleton' ts

theorem beginsName_eq (ps : List Part) :
    beginsName ps = (ps.flatMap Part.tokens).head?.any (·.isIdentifier) := by
  match ps with
  | [] => rfl
  | .token t :: ps => rfl
  | .name q :: ps =>
    obtain ⟨i, is, hparts⟩ := q.exists_parts
    rw [List.flatMap_cons, Part.tokens, nameTokens, hparts]
    rfl

theorem readDotted_tokens {ps : List Part} (h : Lifted ps) (hnext : continuesName ps = false) :
    readDotted (ps.flatMap Part.tokens) = ([], ps.flatMap Part.tokens) := by
  have htoken : ∀ (t : Token) (ps : List Part), continuesName (.token t :: ps) = false →
      readDotted (t :: ps.flatMap Part.tokens) = ([], t :: ps.flatMap Part.tokens) := by
    intro t ps hnext
    rw [continuesName, beginsName_eq] at hnext
    cases hps : ps.flatMap Part.tokens with
    | nil => rfl
    | cons u us =>
      rw [hps] at hnext
      rw [readDotted, if_neg (by simpa using hnext)]
  cases h with
  | nil => rfl
  | token => exact htoken _ _ hnext
  | named => exact htoken _ _ hnext
  | bare => exact htoken _ _ hnext

/-- The names of a clause are lifted out of its tokens again. -/
theorem liftReferences_tokens {ps : List Part} (h : Lifted ps) (hps : ps.all Part.isStable) :
    liftReferences (ps.flatMap Part.tokens) = ps := by
  induction h with
  | nil => simp [liftReferences]
  | @token t ps h _ ih =>
    rw [List.all_cons, Bool.and_eq_true] at hps
    rw [List.flatMap_cons, Part.tokens, List.singleton_append, liftReferences, if_neg (by simp [h]),
      ih hps.2]
  | @named t q ps h hnext hlifted ih =>
    simp only [List.all_cons, Bool.and_eq_true] at hps
    have hname : readName (nameTokens q ++ ps.flatMap Part.tokens) =
        some (q, ps.flatMap Part.tokens) :=
      readName_nameTokens hps.2.1 (readDotted_tokens hlifted hnext)
    rw [List.flatMap_cons, List.flatMap_cons, Part.tokens, List.singleton_append, liftReferences,
      if_pos h, Part.tokens]
    split
    · next h' => rw [hname] at h'; cases h'; rw [ih hps.2.2]
    · next h' => rw [hname] at h'; cases h'
  | @bare t ps h hnext hlifted ih =>
    rw [List.all_cons, Bool.and_eq_true] at hps
    have hname : readName (ps.flatMap Part.tokens) = none := by
      rw [beginsName_eq] at hnext
      cases htokens : ps.flatMap Part.tokens with
      | nil => rfl
      | cons u us =>
        rw [htokens] at hnext
        rw [readName, if_neg (by simpa using hnext)]
    rw [List.flatMap_cons, Part.tokens, List.singleton_append, liftReferences, if_pos h]
    split
    · next h' => rw [hname] at h'; cases h'
    · rw [ih hps.2]

/-- A clause keeps its form when each token keeps what reading tells it by. -/
theorem Lifted.mapToken {f : Token → Token} {ps : List Part} (h : Lifted ps)
    (hf : ∀ t, .token t ∈ ps → (f t).word = t.word ∧ (f t).isSign '.' = t.isSign '.' ∧
      (f t).isIdentifier = t.isIdentifier) : Lifted (ps.map (Part.mapToken f)) := by
  have hbegins : ∀ {ps : List Part}, (∀ t, .token t ∈ ps → (f t).isIdentifier = t.isIdentifier) →
      beginsName (ps.map (Part.mapToken f)) = beginsName ps := by
    rintro (- | ⟨t | q, ps⟩) hf
    · rfl
    · exact hf t List.mem_cons_self
    · rfl
  have hcontinues : ∀ {ps : List Part}, (∀ t, .token t ∈ ps →
      (f t).isSign '.' = t.isSign '.' ∧ (f t).isIdentifier = t.isIdentifier) →
        continuesName (ps.map (Part.mapToken f)) = continuesName ps := by
    rintro (- | ⟨t | q, ps⟩) hf
    · rfl
    · rw [List.map_cons, Part.mapToken, continuesName, continuesName, (hf t List.mem_cons_self).1,
        hbegins fun u hu => (hf u (List.mem_cons_of_mem _ hu)).2]
    · rfl
  have hword : ∀ {t}, (f t).word = t.word → (f t).isWord "REFERENCES" = t.isWord "REFERENCES" :=
    fun h => by rw [Token.isWord, h, Token.isWord]
  induction h with
  | nil => exact .nil
  | token h _ ih =>
    have ht := hf _ List.mem_cons_self
    exact .token (by rwa [hword ht.1]) (ih fun u hu => hf u (List.mem_cons_of_mem _ hu))
  | named h hnext _ ih =>
    have ht := hf _ List.mem_cons_self
    have hps := fun u hu => hf u (List.mem_cons_of_mem _ (List.mem_cons_of_mem _ hu))
    exact .named (by rwa [hword ht.1]) (by rwa [hcontinues fun u hu => (hps u hu).2]) (ih hps)
  | bare h hnext _ ih =>
    have ht := hf _ List.mem_cons_self
    have hps := fun u hu => hf u (List.mem_cons_of_mem _ hu)
    exact .bare (by rwa [hword ht.1]) (by rwa [hbegins fun u hu => (hps u hu).2.2]) (ih hps)

theorem Lifted.respaceParts {ps : List Part} (h : Lifted ps) (b : Bool) :
    Lifted (respaceParts b ps) := by
  cases h with
  | nil => exact .nil
  | token h hps => exact .token h hps
  | named h hnext hps => exact .named h hnext hps
  | bare h hnext hps => exact .bare h hnext hps

/-! ### Clauses in their layout -/

/-- A clause as it is written behind a gap. -/
def writtenParts (gap : Text) (ps : List Part) : List Part :=
  respaceParts (!gap.isEmpty) (ps.map (Part.mapToken Token.written))

theorem read_placeDotted (is : List Identifier) :
    (placeDotted is).map Placed.read = dottedTokens is := by
  simp [placeDotted, dottedTokens, List.map_flatMap, Placed.read]

theorem read_part (gap : Text) (p : Part) : (p.place gap).map Placed.read =
    ((p.mapToken Token.written).respaced (!gap.isEmpty)).tokens := by
  cases p with
  | token t => rfl
  | name q =>
    obtain ⟨i, is, hparts⟩ := q.exists_parts
    simp only [Part.place, placeName, Part.mapToken, Part.respaced, Part.tokens, nameTokens,
      show QualifiedName.parts { q with spaced := !gap.isEmpty } = i :: is from hparts, hparts,
      List.map_cons, read_placeDotted, Placed.read]

theorem read_placeRest (ps : List Part) : (placeRest ps).map Placed.read =
    (ps.map (Part.mapToken Token.written)).flatMap Part.tokens := by
  have hspaced : ∀ p : Part, (p.mapToken Token.written).respaced (!p.gap.isEmpty) =
      p.mapToken Token.written := by
    intro p
    have hgap : (!p.gap.isEmpty) = p.spaced := by
      rw [Part.gap]
      cases p.spaced <;> rfl
    rw [hgap]
    cases p <;> rfl
  rw [placeRest, List.map_flatMap, List.flatMap_map]
  simp only [read_part, hspaced]

theorem read_placeParts (gap : Text) (ps : List Part) :
    (placeParts gap ps).map Placed.read = (writtenParts gap ps).flatMap Part.tokens := by
  cases ps with
  | nil => rfl
  | cons p ps => rw [placeParts, List.map_append, read_part, read_placeRest]; rfl

theorem read_placeTokens (gap : Text) (ts : List Token) :
    (placeTokens gap ts).map Placed.read =
      respaceTokens (!gap.isEmpty) (ts.map Token.written) := by
  rw [placeTokens, read_placeParts, writtenParts, map_mapToken_token, ← map_token_respaceTokens,
    flatMap_tokens]

/-- A clause that is told apart is read as it is written. -/
theorem liftReferences_placeParts {gap : Text} {ps : List Part} (h : Lifted ps)
    (hps : ps.all Part.isStable) (hfaithful : ∀ t, .token t ∈ ps → t.IsFaithful) :
    liftReferences ((placeParts gap ps).map Placed.read) = writtenParts gap ps := by
  have hlifted : Lifted (writtenParts gap ps) := by
    refine (h.mapToken fun t ht => ?_).respaceParts _
    exact ⟨(hfaithful t ht).word, (hfaithful t ht).isSign '.' (by decide), rfl⟩
  refine read_placeParts gap ps ▸ liftReferences_tokens hlifted ?_
  have hrespaced : ∀ (b : Bool) (p : Part), (p.respaced b).isStable = p.isStable := by
    rintro b (t | q) <;> rfl
  have hwritten : ∀ p : Part, (p.mapToken Token.written).isStable = p.isStable := by
    rintro (t | q) <;> rfl
  cases ps with
  | nil => rfl
  | cons p ps =>
    rw [List.all_cons, Bool.and_eq_true] at hps
    simp only [writtenParts, List.map_cons, respaceParts, List.all_cons, List.all_map,
      Function.comp_def, hrespaced, hwritten, hps.1, Bool.true_and]
    exact hps.2

end SchemaMill.Sql
