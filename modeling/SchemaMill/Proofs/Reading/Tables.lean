import SchemaMill.Proofs.Reading.Elements
import SchemaMill.Proofs.Reading.Naming

/-!
# Reading tables back

A table that was read is read back from its own text, if its text is legible (`Table.isLegible`):
each token is told apart from the text around it, and nothing in the table reads as another part of
it. What is read has the same text and the same summary (`readTable_render_of_wellFormed`).
-/

namespace SchemaMill.Sql

namespace Table

/-- The tokens of the table options. -/
def optionTokens (t : Table) : List Token := (placeTokens [' '] t.options).map Placed.read

/-- Whether nothing in a table reads as another part of it: the name as a word in front of it, an
element as a part of another, the options as a part of the name or of the body, the end as the
terminator of the statement. -/
def isReadable (t : Table) : Bool :=
  t.name.isStable && !(t.name.parts.head?.any fun i => headWords.contains i.token.word) &&
    (t.elements.getD []).all Element.isReadable &&
    staysOpen 0 t.optionTokens && !((t.place.map Placed.read).getLast?.any (·.isSign ';')) &&
    (t.elements.isSome || (!(t.optionTokens.head?.any (·.isSign '(')) &&
      readDotted t.optionTokens == ([], t.optionTokens)))

/-- Whether the text of a table is legible. -/
def isLegible (t : Table) : Bool := allApart none t.place && t.isReadable

/-- A table as it is written. -/
def written (t : Table) : Table := (t.mapTokens Token.written).respaced

end Table

/-! ### The tokens of a table -/

theorem exists_isApart {before : Option Char} {ps : List Placed} (h : allApart before ps)
    {p : Placed} (hp : p ∈ ps) : ∃ before rest, isApart before rest p.token := by
  induction ps generalizing before with
  | nil => cases hp
  | cons q ps ih =>
    simp only [allApart, Bool.and_eq_true] at h
    rcases List.mem_cons.mp hp with rfl | hp
    · exact ⟨_, _, h.1.2⟩
    · exact ih h.2 hp

theorem exists_mem_placeParts (gap : Text) {ps : List Part} {t : Token} (h : .token t ∈ ps) :
    ∃ g, ⟨g, t.written⟩ ∈ placeParts gap ps := by
  cases ps with
  | nil => cases h
  | cons p ps =>
    rw [placeParts]
    rcases List.mem_cons.mp h with rfl | h
    · exact ⟨gap, by simp [Part.place]⟩
    · refine ⟨Part.gap (.token t), List.mem_append_right _ (List.mem_flatMap.mpr ⟨_, h, ?_⟩)⟩
      exact List.mem_singleton_self _

theorem exists_mem_place {e : Element} {t : Token} (h : .token t ∈ e.parts) (gap : Text) :
    ∃ g, ⟨g, t.written⟩ ∈ e.place gap := by
  cases e with
  | column c =>
    obtain ⟨g, hg⟩ := exists_mem_placeParts [' '] h
    refine ⟨g, ?_⟩
    rw [Element.place, Column.place]
    simp only [List.mem_cons, List.mem_append]
    exact .inr (.inr (.inr (.inr (.inr hg))))
  | constraint c => exact exists_mem_placeParts gap h

theorem mem_placeElements {es : List Element} {e : Element} (he : e ∈ es) {p : Placed}
    (hp : p ∈ e.place "\n  ") : p ∈ placeElements es := by
  cases es with
  | nil => cases he
  | cons e' es =>
    rw [placeElements]
    rcases List.mem_cons.mp he with rfl | he
    · exact List.mem_append_left _ hp
    · exact List.mem_append_right _ (List.mem_flatMap.mpr ⟨e, he, List.mem_cons_of_mem _ hp⟩)

/-- The tokens of a legible table mean the same when they are written. -/
theorem isFaithful_of_allApart {t : Table} (h : allApart none t.place) :
    (∀ u ∈ t.head, u.IsFaithful) ∧
      ∀ es ∈ t.elements, ∀ e ∈ es, ∀ u, .token u ∈ e.parts → u.IsFaithful := by
  have hfaithful : ∀ {g : Text} {u : Token}, ⟨g, u.written⟩ ∈ t.place → u.IsFaithful := by
    intro g u hu
    obtain ⟨before, rest, hapart⟩ := exists_isApart h hu
    exact Token.isFaithful_of_isApart hapart
  constructor
  · intro u hu
    have hmem : Part.token u ∈ t.head.map Part.token ++ [Part.name t.name] := by simp [hu]
    obtain ⟨g, hg⟩ := exists_mem_placeParts [] hmem
    exact hfaithful (List.mem_append_left _ hg)
  · intro es hes e he u hu
    obtain ⟨g, hg⟩ := exists_mem_place hu "\n  "
    have hplace := mem_placeElements he hg
    refine hfaithful (g := g) ?_
    rw [Table.place, Option.mem_def.mp hes]
    simp [hplace]

theorem read_placeHead {t : Table} (h : t.head ≠ []) :
    t.placeHead.map Placed.read = t.written.head ++ nameTokens t.name := by
  obtain ⟨u, us, hhead⟩ := List.exists_cons_of_ne_nil h
  have hparts : writtenParts [] (t.head.map .token ++ [.name t.name]) =
      t.written.head.map .token ++ [.name t.name] := by
    rw [writtenParts, List.map_append, map_mapToken_token, Table.written, Table.mapTokens,
      Table.respaced, map_token_respaceTokens, hhead]
    rfl
  rw [Table.placeHead, read_placeParts, hparts, List.flatMap_append, flatMap_tokens]
  simp [Part.tokens]

/-- What follows the table name. -/
def Table.bodyTokens (t : Table) : List Token :=
  match t.elements with
  | none => t.optionTokens
  | some es => mark '(' :: (joinElements (es.map Element.tokens) ++ mark ')' :: t.optionTokens)

theorem read_place {t : Table} (h : t.head ≠ []) :
    t.place.map Placed.read = t.written.head ++ (nameTokens t.name ++ t.bodyTokens) := by
  rw [Table.place, List.map_append, List.map_append, read_placeHead h, Table.bodyTokens,
    List.append_assoc]
  cases t.elements with
  | none => rfl
  | some es =>
    rw [List.map_cons, List.map_append, read_placeElements]
    simp [Table.optionTokens, Placed.read, mark]

/-! ### Reading the tokens -/

theorem dropTerminators_of_getLast? {ts : List Token}
    (h : ts.getLast?.any (·.isSign ';') = false) : dropTerminators ts = ts := by
  rw [dropTerminators, List.reverse_eq_iff]
  rw [← List.head?_reverse] at h
  cases hts : ts.reverse with
  | nil => rfl
  | cons t us =>
    rw [hts] at h
    rw [List.dropWhile_cons, if_neg (by simpa using h)]

theorem readBody_bodyTokens {t : Table} (hform : t.WellFormed) (h : t.isReadable)
    (hfaithful : ∀ es ∈ t.elements, ∀ e ∈ es, ∀ u, .token u ∈ e.parts → u.IsFaithful) :
    readBody t.written.head t.name t.bodyTokens = .ok t.written := by
  have hoptions : t.optionTokens = t.written.options := read_placeTokens [' '] t.options
  have hwritten : t.written = ⟨t.written.head, t.name, t.elements.map (·.map Element.written),
      t.optionTokens⟩ := by
    rw [hoptions]
    simp [Table.written, Table.mapTokens, Table.respaced, Function.comp_def,
      show Element.written = fun e => (e.mapTokens Token.written).respaced from rfl]
  simp only [Table.isReadable, Bool.and_eq_true, Bool.not_eq_true', Bool.or_eq_true] at h
  obtain ⟨⟨⟨⟨-, hreadable⟩, hopen⟩, -⟩, hbody⟩ := h
  rw [Table.bodyTokens]
  cases helements : t.elements with
  | none =>
    rw [helements] at hwritten hbody
    have hparen := (hbody.resolve_left (by simp)).1
    simp only
    cases htokens : t.optionTokens with
    | nil => rw [hwritten, htokens]; rfl
    | cons u us =>
      rw [htokens] at hparen hopen
      simp only [readBody]
      rw [if_neg (by simpa using hparen), if_pos hopen, hwritten, htokens]
      rfl
  | some es =>
    rw [helements] at hwritten
    have hes : es ≠ [] := by rintro rfl; exact hform.nonempty helements
    have hall : es.all Element.isReadable := by simpa [helements] using hreadable
    have hsplit : (es.map Element.tokens).all isElement := by
      rw [List.all_map, List.all_eq_true]
      intro e he
      have := List.all_eq_true.mp hall e he
      simp only [Element.isReadable, Bool.and_eq_true] at this
      exact this.2
    obtain ⟨hbalanced, hjoin⟩ := splitElements_joinElements (by simpa using hes) hsplit
    have hread :=
      mapM_readElement_tokens (hform.elements es helements) hall (hfaithful es helements)
    obtain ⟨e, es, rfl⟩ := List.exists_cons_of_ne_nil hes
    simp only [readBody]
    rw [if_pos (show (mark '(').isSign '(' from rfl), closeGroup_of_isBalanced hbalanced rfl]
    simp only [hjoin]
    rw [List.map_cons] at hread ⊢
    simp only [hread]
    rw [hwritten]
    exact if_pos hopen

/-- The words up to the table name are the same words when they are written. -/
theorem map_word_written_head {t : Table} (h : ∀ u ∈ t.head, u.IsFaithful) :
    t.written.head.map Token.word = t.head.map Token.word := by
  have hrespaced : ∀ (b : Bool) (ts : List Token),
      (respaceTokens b ts).map Token.word = ts.map Token.word := by
    intro b ts
    cases ts <;> rfl
  rw [Table.written, Table.respaced, hrespaced]
  simpa [Table.mapTokens] using fun u hu => (h u hu).word

/-- The words up to the table name end where the name begins. -/
theorem takeWhile_headWords {head ts : List Token} (hhead : head.all (headWords.contains ·.word))
    (hts : ts.head?.any (headWords.contains ·.word) = false) :
    (head ++ ts).takeWhile (headWords.contains ·.word) = head ∧
      (head ++ ts).dropWhile (headWords.contains ·.word) = ts := by
  induction head with
  | nil =>
    cases ts with
    | nil => exact ⟨rfl, rfl⟩
    | cons u us =>
      have hu : headWords.contains u.word = false := by simpa using hts
      simp only [List.nil_append, List.takeWhile_cons, List.dropWhile_cons, hu]
      exact ⟨rfl, rfl⟩
  | cons u us ih =>
    rw [List.all_cons, Bool.and_eq_true] at hhead
    obtain ⟨htake, hdrop⟩ := ih hhead.2
    rw [List.cons_append, List.takeWhile_cons, List.dropWhile_cons, if_pos hhead.1, if_pos hhead.1,
      htake, hdrop]
    exact ⟨rfl, rfl⟩

theorem readDotted_bodyTokens {t : Table}
    (h : t.elements.isSome || readDotted t.optionTokens == ([], t.optionTokens)) :
    readDotted t.bodyTokens = ([], t.bodyTokens) := by
  rw [Table.bodyTokens]
  cases helements : t.elements with
  | none => simpa [helements] using h
  | some es =>
    dsimp only
    generalize joinElements (es.map Element.tokens) ++ mark ')' :: t.optionTokens = ts
    cases ts <;> rfl

theorem readTokens_place {t : Table} (hform : t.WellFormed) (h : t.isLegible) :
    readTokens (t.place.map Placed.read) = .ok t.written := by
  rw [Table.isLegible, Bool.and_eq_true] at h
  obtain ⟨happart, hreadable⟩ := h
  obtain ⟨hhead, helements⟩ := isFaithful_of_allApart happart
  have hbody := readBody_bodyTokens hform hreadable helements
  simp only [Table.isReadable, Bool.and_eq_true, Bool.not_eq_true', Bool.or_eq_true] at hreadable
  obtain ⟨⟨⟨⟨⟨hstable, hname⟩, -⟩, -⟩, hlast⟩, hdotted⟩ := hreadable
  have hread : readName (nameTokens t.name ++ t.bodyTokens) = some (t.name, t.bodyTokens) := by
    refine readName_nameTokens hstable (readDotted_bodyTokens ?_)
    rw [Bool.or_eq_true]
    exact hdotted.imp_right And.right
  -- The words up to the name are only looked at as words, and these are the same when written.
  have hwords := map_word_written_head hhead
  have hcreate : (t.written.head ++ (nameTokens t.name ++ t.bodyTokens)).head?.any
      (·.isWord "CREATE") := by
    have hcreate := hform.create
    cases hcons : t.head with
    | nil => simp [hcons] at hcreate
    | cons u us =>
      obtain ⟨v, vs, hv, hword, -⟩ := List.map_eq_cons_iff.mp (hwords.trans (congrArg _ hcons))
      rw [hcons] at hcreate
      rw [hv, List.cons_append, List.head?_cons, Option.any_some, Token.isWord, hword]
      exact hcreate
  have htable : t.written.head.any (·.isWord "TABLE") := by
    have := congrArg (List.any · (· == "TABLE".toList)) hwords
    simp only [List.any_map, Function.comp_def] at this
    exact this.trans hform.table
  have hall : t.written.head.all (headWords.contains ·.word) := by
    have := congrArg (List.all · (headWords.contains ·)) hwords
    simp only [List.all_map, Function.comp_def] at this
    exact this.trans hform.words
  have hstop :
      (nameTokens t.name ++ t.bodyTokens).head?.any (headWords.contains ·.word) = false := by
    obtain ⟨i, is, hparts⟩ := t.name.exists_parts
    rw [hparts] at hname
    rw [nameTokens, hparts]
    exact hname
  obtain ⟨htake, hdrop⟩ := takeWhile_headWords hall hstop
  have hne : t.head ≠ [] := by
    intro hnil
    simpa [hnil] using hform.table
  rw [readTokens, dropTerminators_of_getLast? hlast, read_place hne]
  simp only [hcreate, htake, hdrop, htable, hread]
  exact hbody

/-- A table in the form of one that was read is read back from its text if that is legible. -/
theorem readTable_render_of_wellFormed {t : Table} (hform : t.WellFormed) (h : t.isLegible) :
    ∃ t', readTable (t.render .mysql) = .ok t' ∧ t.Alike t' := by
  have hparts : ∀ es ∈ t.elements, es ≠ [] ∧ ∀ c, .constraint c ∈ es → c.parts ≠ [] := by
    intro es hes
    refine ⟨?_, fun c hc => ?_⟩
    · rintro rfl
      exact hform.nonempty hes
    · obtain ⟨-, u, ps, hparts, -⟩ := hform.elements es hes _ hc
      simp [hparts]
  have hlegible := h
  rw [Table.isLegible, Bool.and_eq_true] at h
  obtain ⟨us, hus, hnames⟩ := tokenize_spell h.1
  -- Only words may be read in another way than they are placed, as keywords or as names.
  have hread : (readTokens us).map (Table.mapTokens Token.asName) =
      .ok (t.written.mapTokens Token.asName) := by
    have hplaced := readTokens_asName (t.place.map Placed.read)
    rw [readTokens_place hform hlegible, List.map_map] at hplaced
    rw [← readTokens_asName, hnames]
    exact hplaced
  rw [spell_place hparts] at hus
  rw [readTable, hus]
  cases ht' : readTokens us with
  | error e => rw [ht'] at hread; cases hread
  | ok t' =>
    rw [ht'] at hread
    have halike := Table.alike_mapTokens (f := Token.asName) (fun u => u.asName_render .mysql)
      Token.asName_spaced
    have hwritten := Table.alike_mapTokens (f := Token.written) Token.written_render fun _ => rfl
    refine ⟨t', ht', ?_⟩
    refine ((hwritten t).trans (Table.alike_respaced _)).trans ((halike t.written).trans ?_)
    rw [← Except.ok.inj hread]
    exact (halike t').symm

end SchemaMill.Sql
