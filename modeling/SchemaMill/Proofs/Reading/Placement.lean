import SchemaMill.Proofs.Lexing.Layout
import SchemaMill.Sql.Printer

/-!
# Layouts of table definitions

What MySQL's text of a table definition consists of, token by token: `Table.place` is the layout of
a table, and its text is the text of the table (`spell_place`).
-/

namespace SchemaMill.Sql

/-- A token as it is written. -/
def Token.written (t : Token) : Token := { t with value := t.render .mysql }

/-- The token of a name. -/
def Identifier.token (i : Identifier) : Token := ⟨.name, i.render .mysql, true⟩

/-- A punctuation mark as a token. -/
def mark (c : Char) : Token := ⟨.punctuation, [c], true⟩

/-- A word as a token. -/
def wordToken (w : Text) : Token := ⟨.name, w, true⟩

/-- The value of a setting as a token: a text in quotes or a word. -/
def valueToken (v : Text) : Token := ⟨if v.head? = some '\'' then .text else .name, v, true⟩

/-- The layout of the further names of a dotted name. -/
def placeDotted (is : List Identifier) : List Placed :=
  is.flatMap fun i => [⟨[], mark '.'⟩, ⟨[], i.token⟩]

/-- The layout of a dotted name. -/
def placeName (gap : Text) (q : QualifiedName) : List Placed :=
  match q.parts with
  | [] => []
  | i :: is => ⟨gap, i.token⟩ :: placeDotted is

namespace Part

/-- The layout of a part of a clause. -/
def place (gap : Text) : Part → List Placed
  | token t => [⟨gap, t.written⟩]
  | name q => placeName gap q

/-- The blanks in front of a part behind others. -/
def gap (p : Part) : Text := if p.spaced then [' '] else []

end Part

/-- The layout of the parts after the first one. -/
def placeRest (ps : List Part) : List Placed := ps.flatMap fun p => p.place p.gap

/-- The layout of a clause. -/
def placeParts (gap : Text) : List Part → List Placed
  | [] => []
  | p :: ps => p.place gap ++ placeRest ps

/-- The layout of a clause of tokens. -/
def placeTokens (gap : Text) (ts : List Token) : List Placed := placeParts gap (ts.map .token)

/-- The layout of what stands in parentheses after a type. -/
def placeArguments (ts : List Token) : List Placed :=
  if ts.isEmpty then [] else ⟨[], mark '('⟩ :: (placeTokens [] ts ++ [⟨[], mark ')'⟩])

/-- The layout of a setting of a column, if it has a value. -/
def placeSetting (words : List String) : Option Text → List Placed
  | none => []
  | some v =>
    if v.isEmpty then []
    else words.map (fun w => ⟨[' '], wordToken w.toList⟩) ++ [⟨[' '], valueToken v⟩]

/-- The layout of a column. -/
def Column.place (gap : Text) (c : Column) : List Placed :=
  ⟨gap, c.name.token⟩ :: ⟨[' '], wordToken c.dataType⟩ :: (placeArguments c.typeArgs ++
    (placeSetting ["CHARACTER", "SET"] c.charset ++ (placeSetting ["COLLATE"] c.collation ++
      placeParts [' '] c.options)))

/-- The layout of an element. -/
def Element.place (gap : Text) : Element → List Placed
  | column c => c.place gap
  | constraint c => placeParts gap c.parts

/-- The layout of the elements of a table. -/
def placeElements : List Element → List Placed
  | [] => []
  | e :: es => e.place "\n  " ++ es.flatMap fun e => ⟨[], mark ','⟩ :: e.place "\n  "

/-- The layout of the words up to the table name and the table name. -/
def Table.placeHead (t : Table) : List Placed := placeParts [] (t.head.map .token ++ [.name t.name])

/-- The layout of a table. -/
def Table.place (t : Table) : List Placed :=
  t.placeHead ++ ((match t.elements with
    | none => []
    | some es => ⟨[' '], mark '('⟩ :: (placeElements es ++ [⟨['\n'], mark ')'⟩])) ++
      placeTokens [' '] t.options)

/-! ### The text of a layout -/

@[simp] theorem spell_nil : spell [] = [] := rfl

@[simp] theorem spell_cons (p : Placed) (ps : List Placed) :
    spell (p :: ps) = p.gap ++ p.token.value ++ spell ps := rfl

@[simp] theorem spell_append (ps qs : List Placed) : spell (ps ++ qs) = spell ps ++ spell qs :=
  List.flatMap_append

theorem joinWith_cons (sep t : Text) (ts : List Text) :
    joinWith sep (t :: ts) = t ++ ts.flatMap (sep ++ ·) := by
  induction ts generalizing t with
  | nil => simp [joinWith]
  | cons u us ih => rw [joinWith, ih] <;> simp

theorem spell_placeDotted (is : List Identifier) :
    spell (placeDotted is) = (is.map (·.render .mysql)).flatMap (['.'] ++ ·) := by
  induction is with
  | nil => rfl
  | cons i is ih =>
    rw [placeDotted, List.flatMap_cons, ← placeDotted, spell_append, ih]
    simp [mark, Identifier.token]

theorem spell_placeName (gap : Text) (q : QualifiedName) :
    spell (placeName gap q) = gap ++ q.render .mysql := by
  obtain ⟨i, is, hparts⟩ : ∃ i is, q.parts = i :: is :=
    List.exists_cons_of_ne_nil (by simp [QualifiedName.parts])
  rw [placeName, QualifiedName.render, hparts, List.map_cons, joinWith_cons, spell_cons,
    spell_placeDotted, Identifier.token, List.append_assoc]

theorem spell_part (gap : Text) (p : Part) : spell (p.place gap) = gap ++ p.render .mysql := by
  cases p with
  | token t => simp [Part.place, Part.render, Token.written]
  | name q => exact spell_placeName gap q

theorem spell_placeRest (ps : List Part) : spell (placeRest ps) = renderRest .mysql ps := by
  induction ps with
  | nil => rfl
  | cons p ps ih =>
    rw [placeRest, List.flatMap_cons, ← placeRest, spell_append, spell_part, ih]
    rfl

theorem spell_placeParts (gap : Text) {ps : List Part} (h : ps ≠ []) :
    spell (placeParts gap ps) = gap ++ renderParts .mysql ps := by
  obtain ⟨p, ps, rfl⟩ := List.exists_cons_of_ne_nil h
  rw [placeParts, spell_append, spell_part, spell_placeRest, renderParts, List.append_assoc]

theorem spell_placeTokens (gap : Text) (ts : List Token) :
    spell (placeTokens gap ts) = if ts.isEmpty then [] else gap ++ renderTokens .mysql ts := by
  cases ts with
  | nil => rfl
  | cons t ts => exact spell_placeParts gap (by simp)

theorem spell_placeArguments (c : Column) :
    c.dataType ++ spell (placeArguments c.typeArgs) = c.renderType .mysql := by
  rw [placeArguments, Column.renderType]
  by_cases hargs : c.typeArgs.isEmpty
  · simp [hargs, Dialect.hasColumnCharsets]
  · simp [hargs, Dialect.hasColumnCharsets, spell_placeTokens, mark]

theorem spell_placeSetting (keyword : String) (words : List String)
    (h : ' ' :: keyword.toList = words.flatMap (fun w => ' ' :: w.toList) ++ [' '])
    (v : Option Text) :
    spell (placeSetting words v) = (encodingClause keyword v).flatMap ([' '] ++ ·) := by
  have hwords : spell (words.map fun w => ⟨[' '], wordToken w.toList⟩) =
      words.flatMap fun w => ' ' :: w.toList := by rw [spell, List.flatMap_map]; rfl
  cases v with
  | none => rfl
  | some v =>
    rw [placeSetting, encodingClause]
    split
    · rfl
    · rw [spell_append, hwords, List.flatMap_singleton, ← List.append_assoc [' '],
        List.singleton_append, h, List.append_assoc]
      simp [valueToken]

theorem spell_column (gap : Text) (c : Column) : spell (c.place gap) = gap ++ c.render .mysql := by
  have hcharset := spell_placeSetting "CHARACTER SET " ["CHARACTER", "SET"] rfl c.charset
  have hcollation := spell_placeSetting "COLLATE " ["COLLATE"] rfl c.collation
  have hoptions : spell (placeParts [' '] c.options) = (if c.options.isEmpty then []
      else [renderParts .mysql c.options]).flatMap ([' '] ++ ·) := by
    cases hc : c.options with
    | nil => rfl
    | cons p ps => rw [spell_placeParts [' '] (by simp)]; simp
  have htype := spell_placeArguments c
  rw [Column.place, Column.render]
  simp only [spell_cons, spell_append, hcharset, hcollation, hoptions, Dialect.hasColumnCharsets,
    if_true, List.cons_append, List.nil_append, joinWith_cons, List.flatMap_cons,
    List.flatMap_append, ← htype]
  simp [Identifier.token, wordToken]

theorem spell_element (gap : Text) {e : Element} (h : ∀ c, e = .constraint c → c.parts ≠ []) :
    ∃ line, e.render? .mysql = some line ∧ spell (e.place gap) = gap ++ line := by
  cases e with
  | column c => exact ⟨_, rfl, spell_column gap c⟩
  | constraint c => exact ⟨_, rfl, spell_placeParts gap (h c rfl)⟩

theorem spell_placeElements {es : List Element} (hne : es ≠ [])
    (h : ∀ c, .constraint c ∈ es → c.parts ≠ []) :
    spell (placeElements es) = ['\n'] ++ joinWith ",\n"
      ((es.filterMap (·.render? .mysql)).map ("  ".toList ++ ·)) := by
  have hmore : ∀ {es : List Element}, (∀ c, .constraint c ∈ es → c.parts ≠ []) →
      spell (es.flatMap fun e => ⟨[], mark ','⟩ :: e.place "\n  ") =
        ((es.filterMap (·.render? .mysql)).map ("  ".toList ++ ·)).flatMap (",\n".toList ++ ·) := by
    intro es h
    induction es with
    | nil => rfl
    | cons e es ih =>
      obtain ⟨line, hline, hspell⟩ := spell_element "\n  " (e := e) fun c hc => h c (by simp [hc])
      rw [List.flatMap_cons, spell_append, spell_cons, hspell, List.filterMap_cons_some hline,
        ih fun c hc => h c (List.mem_cons_of_mem _ hc)]
      simp [mark]
  obtain ⟨e, es, rfl⟩ := List.exists_cons_of_ne_nil hne
  obtain ⟨line, hline, hspell⟩ := spell_element "\n  " (e := e) fun c hc => h c (by simp [hc])
  rw [placeElements, spell_append, hspell, hmore fun c hc => h c (List.mem_cons_of_mem _ hc),
    List.filterMap_cons_some hline, List.map_cons, joinWith_cons]
  simp

/-- The text of the layout of a table is the text of the table. -/
theorem spell_place {t : Table} (h : ∀ es ∈ t.elements, es ≠ [] ∧
    ∀ c, .constraint c ∈ es → c.parts ≠ []) : spell t.place = t.render .mysql := by
  have hhead : spell t.placeHead = t.renderHead .mysql := spell_placeParts [] (by simp)
  have hoptions : spell (placeTokens [' '] t.options) =
      if t.options.isEmpty then [] else ' ' :: renderTokens .mysql t.options :=
    spell_placeTokens [' '] t.options
  rw [Table.place, spell_append, spell_append, hhead, hoptions, Table.render]
  cases helements : t.elements with
  | none => rfl
  | some es =>
    obtain ⟨hne, hparts⟩ := h es helements
    rw [spell_cons, spell_append, spell_placeElements hne hparts]
    simp [mark, Dialect.hasColumnCharsets]

end SchemaMill.Sql
