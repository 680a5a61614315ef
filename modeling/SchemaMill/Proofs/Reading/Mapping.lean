import Mathlib.Data.List.Basic
import SchemaMill.Schema.Registry

/-!
# Changing the tokens of a table

A change of the tokens of a table definition that keeps how each is written, and whether it is
spaced, changes neither the text of the table nor what is told of it (`Table.alike_mapTokens`). Nor
does it matter whether the first token of a clause is spaced (`Table.alike_respaced`).
-/

namespace SchemaMill.Sql

/-! ### Tokens -/

/-- A part of a clause with its token changed, if it is one. -/
def Part.mapToken (f : Token → Token) : Part → Part
  | token t => token (f t)
  | name q => name q

/-- A column with its tokens changed. -/
def Column.mapTokens (f : Token → Token) (c : Column) : Column :=
  { c with typeArgs := c.typeArgs.map f, options := c.options.map (Part.mapToken f) }

/-- An element with its tokens changed. -/
def Element.mapTokens (f : Token → Token) : Element → Element
  | column c => column (c.mapTokens f)
  | constraint c => constraint ⟨c.parts.map (Part.mapToken f)⟩

/-- A table with its tokens changed. -/
def Table.mapTokens (f : Token → Token) (t : Table) : Table :=
  { t with head := t.head.map f, elements := t.elements.map (·.map (Element.mapTokens f))
           options := t.options.map f }

/-! ### Spacing -/

/-- A part of a clause with or without blanks in front of it. -/
def Part.respaced (b : Bool) : Part → Part
  | token t => token { t with spaced := b }
  | name q => name { q with spaced := b }

/-- A clause with or without blanks in front of it. -/
def respaceParts (b : Bool) : List Part → List Part
  | [] => []
  | p :: ps => p.respaced b :: ps

/-- A clause of tokens with or without blanks in front of it. -/
def respaceTokens (b : Bool) : List Token → List Token
  | [] => []
  | t :: ts => { t with spaced := b } :: ts

/-- A column with blanks in front of its options and without blanks inside the parentheses of its
type. -/
def Column.respaced (c : Column) : Column :=
  { c with typeArgs := respaceTokens false c.typeArgs, options := respaceParts true c.options }

/-- An element with blanks in front of its clauses. -/
def Element.respaced : Element → Element
  | column c => column c.respaced
  | constraint c => constraint ⟨respaceParts true c.parts⟩

/-- A table with the blanks that its text has in front of each clause. -/
def Table.respaced (t : Table) : Table :=
  { t with head := respaceTokens false t.head, elements := t.elements.map (·.map Element.respaced)
           options := respaceTokens true t.options }

/-! ### Tables with the same text and summary -/

/-- Elements with the same text, columns and references. -/
structure Element.Alike (e e' : Element) : Prop where
  render : e'.render? .mysql = e.render? .mysql
  /-- What is told of the column is the same. -/
  column : e'.column?.map (Schema.describeColumn .mysql) =
    e.column?.map (Schema.describeColumn .mysql)
  references : e'.references.map (·.name) = e.references.map (·.name)

/-- Tables with the same text, the same summary and as many elements. -/
structure Table.Alike (t t' : Table) : Prop where
  render : t'.render .mysql = t.render .mysql
  /-- What is told of the table is the same. -/
  describe : Schema.describe .mysql t' = Schema.describe .mysql t
  size : t'.elements.map List.length = t.elements.map List.length

theorem Table.Alike.symm {t t' : Table} (h : t.Alike t') : t'.Alike t :=
  ⟨h.render.symm, h.describe.symm, h.size.symm⟩

theorem Table.Alike.trans {t t' t'' : Table} (h : t.Alike t') (h' : t'.Alike t'') : t.Alike t'' :=
  ⟨h'.render.trans h.render, h'.describe.trans h.describe, h'.size.trans h.size⟩

theorem Column.alike {c c' : Column} (hname : c'.name = c.name) (htype : c'.dataType = c.dataType)
    (hcharset : c'.charset = c.charset) (hcollation : c'.collation = c.collation)
    (hargs : c'.typeArgs.isEmpty = c.typeArgs.isEmpty ∧
      renderTokens .mysql c'.typeArgs = renderTokens .mysql c.typeArgs)
    (hoptions : c'.options.isEmpty = c.options.isEmpty ∧
      renderParts .mysql c'.options = renderParts .mysql c.options)
    (hreferences : (c'.options.filterMap Part.name?).map (·.name) =
      (c.options.filterMap Part.name?).map (·.name)) :
    (Element.column c).Alike (.column c') := by
  refine ⟨?_, ?_, hreferences⟩
  · simp only [Element.render?, Column.render, Column.renderType, Dialect.hasColumnCharsets, hname,
      htype, hcharset, hcollation, hargs, hoptions, if_true]
  · simp only [Element.column?, Option.map_some, Schema.describeColumn, hname, htype, hcharset,
      hcollation, hargs]

theorem Table.alike {t : Table} {g : Element → Element} (hg : ∀ e : Element, e.Alike (g e))
    {head options : List Token} (hhead : renderParts .mysql (head.map .token ++ [.name t.name]) =
      t.renderHead .mysql)
    (hoptions : options.isEmpty = t.options.isEmpty ∧
      renderTokens .mysql options = renderTokens .mysql t.options) :
    t.Alike { t with head, elements := t.elements.map (·.map g), options } := by
  have hlines : ∀ es : List Element, (es.map g).filterMap (·.render? .mysql) =
      es.filterMap (·.render? .mysql) := fun es => by
    rw [List.filterMap_map]
    exact List.filterMap_congr fun e _ => (hg e).render
  have hcolumns : ∀ es : List Element,
      ((es.map g).filterMap Element.column?).map (Schema.describeColumn .mysql) =
        (es.filterMap Element.column?).map (Schema.describeColumn .mysql) := fun es => by
    rw [List.map_filterMap, List.map_filterMap, List.filterMap_map]
    exact List.filterMap_congr fun e _ => (hg e).column
  have hreferences : ∀ es : List Element, ((es.map g).flatMap (·.references)).map (·.name) =
      (es.flatMap (·.references)).map (·.name) := fun es => by
    simp [List.map_flatMap, List.flatMap_map, (hg _).references]
  have hhead' : Table.renderHead .mysql
      { t with head, elements := t.elements.map (·.map g), options } = t.renderHead .mysql := hhead
  refine ⟨?_, ?_, ?_⟩
  · rw [Table.render, Table.render, hhead']
    simp only [hoptions]
    cases t.elements with
    | none => rfl
    | some es => simp only [Option.map_some, hlines]
  · rw [Schema.describe, Schema.describe]
    cases h : t.elements with
    | none => simp [Table.columns, Table.dependencies, Table.references, h]
    | some es =>
      simp only [Table.columns, Table.dependencies, Table.references, h, Option.map_some,
        Option.getD_some, hcolumns, hreferences]
  · cases t.elements <;> simp

/-! ### Changes that keep the text of each token -/

theorem map_mapToken_token (f : Token → Token) (ts : List Token) :
    (ts.map Part.token).map (Part.mapToken f) = (ts.map f).map Part.token := by
  simp [Function.comp_def, Part.mapToken]

section

variable {f : Token → Token} (hrender : ∀ t, (f t).render .mysql = t.render .mysql)
  (hspaced : ∀ t, (f t).spaced = t.spaced)

include hrender hspaced

theorem renderParts_mapToken (ps : List Part) :
    renderParts .mysql (ps.map (Part.mapToken f)) = renderParts .mysql ps := by
  have hpart : ∀ p : Part, (p.mapToken f).render .mysql = p.render .mysql ∧
      (p.mapToken f).spaced = p.spaced := by
    rintro (t | q)
    · exact ⟨hrender t, hspaced t⟩
    · exact ⟨rfl, rfl⟩
  have hrest : ∀ ps : List Part,
      renderRest .mysql (ps.map (Part.mapToken f)) = renderRest .mysql ps := by
    intro ps
    induction ps with
    | nil => rfl
    | cons p ps ih => simp [renderRest, ih, hpart]
  cases ps with
  | nil => rfl
  | cons p ps => simp [renderParts, hrest, hpart]

theorem renderTokens_map (ts : List Token) :
    renderTokens .mysql (ts.map f) = renderTokens .mysql ts := by
  rw [renderTokens, ← map_mapToken_token, renderParts_mapToken hrender hspaced]
  rfl

theorem Element.alike_mapTokens (e : Element) : e.Alike (e.mapTokens f) := by
  have hreferences : ∀ ps : List Part,
      (ps.map (Part.mapToken f)).filterMap Part.name? = ps.filterMap Part.name? := by
    intro ps
    rw [List.filterMap_map]
    congr 1
    funext p
    cases p <;> rfl
  cases e with
  | column c =>
    exact Column.alike rfl rfl rfl rfl
      ⟨by simp [Column.mapTokens], renderTokens_map hrender hspaced _⟩
      ⟨by simp [Column.mapTokens], renderParts_mapToken hrender hspaced _⟩
      (congrArg _ (hreferences _))
  | constraint c =>
    exact ⟨congrArg some (renderParts_mapToken hrender hspaced _), rfl,
      congrArg _ (hreferences _)⟩

/-- A change of tokens that keeps how each is written makes a table that is alike. -/
theorem Table.alike_mapTokens (t : Table) : t.Alike (t.mapTokens f) := by
  refine Table.alike (Element.alike_mapTokens hrender hspaced) ?_
    ⟨by simp, renderTokens_map hrender hspaced _⟩
  have hparts : (t.head.map f).map Part.token ++ [Part.name t.name] =
      (t.head.map Part.token ++ [Part.name t.name]).map (Part.mapToken f) := by
    rw [List.map_append, map_mapToken_token]
    rfl
  rw [hparts, renderParts_mapToken hrender hspaced]
  rfl

end

/-! ### Changes of spacing in front of clauses -/

theorem renderParts_respaceParts (b : Bool) (ps : List Part) :
    renderParts .mysql (respaceParts b ps) = renderParts .mysql ps := by
  cases ps with
  | nil => rfl
  | cons p ps => cases p <;> rfl

theorem map_token_respaceTokens (b : Bool) (ts : List Token) :
    (respaceTokens b ts).map Part.token = respaceParts b (ts.map Part.token) := by
  cases ts <;> rfl

theorem renderTokens_respaceTokens (b : Bool) (ts : List Token) :
    renderTokens .mysql (respaceTokens b ts) = renderTokens .mysql ts := by
  rw [renderTokens, map_token_respaceTokens, renderParts_respaceParts]
  rfl

theorem Element.alike_respaced (e : Element) : e.Alike e.respaced := by
  have hreferences : ∀ ps : List Part, ((respaceParts true ps).filterMap Part.name?).map (·.name) =
      (ps.filterMap Part.name?).map (·.name) := by
    intro ps
    cases ps with
    | nil => rfl
    | cons p ps => cases p <;> rfl
  have hempty : ∀ b ps, (respaceParts b ps).isEmpty = ps.isEmpty := by
    intro b ps
    cases ps <;> rfl
  have hempty' : ∀ b ts, (respaceTokens b ts).isEmpty = ts.isEmpty := by
    intro b ts
    cases ts <;> rfl
  cases e with
  | column c =>
    exact Column.alike rfl rfl rfl rfl ⟨hempty' _ _, renderTokens_respaceTokens _ _⟩
      ⟨hempty _ _, renderParts_respaceParts _ _⟩ (hreferences _)
  | constraint c =>
    exact ⟨congrArg some (renderParts_respaceParts _ _), rfl, hreferences _⟩

/-- The blanks in front of the clauses of a table may be others. -/
theorem Table.alike_respaced (t : Table) : t.Alike t.respaced := by
  refine Table.alike Element.alike_respaced ?_ ⟨?_, renderTokens_respaceTokens _ _⟩
  · cases hhead : t.head with
    | nil => simp [respaceTokens, Table.renderHead, hhead]
    | cons u us =>
      simp [respaceTokens, Table.renderHead, hhead, renderParts, Part.render, Token.render,
        Token.identifier]
  · cases t.options <;> rfl

end SchemaMill.Sql
