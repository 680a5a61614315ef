import Mathlib.Data.List.Forall2
import Mathlib.Data.Option.Defs
import SchemaMill.Proofs.Moving.Clauses
import SchemaMill.Sql.Printer

/-!
# What moving a table changes

Moving a table definition to a target with the dialect of MySQL changes table names, the types of
columns, their character sets and collations, and table options, each in one way, and nothing else
(`move_frame`). The parts of a definition are related to the moved ones one by one, from the names
of tables (`NameMoved`) over parts of clauses, columns and elements up to the whole (`TableMoved`),
with the options apart (`OptionsMoved`).

A target without a name for its character set has none to put into the options, and the values of
character sets stay there (`not_optionsMoved_unnamed`).
-/

namespace SchemaMill.Schema

open Sql

/-! ### Names -/

/-- A name without a prefix at its start, of which something is left; other names stay. -/
inductive LosesPrefix (strip : Option Text) (name : Text) : Text → Prop where
  | lost {p rest} (hstrip : strip = some p) (hname : name = p ++ rest) (hrest : rest ≠ []) :
    LosesPrefix strip name rest
  | kept (hname : ∀ p rest, strip = some p → name = p ++ rest → rest = []) :
    LosesPrefix strip name name

/-- A table name of which only the name without qualifiers can change, by losing a prefix. -/
structure NameMoved (strip : Option Text) (q q' : QualifiedName) : Prop where
  qualifiers : q'.qualifiers = q.qualifiers
  quoted : q'.table.quoted = q.table.quoted
  spaced : q'.spaced = q.spaced
  name : LosesPrefix strip q.table.name q'.table.name

/-- A part of a clause that is the same token, or the name of a table, moved. -/
inductive PartMoved (strip : Option Text) : Part → Part → Prop where
  | token (t : Token) : PartMoved strip (.token t) (.token t)
  | name {q q'} (h : NameMoved strip q q') : PartMoved strip (.name q) (.name q')

theorem losesPrefix_bareName (strip : Option Text) (name : Text) :
    LosesPrefix strip name (Target.bareName strip name) := by
  rw [Target.bareName]
  split
  · next c rest h =>
    obtain ⟨p, hp, hdrop⟩ := Option.bind_eq_some_iff.mp h
    exact .lost hp (dropPrefix?_eq_some_iff.mp hdrop) (List.cons_ne_nil c rest)
  · next h =>
    refine .kept fun p rest hp hname => ?_
    have hdrop : strip.bind (dropPrefix? · name) = some rest := by
      rw [hp, Option.bind_some, dropPrefix?_eq_some_iff, hname]
    cases rest with
    | nil => rfl
    | cons c rest => exact absurd hdrop (h c rest)

theorem nameMoved_rename (strip : Option Text) (q : QualifiedName) :
    NameMoved strip q (q.rename (Target.bareName strip q.name)) :=
  ⟨rfl, rfl, rfl, losesPrefix_bareName strip q.name⟩

theorem partMoved_mapName (strip : Option Text) (p : Part) :
    PartMoved strip p (p.mapName (Target.bareName strip)) := by
  cases p with
  | token t => exact .token t
  | name q => exact .name (nameMoved_rename strip q)

theorem forall₂_map {α β : Type} {r : α → β → Prop} {f : α → β} (h : ∀ a, r a (f a)) (l : List α) :
    List.Forall₂ r l (l.map f) :=
  List.forall₂_map_right_iff.mpr (List.forall₂_same.mpr fun a _ => h a)

/-! ### Columns and elements -/

section Fields

variable (o : Target) (c : Column)

@[simp] theorem encodeColumn_name : (o.encodeColumn c).name = c.name := by
  unfold Target.encodeColumn; split_ifs <;> rfl

@[simp] theorem encodeColumn_dataType : (o.encodeColumn c).dataType = c.dataType := by
  unfold Target.encodeColumn; split_ifs <;> rfl

@[simp] theorem encodeColumn_typeArgs : (o.encodeColumn c).typeArgs = c.typeArgs := by
  unfold Target.encodeColumn; split_ifs <;> rfl

@[simp] theorem encodeColumn_options : (o.encodeColumn c).options = c.options := by
  unfold Target.encodeColumn; split_ifs <;> rfl

@[simp] theorem boundType_name : (Target.boundType c).name = c.name := by
  unfold Target.boundType; split_ifs <;> rfl

@[simp] theorem boundType_charset : (Target.boundType c).charset = c.charset := by
  unfold Target.boundType; split_ifs <;> rfl

@[simp] theorem boundType_collation : (Target.boundType c).collation = c.collation := by
  unfold Target.boundType; split_ifs <;> rfl

@[simp] theorem boundType_options : (Target.boundType c).options = c.options := by
  unfold Target.boundType; split_ifs <;> rfl

end Fields

/-- A column with the same name, whose type is bounded if it was `TINYTEXT`, with the character set
of the target and its collation if its type is now one of texts, and with moved options. -/
structure ColumnMoved (o : Target) (c c' : Column) : Prop where
  name : c'.name = c.name
  type : if c.dataType = "TINYTEXT".toList then
      c'.dataType = "VARCHAR".toList ∧ c'.typeArgs = [⟨.number, "255", false⟩]
    else c'.dataType = c.dataType ∧ c'.typeArgs = c.typeArgs
  encoding : if c'.dataType ∈
        ["VARCHAR", "NVARCHAR", "TEXT", "MEDIUMTEXT", "LONGTEXT"].map String.toList then
      c'.charset = some o.charset ∧ c'.collation = some (o.charset ++ "_unicode_ci".toList)
    else c'.charset = c.charset ∧ c'.collation = c.collation
  options : List.Forall₂ (PartMoved o.strip) c.options c'.options

/-- An element of the same kind, moved. -/
inductive ElementMoved (o : Target) : Element → Element → Prop where
  | column {c c'} (h : ColumnMoved o c c') : ElementMoved o (.column c) (.column c')
  | constraint {c c' : Constraint} (h : List.Forall₂ (PartMoved o.strip) c.parts c'.parts) :
    ElementMoved o (.constraint c) (.constraint c')

variable {o : Target}

theorem columnMoved_moveColumn (ho : o.dialect = .mysql) (c : Column) :
    ColumnMoved o c (o.moveColumn c) where
  name := by simp [Target.moveColumn]
  type := by
    simp only [Target.moveColumn, encodeColumn_dataType, encodeColumn_typeArgs, Target.boundType,
      beq_iff_eq]
    split
    · exact ⟨rfl, rfl⟩
    · exact ⟨rfl, rfl⟩
  encoding := by
    have hsets : o.dialect.hasColumnCharsets = true := by rw [ho]; rfl
    simp only [Target.moveColumn, encodeColumn_dataType]
    split
    · next hmem =>
      have htext : Target.textTypes.contains (Target.boundType c).dataType = true :=
        List.contains_iff_mem.mpr hmem
      rw [Target.encodeColumn, hsets, if_neg (by decide), if_pos htext]
      exact ⟨rfl, rfl⟩
    · next hmem =>
      have htext : ¬Target.textTypes.contains (Target.boundType c).dataType = true :=
        mt List.contains_iff_mem.mp hmem
      rw [Target.encodeColumn, hsets, if_neg (by decide), if_neg htext]
      exact ⟨boundType_charset c, boundType_collation c⟩
  options := forall₂_map (partMoved_mapName o.strip) c.options

theorem elementMoved_moveElement (ho : o.dialect = .mysql) (e : Element) :
    ElementMoved o e (o.moveElement e) := by
  cases e with
  | column c => exact .column (columnMoved_moveColumn ho c)
  | constraint c => exact .constraint (forall₂_map (partMoved_mapName o.strip) c.parts)

/-! ### Tables -/

/-- A table with the same head and moved elements, as many as before and in the same order, under a
name that can have lost a prefix. -/
structure TableMoved (o : Target) (t t' : Table) : Prop where
  head : t'.head = t.head
  name : NameMoved o.strip t.name t'.name
  elements : Option.Rel (List.Forall₂ (ElementMoved o)) t.elements t'.elements

/-- Table options with the names for a character set in place of the values of settings, and a
collation at the end if there is a character set and no collation. -/
def OptionsMoved (charset : Text) (ts us : List Token) : Prop :=
  ∃ cs, (∀ cs', AreClauses ts cs' ↔ cs' = cs) ∧
    us = cs.flatMap (fun c => (c.moved charset).tokens) ++
      if Sets .charset cs ∧ ¬Sets .collation cs then
        [⟨.keyword, "COLLATE", true⟩, ⟨.operator, "=", false⟩,
          ⟨.name, charset ++ "_unicode_ci".toList, false⟩]
      else []

theorem optionsMoved_moveOptions {charset : Text} (h : charset ≠ []) (ts : List Token) :
    OptionsMoved charset ts (Target.moveOptions charset ts) :=
  ⟨clausesFrom [] ts, fun _ => areClauses_iff,
    Target.moveOptions_of_areClauses h (areClauses_iff.mpr rfl)⟩

theorem tableMoved_move (ho : o.dialect = .mysql) (t : Table) : TableMoved o t (o.move t) where
  head := rfl
  name := nameMoved_rename o.strip t.name
  elements := by
    rw [Target.move]
    cases t.elements with
    | none => exact .none
    | some es => exact .some (forall₂_map (elementMoved_moveElement ho) es)

/-- Moving a table to a target with the dialect of MySQL changes each part in its own way and leaves
the rest. Options are moved if the character set has a name. -/
theorem move_frame (o : Target) (ho : o.dialect = .mysql) (t : Table) :
    TableMoved o t (o.move t) ∧
      (o.charset ≠ [] → OptionsMoved o.charset t.options (o.move t).options) := by
  refine ⟨tableMoved_move ho t, fun hcharset => ?_⟩
  have hoptions : (o.move t).options = Target.moveOptions o.charset t.options := by
    rw [Target.move, ho]
    rfl
  rw [hoptions]
  exact optionsMoved_moveOptions hcharset t.options

/-- A table with a prefix on its name and on that of a table that it references. -/
def postsTable : Table where
  head := [⟨.keyword, "CREATE", false⟩, ⟨.keyword, "TABLE", true⟩]
  name := ⟨[], ⟨"wp_posts", false⟩, true⟩
  elements := some
    [.column { name := ⟨"title", true⟩, dataType := "TINYTEXT", charset := some "latin1" },
      .column { name := ⟨"mood", false⟩, dataType := "ENUM", typeArgs := [⟨.text, "'new'", false⟩]
                charset := some "latin1" },
      .constraint ⟨[.token ⟨.keyword, "FOREIGN", true⟩, .token ⟨.keyword, "KEY", true⟩,
        .token ⟨.punctuation, "(", true⟩, .token ⟨.name, "mood", false⟩,
        .token ⟨.punctuation, ")", false⟩, .token ⟨.keyword, "REFERENCES", true⟩,
        .name ⟨[⟨"blog", true⟩], ⟨"wp_moods", true⟩, true⟩]⟩]
  options := [⟨.keyword, "CHARACTER", true⟩, ⟨.keyword, "SET", true⟩, ⟨.operator, "=", true⟩,
    ⟨.name, "latin1", true⟩]

/-- The names of the posts and of the table that they reference are moved. -/
theorem move_frame_posts :
    let o : Target := { strip := some "wp_" }
    (o.move postsTable).render .mysql = ("CREATE TABLE posts (\n" ++
      "  \x60title\x60 VARCHAR(255) CHARACTER SET utf8mb4 COLLATE utf8mb4_unicode_ci,\n" ++
      "  mood ENUM('new') CHARACTER SET latin1,\n" ++
      "  FOREIGN KEY (mood) REFERENCES \x60blog\x60.\x60moods\x60\n" ++
      ") CHARACTER SET = utf8mb4 COLLATE=utf8mb4_unicode_ci").toList ∧
      TableMoved o postsTable (o.move postsTable) ∧
      OptionsMoved o.charset postsTable.options (o.move postsTable).options := by
  intro o
  obtain ⟨htable, hoptions⟩ := move_frame o rfl postsTable
  exact ⟨by decide +kernel, htable, hoptions (by decide)⟩

/-- Without a name for the character set, the options keep the one that they have. -/
theorem not_optionsMoved_unnamed :
    let o : Target := { charset := [] }
    o.dialect = .mysql ∧ ¬(TableMoved o postsTable (o.move postsTable) ∧
      OptionsMoved o.charset postsTable.options (o.move postsTable).options) := by
  intro o
  refine ⟨rfl, fun ⟨_, cs, hcs, hmoved⟩ => ?_⟩
  have hclauses : AreClauses postsTable.options
      [.plain ⟨.keyword, "CHARACTER", true⟩, .setting .charset ⟨.keyword, "SET", true⟩
        [⟨.operator, "=", true⟩] (some ⟨.name, "latin1", true⟩)] :=
    ⟨.plain (by decide) (.setting (by decide) (by decide) (by decide) .nil), rfl⟩
  rw [← (hcs _).mp hclauses] at hmoved
  exact absurd hmoved (by decide)

end SchemaMill.Schema
