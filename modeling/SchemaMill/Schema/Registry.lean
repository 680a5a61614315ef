import SchemaMill.Sql.Printer

/-!
# The registry of tables

The registry holds one definition for each table, in the order in which the tables were first
registered. A definition is what is told about a table: its columns and the tables that it
references.
-/

namespace SchemaMill.Schema

/-- What is told about a column. -/
structure ColumnSummary where
  name : Text
  /-- The data type with its arguments. -/
  type : Text
  charset : Option Text := none
  collation : Option Text := none
  deriving DecidableEq, Repr

/-- What is told about a table. -/
structure Definition where
  name : Text
  /-- The columns in their order. -/
  columns : List ColumnSummary := []
  /-- The tables that are referenced, in the order of their first reference. -/
  references : List Text := []
  deriving DecidableEq, Repr

/-- What is told about a column, with its type in a dialect. -/
def describeColumn (d : Sql.Dialect) (c : Sql.Column) : ColumnSummary :=
  let arguments :=
    if c.typeArgs.isEmpty then [] else '(' :: Sql.renderTokens d c.typeArgs ++ [')']
  ⟨c.name.name, c.dataType ++ arguments, c.charset, c.collation⟩

/-- What is told about a table, with its types in a dialect. -/
def describe (d : Sql.Dialect) (t : Sql.Table) : Definition :=
  ⟨t.name.name, t.columns.map (describeColumn d), t.dependencies⟩

/-- Definitions with a new one at the place of its name, or at the end for a new name. -/
def place (d : Definition) : List Definition → List Definition
  | [] => [d]
  | e :: rest => if e.name = d.name then d :: rest else e :: place d rest

theorem map_name_place (d : Definition) (ds : List Definition) :
    (place d ds).map Definition.name =
      if d.name ∈ ds.map Definition.name then ds.map Definition.name
      else ds.map Definition.name ++ [d.name] := by
  induction ds with
  | nil => rfl
  | cons e rest ih =>
    by_cases h : e.name = d.name
    · simp [place, h]
    · have h' : ¬d.name = e.name := fun eq => h eq.symm
      simp only [place, h, if_false, List.map_cons, ih, List.mem_cons, h', false_or]
      split <;> simp

/-- The definitions of tables with different names. -/
structure Registry where
  /-- The definitions in the order of their names' first registration. -/
  definitions : List Definition := []
  nodup : (definitions.map Definition.name).Nodup := by exact List.nodup_nil

namespace Registry

/-- The registry without tables. -/
def empty : Registry := {}

/-- The names of the tables. -/
def names (r : Registry) : List Text := r.definitions.map Definition.name

/-- The definition of a table. -/
def find? (r : Registry) (table : Text) : Option Definition :=
  r.definitions.find? fun d => d.name == table

/-- The tables that a table references; an unknown table references none. -/
def references (r : Registry) (table : Text) : List Text :=
  match r.find? table with
  | some d => d.references
  | none => []

/-- Registers a definition, in place of the one of its name if there is one. -/
def register (r : Registry) (d : Definition) : Registry where
  definitions := place d r.definitions
  nodup := by
    rw [map_name_place]
    split
    · exact r.nodup
    · next h =>
      refine List.nodup_append.mpr ⟨r.nodup, by simp, ?_⟩
      intro a ha b hb
      cases List.mem_singleton.mp hb
      rintro rfl
      exact h ha

theorem names_register (r : Registry) (d : Definition) :
    (r.register d).names = if d.name ∈ r.names then r.names else r.names ++ [d.name] :=
  map_name_place d r.definitions

theorem find?_register (r : Registry) (d : Definition) (table : Text) :
    (r.register d).find? table = if d.name = table then some d else r.find? table := by
  simp only [find?, register]
  induction r.definitions with
  | nil => by_cases h : d.name = table <;> simp [place, h]
  | cons e rest ih =>
    by_cases h : e.name = d.name
    · by_cases ht : d.name = table <;> simp [place, h, ht]
    · by_cases ht : e.name = table
      · have hd : ¬d.name = table := fun eq => h (ht.trans eq.symm)
        rw [place, if_neg h]
        simp [ht, hd]
      · simp [place, h, ht, ih]

/-- The registry after several registrations. -/
def ofList (ds : List Definition) : Registry := ds.foldl register empty

end Registry

end SchemaMill.Schema
