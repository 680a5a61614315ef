import SchemaMill.Sql.Token

/-!
# Table definitions

A table definition keeps the tokens of its statement that nothing else is known about, so that it
can be written again with its column options, constraints and table options as they were. Lifted out
of the tokens are the table name, the columns with their types, character sets and collations, and
the names of the tables that are referenced.
-/

namespace SchemaMill.Sql

/-- A table name with the names of what it belongs to in front of it. -/
structure QualifiedName where
  /-- The names in front of the table name, outermost first. -/
  qualifiers : List Identifier
  table : Identifier
  /-- Blanks or comments stood in front of the name. -/
  spaced : Bool := true
  deriving DecidableEq, Repr

namespace QualifiedName

/-- The table name without its qualifiers. -/
def name (q : QualifiedName) : Text := q.table.name

/-- The names of a dotted name from left to right. -/
def parts (q : QualifiedName) : List Identifier := q.qualifiers ++ [q.table]

/-- The same name for another table, with the same qualifiers and quotes. -/
def rename (q : QualifiedName) (name : Text) : QualifiedName :=
  { q with table := { q.table with name := name } }

/-- The text of a dotted name in a dialect. -/
def render (d : Dialect) (q : QualifiedName) : Text :=
  joinWith ['.'] (q.parts.map (·.render d))

end QualifiedName

/-- A part of a clause: a token, or the name of a referenced table. -/
inductive Part where
  | token (t : Token)
  | name (q : QualifiedName)
  deriving DecidableEq, Repr

namespace Part

/-- Blanks or comments stood in front of the part. -/
def spaced : Part → Bool
  | token t => t.spaced
  | name q => q.spaced

/-- The keyword form of the part; a name is never read as a keyword. -/
def word : Part → Text
  | token t => t.word
  | name _ => []

/-- The part is the keyword `w`. -/
def isWord (p : Part) (w : String) : Bool := p.word == w.toList

/-- The part is the single character `c`. -/
def isSign (p : Part) (c : Char) : Bool :=
  match p with
  | token t => t.isSign c
  | name _ => false

/-- The text of a part in a dialect. -/
def render (d : Dialect) : Part → Text
  | token t => t.render d
  | name q => q.render d

/-- The name of a part that names a table. -/
def name? : Part → Option QualifiedName
  | token _ => none
  | name q => some q

/-- A part with its table name changed, if it names a table. -/
def mapName (f : Text → Text) : Part → Part
  | token t => token t
  | name q => name (q.rename (f q.name))

end Part

/-- The text of the parts after the first one, each after a space if it had blanks in front. -/
def renderRest (d : Dialect) : List Part → Text
  | [] => []
  | p :: ps => (if p.spaced then [' '] else []) ++ p.render d ++ renderRest d ps

/-- The text of a clause, with one space wherever there were blanks between two parts. -/
def renderParts (d : Dialect) : List Part → Text
  | [] => []
  | p :: ps => p.render d ++ renderRest d ps

/-- The text of a clause of tokens. -/
def renderTokens (d : Dialect) (ts : List Token) : Text := renderParts d (ts.map .token)

/-- A column of a table definition. -/
structure Column where
  name : Identifier
  /-- The data type in capitals. -/
  dataType : Text
  /-- What stands in parentheses after the data type. -/
  typeArgs : List Token := []
  charset : Option Text := none
  collation : Option Text := none
  /-- All that follows the type: nullability, default, references and so on. -/
  options : List Part := []
  deriving DecidableEq, Repr

/-- Words that begin a table-level element. -/
def constraintWords : List Text :=
  ["PRIMARY KEY", "UNIQUE", "FOREIGN", "CHECK", "KEY", "INDEX", "FULLTEXT", "SPATIAL"].map
    String.toList

/-- A table-level element: a key, an index, a check or a foreign key. -/
structure Constraint where
  parts : List Part
  deriving DecidableEq, Repr

namespace Constraint

/-- The words of an element after `CONSTRAINT` and the symbol that may follow it. -/
def wordsAfterSymbol : List Text → List Text
  | [] => []
  | w :: ws =>
    if w == "CONSTRAINT".toList then
      match ws with
      | [] => []
      | v :: vs => if constraintWords.contains v then v :: vs else vs
    else w :: ws

/-- The leading keyword of an element, after `CONSTRAINT` and its symbol. -/
def kind (c : Constraint) : Text :=
  (wordsAfterSymbol (c.parts.filterMap fun
    | .token t => some t.word
    | .name _ => none)).headD []

end Constraint

/-- An element of the body of a table definition. -/
inductive Element where
  | column (c : Column)
  | constraint (c : Constraint)
  deriving DecidableEq, Repr

namespace Element

/-- The parts of an element in which tables can be referenced. -/
def parts : Element → List Part
  | column c => c.options
  | constraint c => c.parts

/-- The tables that an element references. -/
def references (e : Element) : List QualifiedName := e.parts.filterMap Part.name?

/-- The column of an element that is one. -/
def column? : Element → Option Column
  | column c => some c
  | constraint _ => none

end Element

/-- A table definition. -/
structure Table where
  /-- The words up to the table name. -/
  head : List Token
  name : QualifiedName
  /-- The elements in parentheses, if the table has any of its own. -/
  elements : Option (List Element) := none
  /-- The table options, or what the table is made from. -/
  options : List Token := []
  deriving DecidableEq, Repr

namespace Table

/-- The columns in their order. -/
def columns (t : Table) : List Column := (t.elements.getD []).filterMap Element.column?

/-- The referenced tables in their order. -/
def references (t : Table) : List QualifiedName := (t.elements.getD []).flatMap (·.references)

end Table

/-- The members of a list without later repetitions. -/
def firstOccurrences : List Text → List Text
  | [] => []
  | t :: ts => t :: (firstOccurrences ts).filter (· != t)

theorem mem_firstOccurrences {t : Text} {ts : List Text} : t ∈ firstOccurrences ts ↔ t ∈ ts := by
  induction ts with
  | nil => exact Iff.rfl
  | cons u us ih => by_cases h : t = u <;> simp [firstOccurrences, h, ih]

theorem nodup_firstOccurrences (ts : List Text) : (firstOccurrences ts).Nodup := by
  induction ts with
  | nil => exact List.nodup_nil
  | cons u us ih => exact List.nodup_cons.mpr ⟨by simp, ih.filter _⟩

/-- The names of the tables that a definition depends on, each once, in the order of their first
reference. -/
def Table.dependencies (t : Table) : List Text := firstOccurrences (t.references.map (·.name))

end SchemaMill.Sql
