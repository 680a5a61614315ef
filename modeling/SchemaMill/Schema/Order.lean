import SchemaMill.Schema.Statement

/-!
# The order of table definitions

A table is defined after the tables that it references. The tables are visited depth first, in the
order of the registry and of their references. A reference to a table whose visit has begun but not
ended closes a cycle: it is not followed, and noted as unresolved.
-/

namespace SchemaMill.Schema

/-- A reference that the order cannot honour. -/
inductive Issue where
  /-- The referenced table references the table in its turn. -/
  | cycle (table dependency : Text)
  /-- The referenced table is not defined. -/
  | undefined (table dependency : Text)
  deriving DecidableEq, Repr

namespace Issue

/-- The notice about an issue. -/
def notice : Issue → Notice
  | cycle table dependency => .cycle table dependency
  | undefined table dependency => .undefined table dependency

/-- The table and the dependency of a cycle. -/
def cycle? : Issue → Option (Text × Text)
  | cycle table dependency => some (table, dependency)
  | undefined _ _ => none

/-- The table and the dependency of a reference to an undefined table. -/
def undefined? : Issue → Option (Text × Text)
  | cycle _ _ => none
  | undefined table dependency => some (table, dependency)

end Issue

/-- How far the visit of the tables is. -/
structure Progress where
  /-- The tables whose visits have ended, in that order. -/
  emitted : List Text := []
  /-- The issues in the order in which they were met. -/
  issues : List Issue := []
  deriving DecidableEq, Repr

/-- What the order of tables is told by. -/
structure Outline where
  /-- The registered tables in their order. -/
  names : List Text
  /-- The tables that a table references, whether it is registered or not. -/
  references : Text → List Text

/-- The tables of a registry with their references. -/
def Registry.outline (r : Registry) : Outline := ⟨r.names, r.references⟩

mutual

/-- Visits a table with all that it references. The tables of `free` are those that are defined and
whose visit has not begun on the way to here; a table outside is not visited. -/
def visit (r : Outline) (defined : List Text) (free : List Text) (table : Text) (p : Progress) :
    Progress :=
  if _h : table ∈ free then
    let p := follow r defined (free.erase table) table (r.references table) p
    { p with emitted := p.emitted ++ [table] }
  else p
termination_by (free.length, 0)
decreasing_by
  rw [List.length_erase_of_mem _h]
  exact Prod.Lex.left _ _ (Nat.sub_lt (List.length_pos_of_mem _h) Nat.one_pos)

/-- Follows the references of a table that are left. -/
def follow (r : Outline) (defined : List Text) (free : List Text) (table : Text) :
    (references : List Text) → Progress → Progress
  | [], p => p
  | d :: rest, p =>
    if d = table ∨ d ∈ p.emitted then follow r defined free table rest p
    else if d ∈ free then follow r defined free table rest (visit r defined free d p)
    else
      let issue := if d ∈ defined then .cycle table d else .undefined table d
      follow r defined free table rest { p with issues := p.issues ++ [issue] }
termination_by references => (free.length, references.length + 1)

end

/-- Visits several tables one after the other, except those whose visit has ended. -/
def visitAll (r : Outline) (defined : List Text) : List Text → Progress → Progress
  | [], p => p
  | table :: rest, p =>
    visitAll r defined rest (if table ∈ p.emitted then p else visit r defined defined table p)

/-- The tables that statements define. -/
def definedTables (statements : List Statement) : List Text :=
  Sql.firstOccurrences (statements.filterMap (·.table))

/-- The last statement that defines a table. -/
def definition? (statements : List Statement) (table : Text) : Option Statement :=
  statements.reverse.find? fun s => s.table == some table

/-- Statements in order, and what the order cannot honour. -/
structure Arrangement where
  statements : List Statement
  /-- The issues in the order in which they were met. -/
  issues : List Issue
  deriving DecidableEq, Repr

/-- The references within cycles that the order cannot honour. -/
def Arrangement.unresolved (a : Arrangement) : List (Text × Text) := a.issues.filterMap Issue.cycle?

/-- Brings statements into order: the definitions of the tables of an outline, and then the
statements that define no table in the order they have. -/
def arrangeBy (statements : List Statement) (r : Outline) : Arrangement :=
  let p := visitAll r (definedTables statements) r.names {}
  ⟨p.emitted.filterMap (definition? statements) ++ statements.filter (·.table.isNone), p.issues⟩

/-- Brings statements into order by the tables of a registry. -/
def arrange (statements : List Statement) (r : Registry) : Arrangement :=
  arrangeBy statements r.outline

/-- A table references one that is never defined. -/
structure Dangling where
  table : Text
  dependency : Text
  /-- The issues that were met before. -/
  before : List Issue
  deriving DecidableEq, Repr

/-- A dangling reference in words. -/
def Dangling.message (e : Dangling) : Text :=
  "Table ".toList ++ e.table ++ " references ".toList ++ e.dependency ++
    ", which is never defined".toList

/-- Brings statements into order; refuses references to tables that are not defined. -/
def arrangeStrictly (statements : List Statement) (r : Registry) : Except Dangling Arrangement :=
  let a := arrange statements r
  match a.issues.span (·.undefined?.isNone) with
  | (before, .undefined table dependency :: _) => .error ⟨table, dependency, before⟩
  | _ => .ok a

end SchemaMill.Schema
