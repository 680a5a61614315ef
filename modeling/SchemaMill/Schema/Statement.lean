import SchemaMill.Notice
import SchemaMill.Schema.Registry
import SchemaMill.Schema.Target

/-!
# Statements of the output

Each statement of a script gives one statement of the output. A table definition is moved to the
target and registered; whatever else there is, and a definition that cannot be read, stays as it is.
-/

namespace SchemaMill.Schema

/-- A statement of the output. -/
structure Statement where
  text : Text
  /-- The table that the statement defines. -/
  table : Option Text := none
  deriving DecidableEq, Repr

open Sql.Pattern in
/-- How table definitions begin. -/
def definitionStart : Sql.Pattern :=
  all [many blank, word "CREATE", blanks, opt (seq (word "TEMPORARY") blanks), word "TABLE",
    wordEdge]

/-- Whether a statement begins like a table definition. -/
def isDefinition (sql : Text) : Bool := (definitionStart.match? none sql).isSome

/-- Statements of the output, with the registry and the notices that come of them. -/
structure Outcome where
  /-- The statements in their order. -/
  statements : List Statement := []
  registry : Registry
  /-- The notices in their order. -/
  notices : List Notice := []

/-- The outcome of a table definition. -/
def defineTable (o : Target) (r : Registry) (t : Sql.Table) : Outcome :=
  let moved := o.move t
  let definition := describe o.dialect moved
  { statements := [⟨moved.render o.dialect, some definition.name⟩]
    registry := r.register definition
    notices := if definition.name ∈ r.names then [.redefined definition.name] else [] }

/-- The outcome of one statement. -/
def convertStatement (o : Target) (r : Registry) (sql : Text) : Outcome :=
  if isDefinition sql then
    match Sql.readTable sql with
    | .ok t => defineTable o r t
    | .error e => ⟨[⟨sql, none⟩], r, [.unread e sql]⟩
  else ⟨[⟨sql, none⟩], r, []⟩

/-- One outcome and, from its registry on, another. -/
def Outcome.andThen (first : Outcome) (next : Registry → Outcome) : Outcome :=
  let second := next first.registry
  ⟨first.statements ++ second.statements, second.registry, first.notices ++ second.notices⟩

/-- The outcome of several statements one after the other. -/
def convertStatements (o : Target) (r : Registry) : List Text → Outcome
  | [] => ⟨[], r, []⟩
  | sql :: rest => (convertStatement o r sql).andThen fun r => convertStatements o r rest

end SchemaMill.Schema
