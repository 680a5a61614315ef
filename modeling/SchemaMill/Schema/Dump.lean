import SchemaMill.Calendar.Moment
import SchemaMill.Schema.Document
import SchemaMill.Schema.Order
import SchemaMill.Schema.Script

/-!
# Schema dumps

Dumps are cut into statements, moved to the target with one registry for all of them, brought into
order if they are merged, and written as one document.
-/

namespace SchemaMill.Schema

/-- How dumps are converted. -/
structure Options where
  /-- What table definitions are moved to. -/
  target : Target := {}
  /-- Definitions are brought into order. -/
  merge : Bool := false
  /-- An unterminated statement is an error. -/
  strictStatements : Bool := false
  /-- A reference to an undefined table is an error. -/
  strictReferences : Bool := false
  deriving DecidableEq, Repr

/-- Why dumps cannot be converted. -/
inductive Failure where
  /-- A dump ends inside a statement. -/
  | unterminated (statement : Text)
  /-- A table references one that is never defined. -/
  | dangling (reference : Dangling)
  /-- The moment of the conversion has no time stamp. -/
  | untimely
  deriving DecidableEq, Repr

/-- A failure in words. -/
def Failure.message : Failure → Text
  | unterminated statement => "Input ends inside a statement: ".toList ++ excerpt statement
  | dangling reference => reference.message
  | untimely => "date value out of range"

/-- The statements of a dump. -/
def splitDump (strict : Bool) (t : Text) : Except Failure (List Text × List Notice) :=
  let script := Script.ofText t
  match script.remainder with
  | none => .ok (script.statements, [])
  | some remainder =>
    if strict then .error (.unterminated remainder)
    else .ok (script.statements, [.unterminated remainder])

/-- The outcome of dumps, one after the other, from a registry on. -/
def convertDumps (o : Options) (r : Registry) : List Text → Except Failure Outcome
  | [] => .ok ⟨[], r, []⟩
  | t :: rest => do
    let (statements, notices) ← splitDump o.strictStatements t
    let first := convertStatements o.target r statements
    let others ← convertDumps o first.registry rest
    .ok { others with
      statements := first.statements ++ others.statements
      notices := notices ++ first.notices ++ others.notices }

/-- What a conversion of dumps gives. -/
structure Result where
  document : Text
  statements : List Statement
  /-- The registry of all tables. -/
  registry : Registry
  /-- References within cycles that the order cannot honour. -/
  unresolved : List (Text × Text) := []
  notices : List Notice := []

/-- The arrangement of statements; they stay as they are unless they are merged. -/
def arrangeFor (o : Options) (statements : List Statement) (r : Registry) :
    Except Failure Arrangement :=
  if !o.merge then .ok ⟨statements, []⟩
  else if o.strictReferences then (arrangeStrictly statements r).mapError .dangling
  else .ok (arrange statements r)

/-- The document of several dumps at a moment. -/
def convert (o : Options) (now : Moment) (texts : List Text) : Except Failure Result := do
  let outcome ← convertDumps o .empty texts
  let arrangement ← arrangeFor o outcome.statements outcome.registry
  match now.timestamp? with
  | none => .error .untimely
  | some timestamp =>
    .ok {
      document := document o.target.dialect o.target.charset timestamp
        (arrangement.statements.map (·.text))
      statements := arrangement.statements
      registry := outcome.registry
      unresolved := arrangement.unresolved
      notices := outcome.notices ++ arrangement.issues.map Issue.notice }

/-- The document of one dump. -/
def convertOne (o : Options) (now : Moment) (text : Text) : Except Failure Result :=
  convert o now [text]

/-- The document of several dumps brought into order together. -/
def mergeDumps (o : Options) (now : Moment) (texts : List Text) : Except Failure Result :=
  convert { o with merge := true } now texts

end SchemaMill.Schema
