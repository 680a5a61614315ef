import SchemaMill.Cli.Command
import SchemaMill.Cli.Run
import SchemaMill.Cli.Table

/-!
# Inferring types

The types of the columns of a file with records, as a table or as an object.
-/

namespace SchemaMill.Cli

open Charset Conversion

/-- The bytes of printed text. -/
def printedBytes (t : Text) : Bytes := Utf8.encode t

/-- Types of columns as they are printed. Title and cells of a table are marked up. -/
def typesText (format : TypesFormat) (title : Text) (types : List (Text × ColumnType)) :
    Except Markup.Fault Text :=
  let named := types.map fun (column, type) => (column, type.name)
  match format with
  | .json =>
    .ok (Json.printIndented 0 (.object (named.map fun (column, type) => (column, .text type))) ++
      ['\n'])
  | .table => do
    let title ← Markup.shown title
    let rows ← named.mapM fun (column, type) => do .ok (← Markup.shown column, type)
    .ok (Table.text ⟨title, ("Column", "Type"), rows⟩)

/-- The kind of records in a file. -/
def recordsKind? (p : Path) : Option InputKind := (kindOf? p).filter (· != .dump)

/-- Runs the command that infers types. -/
def InferCommand.run (c : InferCommand) (f : Folder) : Run :=
  match recordsKind? c.input with
  | none => .giveUp f [] "Type inference needs a .csv or .json file"
  | some kind =>
    match readText f c.encoding c.input >>= readRecords kind with
    | .error e => .fail f [] e
    | .ok records =>
      let messages := [.info ("Records: ".toList ++ decimal records.length)]
      match typesText c.format c.input.name (columnTypes records) with
      | .error fault => { folder := f, messages, ending := .broken (.markup fault) }
      | .ok text => { folder := f, messages, output := printedBytes text }

end SchemaMill.Cli
