import SchemaMill.Cli.Command
import SchemaMill.Cli.Run

/-!
# Converting files

All inputs are converted before the first document is written, so a run that fails writes none.
Without a folder for documents there must be just one, which is printed.
-/

namespace SchemaMill.Cli

open Conversion

/-- Why a file cannot be an input. -/
inductive InputProblem where
  | absent (p : Path)
  /-- The ending of its name is not known. -/
  | extension
  /-- A path cannot be looked at. -/
  | unusable (fault : FileFault)
  | noPath
  deriving DecidableEq, Repr

/-- The problem with an input, if there is one. -/
def inputProblem? (f : Folder) : Option Path → Option InputProblem
  | none => some .noPath
  | some p =>
    match f.find p with
    | .error fault => some (.unusable fault)
    | .ok (some (.file _)) => if (kindOf? p).isNone then some .extension else none
    | .ok _ => some (.absent p)

/-- The run that ends with a problem. -/
def InputProblem.run (f : Folder) : InputProblem → Run
  | absent p => .giveUp f [] ("Input file does not exist: ".toList ++ p.text)
  | extension =>
    .giveUp f [] ("Input file has invalid extension: ".toList ++ joinWith ", " extensions)
  | unusable fault => { folder := f, ending := .broken (.folder fault) }
  | noPath => { folder := f, ending := .broken .noPath }

/-- The settings that a user is reminded of. -/
def reminders (o : Options) : List Message :=
  [.info ("Output format: ".toList ++ o.format.name),
    .info ("Encoding: ".toList ++ o.source ++ " -> ".toList ++ o.target)]

/-- Prints the only document. -/
def printDocument (f : Folder) (told : List Message) : List Document → Run
  | [] => { folder := f, messages := told, ending := .broken .noDocument }
  | [d] =>
    let told := Run.telling f told [.success ("Converted ".toList ++ d.source.text)] fun messages =>
      { folder := f, messages }
    { told with output := d.content }
  | _ => .giveUp f told "Several output documents need --export-dir"

/-- What a user is told of a document that is written. -/
def writtenMessage (source : Text) (p : Path) : Message :=
  .success ("Converted ".toList ++ source ++ " -> ".toList ++ p.text)

/-- Writes documents below a folder. -/
def exportDocuments (folder : Path) (now : Moment) (f : Folder) (told : List Message) :
    List Document → Run
  | [] => { folder := f, messages := told }
  | d :: rest =>
    match writeDocument f folder now d with
    | .error e => .fail f told e
    | .ok (p, f) =>
      Run.telling f told [writtenMessage d.source.text p] fun told =>
        exportDocuments folder now f told rest

/-- The paths of the inputs. -/
def ConvertCommand.paths (c : ConvertCommand) : List Path := c.inputs.filterMap id

/-- Converts inputs with some options. -/
def convertInputs (c : ConvertCommand) (o : Options) (now : Moment) (f : Folder) : Run :=
  Run.telling f [] (reminders o) fun told =>
    match convertFiles o now f c.paths with
    | .error e => .fail f told e
    | .ok documents =>
      let told := told ++ documents.notices.map .notice
      match c.exportFolder with
      | none => printDocument f told documents.value
      | some folder => exportDocuments folder now f told documents.value

/-- Opens the folder for documents, if there is one. -/
def openExport (f : Folder) : Option Path → Except FileFault Folder
  | none => .ok f
  | some folder => openFolder f folder

/-- Runs the command that converts files. -/
def ConvertCommand.run (c : ConvertCommand) (now : Moment) (f : Folder) : Run :=
  match openExport f c.exportFolder with
  | .error fault => { folder := f, ending := .broken (.folder fault) }
  | .ok f =>
    match c.inputs.findSome? (inputProblem? f), c.settings.options with
    | some problem, _ => problem.run f
    | none, .error e => .refuse f e
    | none, .ok o => convertInputs c o now f

end SchemaMill.Cli
