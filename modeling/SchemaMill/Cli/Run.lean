import SchemaMill.Conversion.Document
import SchemaMill.Markup.Basic
import SchemaMill.Watch.Watcher

/-!
# Runs

What a command does to the files, and what it prints and tells. A run ends well, or it is given up
with a message, or it breaks off without one. Messages to the user are marked up text, so a run also
breaks off at a message that cannot be shown.
-/

namespace SchemaMill.Cli

open Charset Conversion

/-- The name of the log of errors. -/
def errorLog : Text := "error.log"

/-- The name of the log of everything. -/
def combinedLog : Text := "combined.log"

/-- What a user is told. -/
inductive Message where
  /-- How things stand. -/
  | info (t : Text)
  /-- What has been done. -/
  | success (t : Text)
  /-- Why the run is given up. -/
  | error (t : Text)
  /-- What is worth knowing about an output. -/
  | notice (n : Notice)
  /-- What a watcher does in a folder. -/
  | event (folder : Path) (e : Watch.Event)
  deriving DecidableEq, Repr

namespace Message

/-- A message in words. -/
def text : Message → Text
  | info t => t
  | success t => t
  | error t => t
  | notice n => n.message
  | event folder e => e.message folder

/-- Whether a message is marked up. -/
def isMarkedUp : Message → Bool
  | notice _ => false
  | event .. => false
  | _ => true

/-- The mark of a message on a terminal. -/
def mark : Message → Text
  | info _ => "i "
  | success _ => "✓ "
  | error _ => "Error: "
  | notice _ => "Warning: "
  | event _ e => if e.isError then "Error: " else "i "

/-- Why a message cannot be shown. What goes into the logs is not marked up. -/
def fault? (m : Message) : Option Markup.Fault :=
  if m.isMarkedUp then
    match Markup.shown m.text with
    | .ok _ => none
    | .error fault => some fault
  else none

/-- A message as it is shown, or as it is if it cannot be shown. -/
def shownText (m : Message) : Text :=
  if m.isMarkedUp then (Markup.shown m.text).toOption.getD m.text else m.text

/-- How grave a message is that goes into the logs. -/
def level? : Message → Option Text
  | notice _ => some "WARNING"
  | event _ e => some (if e.isError then "ERROR" else "INFO")
  | _ => none

/-- Whether a message goes into a log: all that have a level go into one, errors also into the
other. -/
def belongsTo (m : Message) (log : Text) : Bool :=
  match m.level? with
  | none => false
  | some level => log == combinedLog || level == "ERROR".toList

end Message

/-- Why a run breaks off. -/
inductive Breakdown where
  /-- A conversion fails in a way that users are not told about. -/
  | conversion (e : Failure)
  /-- A file or a folder cannot be looked at or made. -/
  | folder (fault : FileFault)
  | noDocument
  | noPath
  /-- Marked up text cannot be shown. -/
  | markup (fault : Markup.Fault)
  deriving DecidableEq, Repr

/-- How a run ends. -/
inductive Ending where
  /-- All is done. -/
  | done
  /-- The run is given up; the last message tells why. -/
  | givenUp
  /-- The run breaks off. -/
  | broken (b : Breakdown)
  deriving DecidableEq, Repr

/-- The status that a process ends with. -/
def Ending.status : Ending → UInt8
  | done => 0
  | givenUp => 1
  | broken _ => 1

/-- What comes of a command. -/
structure Run where
  /-- The files as the run leaves them. -/
  folder : Folder
  /-- What the user is told. -/
  messages : List Message := []
  /-- What is printed. -/
  output : Bytes := []
  /-- How the run ends. -/
  ending : Ending := .done

/-- Tells messages and goes on with all that has been told, unless one of them cannot be shown. -/
def Run.telling (f : Folder) (told : List Message) : List Message → (List Message → Run) → Run
  | [], next => next told
  | m :: rest, next =>
    match m.fault? with
    | some fault => { folder := f, messages := told ++ [m], ending := .broken (.markup fault) }
    | none => Run.telling f (told ++ [m]) rest next

/-- A run that is given up for a reason. -/
def Run.giveUp (f : Folder) (told : List Message) (reason : Text) : Run :=
  Run.telling f told [.error reason] fun messages =>
    { folder := f, messages, ending := .givenUp }

/-- A run that ends with a failure: users are told about some, and others break it off. -/
def Run.fail (f : Folder) (messages : List Message) (e : Failure) : Run :=
  if e.isReported then .giveUp f messages e.message
  else { folder := f, messages, ending := .broken (.conversion e) }

/-- A run that ends because settings are no options. -/
def Run.refuse (f : Folder) : SettingsError → Run
  | .encoding e => .fail f [] (.transcode (.name e))
  | e => .giveUp f [] e.message

/-! ### Folders for documents -/

/-- The names of the logs in a folder for documents. -/
def logNames : List Text := [errorLog, combinedLog]

/-- Opens a log, which is made if it is not there. -/
def openLog (f : Folder) (p : Path) : Except FileFault Folder :=
  match f.read p with
  | .ok _ => .ok f
  | .error .missing => f.write p []
  | .error fault => .error fault

/-- Makes a folder for documents unless it is there, and opens its logs. -/
def openFolder (f : Folder) (p : Path) : Except FileFault Folder := do
  (logNames.map p.child).foldlM openLog (← f.makeFolders p)

end SchemaMill.Cli
