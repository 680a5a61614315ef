import SchemaMill.Cli.Arrivals
import SchemaMill.Cli.Infer
import Std.Time.DateTime.Timestamp

/-!
# The program

Reads the files that a command names, runs the command on what was read, and carries out what the
run has done: files are written, messages go to the standard error and into the logs, and the output
is printed.
-/

namespace SchemaMill.Program

open Charset Cli

/-! ### Files -/

/-- A path as the system takes it. -/
def systemText (p : Path) : String := String.ofList p.text

/-- The path of a place below the root. -/
def pathOf (place : Place) : Path := ⟨.root, place.drop 1⟩

/-- What stands at a path. -/
def nodeAt? (p : Path) : IO (Option Node) := do
  try
    let content ← IO.FS.readBinFile (systemText p)
    return some (.file content.toList)
  catch _ =>
    try
      let found ← IO.FS.realPath (systemText p)
      return if ← found.isDir then some .folder else none
    catch _ => return none

/-- Reads what stands at a path and on the way to it. -/
def load (f : Folder) (p : Path) : IO Folder := do
  let mut f := f
  for k in List.range p.names.length do
    let q : Path := { p with names := p.names.take (k + 1) }
    match f.placeOf q with
    | .error _ => return f
    | .ok place =>
      if (f.node? place).isNone then
        match ← nodeAt? q with
        | none => return f
        | some n => f := f.put place n
  return f

/-- The folders on the way to the current folder. -/
def currentFolder : IO Folder := do
  let here := Path.ofText (toString (← IO.currentDir)).toList
  let place := ['/'] :: here.names
  let above := (List.range place.length).map fun k => (place.take (k + 1), Node.folder)
  return { nodes := above, here := place }

/-- Reads what stands at several paths. -/
def loadAll (paths : List Path) : IO Folder := do paths.foldlM load (← currentFolder)

/-- Carries out what has changed. -/
def save (before after : Folder) : IO Unit := do
  for (place, node) in before.changesSince after do
    let p := systemText (pathOf place)
    match node with
    | .folder => IO.FS.createDirAll p
    | .file content => IO.FS.writeBinFile p ⟨content.toArray⟩

/-! ### Time -/

/-- The instant of the system's clock. -/
def instantNow : IO Int := do
  let epoch : Moment := ⟨⟨1970, 1, 1⟩, 0, 0, 0, 0, some 0⟩
  let now ← Std.Time.Timestamp.now
  return epoch.instant + now.toNanosecondsSinceUnixEpoch.val / 1000

/-! ### Messages -/

/-- Adds a message to the logs that it belongs to. -/
def log (folder : Path) (stamp : Text) (m : Message) : IO Unit := do
  for name in logNames do
    if m.belongsTo name then
      let line := stamp ++ [' '] ++ m.level?.getD [] ++ ": ".toList ++ m.text
      let h ← IO.FS.Handle.mk (systemText (folder.child name)) .append
      h.putStrLn (String.ofList line)

/-- Tells the user messages, and adds them to the logs in a folder. -/
def tell (folder : Option Path) (messages : List Message) : IO Unit := do
  let stamp := ((Moment.ofInstant? (← instantNow)).bind Moment.timestamp?).getD []
  for m in messages do
    IO.eprintln (String.ofList (m.mark ++ m.shownText))
    for folder in folder.toList do log folder stamp m

/-- Why a run breaks off, in words. -/
def breakdownText : Breakdown → Text
  | .conversion e => e.message
  | .folder fault => fault.message
  | .noDocument => "No input files"
  | .noPath => "An input has no path"
  | .markup _ => "Text with tags that do not match"

/-- Carries out a run on files that were read, and gives its status. -/
def finish (folder : Option Path) (before : Folder) (r : Run) : IO UInt32 := do
  save before r.folder
  (← IO.getStdout).write ⟨r.output.toArray⟩
  match r.ending with
  | .broken b =>
    tell none r.messages
    IO.eprintln (String.ofList (breakdownText b))
  | _ => tell folder r.messages
  return r.ending.status.toUInt32

/-! ### Watching -/

/-- The files of a folder that a watcher looks for. -/
def scan (folder : Path) : IO Watch.Scan := do
  let found ← IO.FS.realPath (systemText folder)
  let mut files : Watch.Scan := []
  for entry in ← found.readDir do
    let name := entry.fileName.toList
    if Watch.isWanted Conversion.extensions name then
      try
        let data ← entry.path.metadata
        if data.type == .file then
          let time : Int := data.modified.sec * 1000000000 + data.modified.nsec.toNat
          files := (name, ⟨data.byteSize.toNat, time⟩) :: files
      catch _ => pure ()
  return files.mergeSort fun a b => isOrdered a.1 b.1

/-- The paths that a command writes to or below. -/
def exportPaths (folder : Path) : List Path := folder :: logNames.map folder.child

/-- Hands one file over, and carries out what the handler has done. -/
def handOver (c : WatchCommand) (o : Conversion.Options) (w : Watch.Watcher Double) (file : Text) :
    IO (Watch.Watcher Double) := do
  let before ← loadAll (c.inputFolder.child file :: exportPaths c.exportFolder)
  let polled := w.handOver (Scene.receive c o) ⟨before, ← instantNow, .ofInt 0, 0, []⟩ file
  save before polled.world.folder
  tell c.exportFolder
    (polled.world.messages ++ polled.events.map (.event c.inputFolder))
  return polled.watcher

/-- Looks at the folder again and again. -/
partial def watch (c : WatchCommand) (o : Conversion.Options) (w : Watch.Watcher Double) :
    IO Unit := do
  let now : Double := .ofDecimal false (← IO.monoMsNow) (-3)
  let shown := w.settle ⟨c.stability, Conversion.extensions⟩ now (← scan c.inputFolder)
  tell c.exportFolder (shown.events.map (.event c.inputFolder))
  let w ← shown.ready.foldlM (handOver c o) shown.watcher
  IO.sleep 500
  watch c o w

/-! ### Commands -/

/-- How commands are given. -/
def usage : List String :=
  ["Usage: db-blender COMMAND", "",
    "convert INPUTS... [--export-dir DIR] [--merge] [OPTIONS]",
    "watch [--input-dir DIR] [--export-dir DIR] [--stability SECONDS] [OPTIONS]",
    "infer PATH [table|json] [--from-encoding NAME]", "",
    "Options: --from-encoding NAME, --to-encoding NAME, --strip-prefix TEXT,",
    "--output-format mysql|postgresql|csv|json, --table-name NAME, --strict, --verbose"]

/-- Runs a command. -/
def run : Command → IO UInt32
  | .help => do
    usage.forM (IO.println ·)
    return 0
  | .infer c => do
    let f ← loadAll [c.input]
    finish none f (c.run f)
  | .convert c => do
    let f ← loadAll (c.paths ++ c.exportFolder.toList.flatMap exportPaths)
    match Moment.ofInstant? (← instantNow) with
    | none => return 1
    | some now => finish c.exportFolder f (c.run now f)
  | .watch c => do
    let f ← loadAll (c.inputFolder :: exportPaths c.exportFolder)
    match c.begin (← instantNow) f with
    | .error r => finish none f r
    | .ok (o, scene) =>
      save f scene.folder
      tell c.exportFolder (scene.messages ++ [.event c.inputFolder .started])
      watch c o {}
      return 0

/-- The values that stand in the environment for parameters. -/
def environment : IO Environment := do
  let ps := convertParameters ++ watchParameters ++ inferParameters
  (ps.flatMap Parameter.variables).eraseDups.filterMapM fun name => do
    return (← IO.getEnv (String.ofList name)).map fun value => (name, value.toList)

end SchemaMill.Program

/-- Runs the command that the arguments stand for. -/
def main (arguments : List String) : IO UInt32 := do
  match SchemaMill.Cli.Command.read (arguments.map String.toList)
      (← SchemaMill.Program.environment) with
  | .error e =>
    IO.eprintln (String.ofList e.message)
    return 2
  | .ok c => SchemaMill.Program.run c
