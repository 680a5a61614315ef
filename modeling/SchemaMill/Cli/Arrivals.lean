import SchemaMill.Cli.Command
import SchemaMill.Cli.Convert
import SchemaMill.Decimal.Arithmetic

/-!
# Converting files as they arrive

A watcher is shown the files of a folder and converts each that is ready. A file that cannot be
converted is left alone, and the watch goes on until it is ordered to stop.
-/

namespace SchemaMill.Cli

open Conversion

/-- A watch that is on. -/
structure Scene where
  folder : Folder
  /-- The time of day, in microseconds. -/
  instant : Int
  /-- The time that the watcher is shown. -/
  clock : Double := .ofInt 0
  /-- How many files have been handed over. -/
  handed : Nat := 0
  messages : List Message := []

namespace Scene

/-- The scene with one more message. -/
def tell (s : Scene) (m : Message) : Scene := { s with messages := s.messages ++ [m] }

/-- The moment of a scene. -/
def now? (s : Scene) : Except Failure Moment :=
  match Moment.ofInstant? s.instant with
  | some now => .ok now
  | none => .error (.schema .untimely)

/-- Converts a file of the watched folder and writes its document. Also gives the message about the
document, which is the last one. -/
def convert (c : WatchCommand) (o : Options) (s : Scene) (file : Text) :
    Except Failure (Scene × Message) := do
  let now ← s.now?
  let d ← convertFile o now s.folder (c.inputFolder.child file)
  let (p, f) ← writeDocument s.folder c.exportFolder now d.value
  let m := writtenMessage file p
  let told := d.notices.map Message.notice ++ [m]
  .ok ({ s with folder := f, messages := s.messages ++ told }, m)

/-- Takes a file over. It is an error if the file cannot be converted, or if the message about its
document cannot be shown. -/
def receive (c : WatchCommand) (o : Options) : Watch.Handler Scene := fun s file =>
  match s.convert c o file with
  | .ok (s, m) => (s, { fails := m.fault?.isSome })
  | .error _ => (s, { fails := true })

end Scene

/-- The scene in which a watch begins, or the run that it is given up with. -/
def WatchCommand.begin (c : WatchCommand) (instant : Int) (f : Folder) :
    Except Run (Options × Scene) :=
  match openFolder f c.exportFolder with
  | .error fault => .error { folder := f, ending := .broken (.folder fault) }
  | .ok f =>
    match f.find c.inputFolder with
    | .error fault => .error { folder := f, ending := .broken (.folder fault) }
    | .ok none | .ok (some (.file _)) =>
      .error (.giveUp f [] ("Input directory does not exist: ".toList ++ c.inputFolder.text))
    | .ok (some .folder) =>
      match c.settings.options with
      | .error e => .error (.refuse f e)
      | .ok o =>
        let start := "Watching ".toList ++ c.inputFolder.text ++ ", writing to ".toList ++
          c.exportFolder.text
        match Message.fault? (.info start) with
        | some fault =>
          .error { folder := f, messages := [.info start], ending := .broken (.markup fault) }
        | none => .ok (o, { folder := f, instant, messages := [.info start] })

/-! ### A watch that is stopped -/

/-- The state of a file. Its content and its name are all that is known of it. -/
def stateOf (content : Charset.Bytes) : Watch.FileState := ⟨content.length, 0⟩

/-- The files of a folder that a watcher looks for. -/
def scanFolder (f : Folder) (folder : Path) : Watch.Scan :=
  match f.placeOf folder with
  | .error _ => []
  | .ok place =>
    let found := f.nodes.filterMap fun (q, node) =>
      match node, q.getLast? with
      | .file content, some name =>
        if q.dropLast = place ∧ Watch.isWanted extensions name then some (name, stateOf content)
        else none
      | _, _ => none
    found.mergeSort fun a b => isOrdered a.1 b.1

namespace Scene

/-- The time between two looks at a folder: enough for each file to have stayed the same. -/
def pause (c : WatchCommand) : Double :=
  if c.stability ≤ .ofInt 0 then .ofInt 1 else c.stability + .ofInt 1

/-- Looks at the watched folder after a pause. -/
def look (c : WatchCommand) (s : Scene) : (Double × Watch.Scan) × Scene :=
  let clock := s.clock + pause c
  ((clock, scanFolder s.folder c.inputFolder), { s with clock })

/-- The time that taking one file over lasts, in microseconds. -/
def effort : Int := 1000

/-- Takes a file over. After the last of `count` files the order to stop comes. -/
def receiveUntil (c : WatchCommand) (o : Options) (count : Nat) : Watch.Handler Scene :=
  fun s file =>
    let (s, outcome) := s.receive c o file
    let s := { s with instant := s.instant + effort, handed := s.handed + 1 }
    if count ≤ s.handed then
      (s.tell (.info "Received SIGTERM, stopping"), { outcome with stops := true })
    else (s, outcome)

end Scene

/-- Runs the command that watches a folder, until so many files have been handed over. Each file is
seen at one look and handed over at the next. -/
def WatchCommand.runUntil (c : WatchCommand) (count : Nat) (instant : Int) (f : Folder) : Run :=
  match c.begin instant f with
  | .error run => run
  | .ok (o, scene) =>
    let polled := Watch.Watcher.run ⟨c.stability, extensions⟩ (Scene.receiveUntil c o count)
      (Scene.look c) (2 * count + 2) {} scene
    { folder := polled.world.folder
      messages := polled.world.messages ++ polled.events.map (.event c.inputFolder) }

end SchemaMill.Cli
