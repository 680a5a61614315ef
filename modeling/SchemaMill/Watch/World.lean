import SchemaMill.File.Folder
import SchemaMill.Watch.Watcher

/-!
# Runs of a watcher

A world has a directory, a clock and a watcher. It moves by actions: changes to the directory, the
passing of time, and what is asked of the watcher.
-/

namespace SchemaMill.Watch

/-- The entries of a directory: files with their state, and folders. -/
structure Directory where
  /-- The entries; nothing is told about a folder. -/
  entries : List (Text × Option FileState) := []
  deriving DecidableEq, Repr

namespace Directory

/-- Writes a file with a size and a time. -/
def write (d : Directory) (name : Text) (state : FileState) : Except FileFault Directory :=
  if name.contains '/' then .error .missing
  else match d.entries.lookup name with
    | some none => .error .isFolder
    | _ => .ok ⟨setField name (some state) d.entries⟩

/-- Changes the time of a file. -/
def touch (d : Directory) (name : Text) (modified : Int) : Except FileFault Directory :=
  match d.entries.lookup name with
  | none => .error .missing
  | some none => .ok d
  | some (some state) => .ok ⟨setField name (some { state with modified }) d.entries⟩

/-- Removes a file. -/
def remove (d : Directory) (name : Text) : Except FileFault Directory :=
  match d.entries.lookup name with
  | none => .error .missing
  | some none => .error .isFolder
  | some (some _) => .ok ⟨d.entries.filter (·.1 != name)⟩

/-- Makes a folder. -/
def makeFolder (d : Directory) (name : Text) : Except FileFault Directory :=
  match d.entries.lookup name with
  | none => .ok ⟨setField name none d.entries⟩
  | some _ => .error .present

/-- The files that are looked for, in the order of their names. -/
def scan (extensions : List Text) (d : Directory) : Scan :=
  (d.entries.filterMap fun (name, state) =>
    if isWanted extensions name then state.map fun s => (name, s) else none).mergeSort
    fun a b => isOrdered a.1 b.1

end Directory

/-- One thing that happens in a world. -/
inductive Action (τ : Type) where
  | write (name : Text) (state : FileState)
  | touch (name : Text) (modified : Int)
  | remove (name : Text)
  | makeFolder (name : Text)
  /-- Time passes. -/
  | advance (duration : τ)
  | stop
  | scan
  /-- The watcher is shown the files. -/
  | settle
  /-- The watcher is shown the files and hands over those that are ready. -/
  | poll
  /-- The watcher polls until it is ordered to stop, at most so many times. -/
  | run (rounds : Nat)

/-- How a world goes. -/
structure Course (τ : Type) where
  /-- What the watcher looks for. -/
  settings : Settings τ
  /-- How far the clock moves whenever it is read. -/
  tick : τ
  /-- What comes of handing a file over. -/
  outcome : Text → Handling

/-- A directory, a clock and a watcher. -/
structure World (τ : Type) where
  directory : Directory := {}
  clock : τ
  watcher : Watcher τ := {}

/-- What an action answers. -/
inductive Answer where
  | nothing
  /-- The files of the directory. -/
  | files (scan : Scan)
  /-- The names of files. -/
  | names (files : List Text)
  /-- The directory cannot be changed so. -/
  | refused (fault : FileFault)
  deriving DecidableEq, Repr

/-- A world after an action. -/
structure Step (τ : Type) where
  world : World τ
  /-- What the action answers. -/
  answer : Answer := .nothing
  /-- The files that were handed over. -/
  handled : List Text := []
  events : List Event := []

namespace World

variable {τ : Type}

/-- The world after a change to its directory. -/
def change (w : World τ) (f : Directory → Except FileFault Directory) : Step τ :=
  match f w.directory with
  | .ok directory => { world := { w with directory } }
  | .error fault => { world := w, answer := .refused fault }

variable [Add τ] [Sub τ] [LE τ] [DecidableLE τ]

/-- The files of the directory that are looked for. -/
def files (c : Course τ) (w : World τ) : Scan := w.directory.scan c.settings.extensions

/-- Reads the clock and lists the directory. -/
def look (c : Course τ) (w : World τ) : (τ × Scan) × World τ :=
  let now := w.clock + c.tick
  ((now, w.files c), { w with clock := now })

/-- The handler of a course changes nothing in the world. -/
def handler (c : Course τ) : Handler (World τ) := fun w file => (w, c.outcome file)

/-- The world with the watcher that a poll gives. -/
def ofPolled (p : Polled τ (World τ)) (answer : Answer) : Step τ :=
  ⟨{ p.world with watcher := p.watcher }, answer, p.handled, p.events⟩

/-- The world after an action. -/
def step (c : Course τ) (w : World τ) : Action τ → Step τ
  | .write name state => w.change (·.write name state)
  | .touch name modified => w.change (·.touch name modified)
  | .remove name => w.change (·.remove name)
  | .makeFolder name => w.change (·.makeFolder name)
  | .advance duration => { world := { w with clock := w.clock + duration } }
  | .stop => { world := { w with watcher := w.watcher.stop } }
  | .scan => { world := w, answer := .files (w.files c) }
  | .settle =>
    let ((now, scan), w) := w.look c
    let shown := w.watcher.settle c.settings now scan
    { world := { w with watcher := shown.watcher }
      answer := .names shown.ready
      events := shown.events }
  | .poll =>
    let ((now, scan), w) := w.look c
    let polled := w.watcher.poll c.settings (handler c) now scan w
    ofPolled polled (.names polled.handled)
  | .run rounds => ofPolled (w.watcher.run c.settings (handler c) (look c) rounds w) .nothing

/-- The worlds and answers of several actions one after the other. -/
def steps (c : Course τ) (w : World τ) : List (Action τ) → List (Step τ)
  | [] => []
  | a :: rest => w.step c a :: steps c (w.step c a).world rest

end World

end SchemaMill.Watch
