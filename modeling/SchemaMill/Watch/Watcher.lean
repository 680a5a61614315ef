import SchemaMill.File.Path
import SchemaMill.Text.Letter
import SchemaMill.Value.Basic

/-!
# Watching files

A watcher is shown again and again which files there are, and hands a file over once its size and
the time of its last change have stayed the same for long enough. A file that changes after it was
handed over is handed over again.

Time is whatever has differences and an order.
-/

namespace SchemaMill.Watch

/-- What tells the contents of a file apart. -/
structure FileState where
  /-- The number of bytes. -/
  size : Nat
  /-- The time of the last change, in nanoseconds. -/
  modified : Int
  deriving DecidableEq, Repr

/-- The files that are shown to a watcher, in the order of their names. -/
abbrev Scan := List (Text × FileState)

/-- What happens to files. -/
inductive Event where
  /-- A new file is there. -/
  | detected (file : Text)
  /-- A file that was handed over has changed. -/
  | changed (file : Text)
  /-- A file that was handed over is gone. -/
  | removed (file : Text)
  /-- A file is handed over. -/
  | processing (file : Text)
  /-- A file that was handed over is done. -/
  | succeeded (file : Text)
  /-- A file that was handed over made an error. -/
  | failed (file : Text)
  | started
  | ended
  deriving DecidableEq, Repr

namespace Event

/-- Whether an event is an error. -/
def isError : Event → Bool
  | failed _ => true
  | _ => false

/-- An event in a folder in words. -/
def message (folder : Path) (e : Event) : Text :=
  let path (file : Text) : Text := (folder.child file).text
  match e with
  | detected file => "File detected: ".toList ++ path file
  | changed file => "File changed: ".toList ++ path file
  | removed file => "File removed: ".toList ++ path file
  | processing file => "Processing file: ".toList ++ path file
  | succeeded file => "Successfully processed file: ".toList ++ path file
  | failed file => "Error processing file ".toList ++ path file
  | started => "Starting file watcher on ".toList ++ folder.text
  | ended => "File watcher stopped"

end Event

/-- What a watcher looks for. -/
structure Settings (τ : Type) where
  /-- How long a file must stay the same. -/
  stability : τ
  /-- The endings of the files to hand over, in small letters. -/
  extensions : List Text

/-- Whether a file of a given name is looked for. Files that begin with a point are hidden. -/
def isWanted (extensions : List Text) (name : Text) : Bool :=
  name.head? != some '.' && extensions.contains (lowerCase (Path.splitName name).2)

/-- What a watcher remembers. -/
structure Watcher (τ : Type) where
  /-- The files that wait: the state last seen and when it was first seen. -/
  pending : List (Text × (FileState × τ)) := []
  /-- The state in which each file was last handed over. -/
  processed : List (Text × FileState) := []
  /-- No more files are handed over. -/
  stopped : Bool := false
  deriving DecidableEq, Repr

variable {τ σ : Type}

/-- The watcher after an order to stop. -/
def Watcher.stop (w : Watcher τ) : Watcher τ := { w with stopped := true }

/-- A watcher that has been shown files, with those that are ready and what happened. -/
structure Shown (τ : Type) where
  watcher : Watcher τ
  /-- The files that are ready. -/
  ready : List Text := []
  events : List Event := []

namespace Watcher

/-- Forgets the files that are gone. -/
def forget (w : Watcher τ) (scan : Scan) : Shown τ :=
  let isThere (file : Text) : Bool := (scan.map Prod.fst).contains file
  { watcher := { w with
      processed := w.processed.filter fun p => isThere p.1
      pending := w.pending.filter fun p => isThere p.1 }
    events := (w.processed.filter fun p => !isThere p.1).map fun p => .removed p.1 }

variable [Sub τ] [LE τ] [DecidableLE τ]

/-- Looks at one file that is there. -/
def examine (s : Settings τ) (now : τ) (w : Watcher τ) (file : Text) (state : FileState) :
    Shown τ :=
  if w.processed.lookup file = some state then { watcher := w }
  else
    let waiting : Watcher τ := { w with pending := setField file (state, now) w.pending }
    match w.pending.lookup file with
    | some (seen, since) =>
      if seen ≠ state then { watcher := waiting }
      else if s.stability ≤ now - since then { watcher := w, ready := [file] }
      else { watcher := w }
    | none =>
      let event := if (w.processed.lookup file).isSome then Event.changed file else .detected file
      { watcher := waiting, events := [event] }

/-- Looks at the files that are there, one after the other. -/
def examineAll (s : Settings τ) (now : τ) (w : Watcher τ) : Scan → Shown τ
  | [] => { watcher := w }
  | (file, state) :: rest =>
    let first := examine s now w file state
    let others := examineAll s now first.watcher rest
    { others with ready := first.ready ++ others.ready, events := first.events ++ others.events }

/-- Shows the files to a watcher at a time. -/
def settle (s : Settings τ) (now : τ) (scan : Scan) (w : Watcher τ) : Shown τ :=
  let kept := w.forget scan
  let shown := examineAll s now kept.watcher scan
  { shown with events := kept.events ++ shown.events }

end Watcher

/-! ### Handing files over -/

/-- What comes of handing a file over. -/
structure Handling where
  /-- An error was made. -/
  fails : Bool := false
  /-- The watcher was ordered to stop. -/
  stops : Bool := false
  deriving DecidableEq, Repr

/-- A handler takes files over, in a world that it may change. -/
abbrev Handler (σ : Type) := σ → Text → σ × Handling

/-- A watcher that has handed files over. -/
structure Polled (τ σ : Type) where
  watcher : Watcher τ
  /-- The world after the handler. -/
  world : σ
  /-- The files that were handed over. -/
  handled : List Text := []
  events : List Event := []

namespace Watcher

/-- Marks a waiting file as handed over. -/
def take (w : Watcher τ) (file : Text) : Watcher τ :=
  match w.pending.lookup file with
  | none => w
  | some (state, _) =>
    { w with
      pending := w.pending.filter fun p => p.1 != file
      processed := setField file state w.processed }

/-- Hands one file over. An error that the handler makes is noted and has no further effect. -/
def handOver (handle : Handler σ) (w : Watcher τ) (world : σ) (file : Text) : Polled τ σ :=
  let (world, outcome) := handle world file
  let w := w.take file
  { watcher := if outcome.stops then w.stop else w
    world
    handled := [file]
    events := [.processing file, if outcome.fails then .failed file else .succeeded file] }

/-- Hands files over one after the other, until the watcher is ordered to stop. -/
def handOverAll (handle : Handler σ) (w : Watcher τ) (world : σ) : List Text → Polled τ σ
  | [] => { watcher := w, world }
  | file :: rest =>
    if w.stopped then { watcher := w, world }
    else
      let first := handOver handle w world file
      let others := handOverAll handle first.watcher first.world rest
      { others with
        handled := first.handled ++ others.handled
        events := first.events ++ others.events }

variable [Sub τ] [LE τ] [DecidableLE τ]

/-- Shows the files to a watcher at a time, and hands over those that are ready. -/
def poll (s : Settings τ) (handle : Handler σ) (now : τ) (scan : Scan) (w : Watcher τ) (world : σ) :
    Polled τ σ :=
  let shown := w.settle s now scan
  let polled := handOverAll handle shown.watcher world shown.ready
  { polled with events := shown.events ++ polled.events }

/-- Polls until the watcher is ordered to stop, at most so many times. Each time the world tells the
time and the files that are there. -/
def runFor (s : Settings τ) (handle : Handler σ) (look : σ → (τ × Scan) × σ) :
    (rounds : Nat) → Watcher τ → σ → Polled τ σ
  | 0, w, world => { watcher := w, world }
  | rounds + 1, w, world =>
    if w.stopped then { watcher := w, world }
    else
      let ((now, scan), world) := look world
      let first := w.poll s handle now scan world
      let others := runFor s handle look rounds first.watcher first.world
      { others with
        handled := first.handled ++ others.handled
        events := first.events ++ others.events }

/-- Polls until the watcher is ordered to stop, and tells when it begins and ends. -/
def run (s : Settings τ) (handle : Handler σ) (look : σ → (τ × Scan) × σ) (rounds : Nat)
    (w : Watcher τ) (world : σ) : Polled τ σ :=
  let polled := runFor s handle look rounds w world
  { polled with events := [.started] ++ polled.events ++ [.ended] }

end Watcher

end SchemaMill.Watch
