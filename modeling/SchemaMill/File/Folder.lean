import SchemaMill.Charset.Bytes
import SchemaMill.File.Path

/-!
# Folders

A folder holds files and further folders below it. A place is the list of names that lead to it; the
names below the root come after a name of a single slash, which no path has. Where the place of the
current folder is not known, nothing is known about what lies around it.

Reading and writing fail with a fault.
-/

namespace SchemaMill

open Charset

/-- Why a file or a folder cannot be used. -/
inductive FileFault where
  /-- There is none. -/
  | missing
  /-- A file stands on the way. -/
  | notFolder
  /-- A folder stands in place of a file. -/
  | isFolder
  /-- There is one already. -/
  | present
  /-- A name or the whole path is too long. -/
  | longName
  /-- A name has a null character in it. -/
  | nullName
  deriving DecidableEq, Repr

/-- A fault in words. -/
def FileFault.message : FileFault → Text
  | missing => "No such file or directory"
  | notFolder => "Not a directory"
  | isFolder => "Is a directory"
  | present => "File exists"
  | longName => "File name too long"
  | nullName => "embedded null byte"

/-- What stands at a place. -/
inductive Node where
  | file (content : Bytes)
  | folder
  deriving DecidableEq, Repr

/-- A place below the root, or below a current folder whose place is not known. -/
abbrev Place := List Text

/-- Files and folders. -/
structure Folder where
  /-- What stands at each place. -/
  nodes : List (Place × Node) := []
  /-- The place of the current folder; no names if it is not known. -/
  here : Place := []
  deriving DecidableEq, Repr

namespace Folder

/-- What stands at a place. -/
def node? (f : Folder) (place : Place) : Option Node :=
  if place = [] ∨ place = [['/']] then some .folder else f.nodes.lookup place

/-- Puts something at a place. -/
def put (f : Folder) (place : Place) (n : Node) : Folder :=
  { f with nodes := (place, n) :: f.nodes.filter (·.1 != place) }

theorem node?_put (f : Folder) {place : Place} (n : Node) (h₁ : place ≠ []) (h₂ : place ≠ [['/']])
    (q : Place) : (f.put place n).node? q = if q = place then some n else f.node? q := by
  by_cases hq : q = place
  · subst hq; simp [node?, put, h₁, h₂]
  · have hb : (q == place) = false := beq_eq_false_iff_ne.mpr hq
    simp only [node?, put, List.lookup_cons, hb, hq, if_false]
    split
    · rfl
    · induction f.nodes with
      | nil => rfl
      | cons e rest ih =>
        obtain ⟨p, m⟩ := e
        by_cases hp : p = place
        · have hqp : (q == p) = false := beq_eq_false_iff_ne.mpr fun e => hq (e.trans hp)
          simp [hp, ih, List.lookup_cons, hb]
        · by_cases hqp : q = p
          · subst hqp; simp [hp]
          · simp [hp, List.lookup_cons, beq_eq_false_iff_ne.mpr hqp, ih]

/-- The most bytes of a name. -/
def nameLimit : Nat := 255

/-- The bytes of a path that are too many. -/
def pathLimit : Nat := 4096

/-- The place that names lead to from a place. Each name must stand in a folder. -/
def walk (f : Folder) (place : Place) : List Text → Except FileFault Place
  | [] => .ok place
  | name :: rest =>
    match f.node? place with
    | none => .error .missing
    | some (.file _) => .error .notFolder
    | some .folder =>
      if nameLimit < (String.ofList name).utf8ByteSize then .error .longName
      else if name = "..".toList then
        if place = [] then .error .missing
        else if place = [['/']] then walk f place rest
        else walk f place.dropLast rest
      else walk f (place ++ [name]) rest

/-- The place of a path. -/
def placeOf (f : Folder) (p : Path) : Except FileFault Place :=
  if p.names.any (·.contains '\x00') then .error .nullName
  else if pathLimit ≤ (String.ofList p.text).utf8ByteSize then .error .longName
  else f.walk (if p.start = .here then f.here else [['/']]) p.names

/-- What stands at a path. -/
def look (f : Folder) (p : Path) : Except FileFault Node := do
  match f.node? (← f.placeOf p) with
  | some n => .ok n
  | none => .error .missing

/-- The content of a file. -/
def read (f : Folder) (p : Path) : Except FileFault Bytes := do
  match ← f.look p with
  | .file content => .ok content
  | .folder => .error .isFolder

/-- What stands at a path, if anything does. Only a path that is too long cannot be looked at. -/
def find (f : Folder) (p : Path) : Except FileFault (Option Node) :=
  match f.look p with
  | .ok n => .ok (some n)
  | .error .longName => .error .longName
  | .error _ => .ok none

/-- Whether a folder stands at a path. -/
def isFolder (f : Folder) (p : Path) : Bool :=
  match f.look p with
  | .ok .folder => true
  | _ => false

/-- Makes a folder in a folder that is there. -/
def makeFolder (f : Folder) (p : Path) : Except FileFault Folder := do
  let place ← f.placeOf p
  match f.node? place with
  | some _ => .error .present
  | none => .ok (f.put place .folder)

/-- Makes a folder unless it is there, with all folders above it. The names are given innermost
first. -/
def makeFoldersFrom (f : Folder) (start : PathStart) : (innermostFirst : List Text) →
    Except FileFault Folder
  | [] => .ok f
  | name :: above =>
    let p : Path := ⟨start, (name :: above).reverse⟩
    let orThere (f : Folder) (e : FileFault) : Except FileFault Folder :=
      if f.isFolder p then .ok f else .error e
    match f.makeFolder p with
    | .ok f => .ok f
    | .error .missing => do
      let f ← makeFoldersFrom f start above
      match f.makeFolder p with
      | .ok f => .ok f
      | .error e => orThere f e
    | .error e => orThere f e

/-- Makes a folder unless it is there, with all folders above it. -/
def makeFolders (f : Folder) (p : Path) : Except FileFault Folder :=
  f.makeFoldersFrom p.start p.names.reverse

/-- Writes a file in a folder that is there. -/
def write (f : Folder) (p : Path) (content : Bytes) : Except FileFault Folder := do
  let place ← f.placeOf p
  match f.node? place with
  | some .folder => .error .isFolder
  | _ => .ok (f.put place (.file content))

/-- What stands at places where something else stood before, or nothing; what was put last comes
last. -/
def changesSince (before f : Folder) : List (Place × Node) :=
  f.nodes.reverse.filter fun (place, n) => before.node? place != some n

end Folder

end SchemaMill
