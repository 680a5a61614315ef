import SchemaMill.Conversion.Input
import SchemaMill.Csv.Writer
import SchemaMill.Profile.Basic
import SchemaMill.Sql.Creation

/-!
# Converted documents

A file is read and converted in memory; several files are checked before the first of them is read.
Documents are written below a folder, under a name that tells where they come from and when they
were made.
-/

namespace SchemaMill.Conversion

open Charset

/-- A document and where it comes from. -/
structure Document where
  /-- The input, or the word for several of them. -/
  source : Path
  content : Bytes
  /-- The ending of its file. -/
  extension : Text
  deriving DecidableEq, Repr

/-- Texts or documents with the notices about them. -/
structure Noted (α : Type) where
  /-- What the notices are about. -/
  value : α
  notices : List Notice := []

/-- The document of records in a format. -/
def recordsText (o : Options) (now : Moment) (table : Text) (records : List Record) :
    Except Failure Text :=
  match o.format.dialect? with
  | none =>
    .ok (if o.format = .csv then Csv.write (recordColumns records) records
      else Json.writeRecords records)
  | some d =>
    match Sql.statementsFor d o.charset table (columnTypes records) records with
    | .error _ => .error .unnamedColumn
    | .ok statements =>
      match now.timestamp? with
      | none => .error (.schema .untimely)
      | some stamp => .ok (Schema.document d o.charset stamp statements)

/-- A text in the encoding of the output. -/
def encodeDocument (o : Options) (source : Path) (t : Noted Text) :
    Except Failure (Noted Document) := do
  let encoded ← (encodeTarget o.target t.value).mapError .transcode
  .ok ⟨⟨source, encoded.bytes, o.format.extension⟩, t.notices ++ encoded.notices o.target⟩

/-- The text that the text of an input is converted to. -/
def convertText (o : Options) (now : Moment) (p : Path) (kind : InputKind) (t : Text) :
    Except Failure (Noted Text) :=
  match kind, o.format.dialect? with
  | .dump, some d => do
    let result ← (Schema.convertOne (o.schemaOptions d) now t).mapError .schema
    .ok ⟨result.document, result.notices⟩
  | kind, _ => do
    let records ← readRecords kind t
    .ok ⟨← recordsText o now (tableFor o p) records, []⟩

/-- Converts one file. -/
def convertFile (o : Options) (now : Moment) (f : Folder) (p : Path) :
    Except Failure (Noted Document) := do
  let kind ← checkInput o p
  let text ← readText f o.source p
  encodeDocument o p (← convertText o now p kind text)

/-- Converts files one after the other. -/
def convertEach (o : Options) (now : Moment) (f : Folder) :
    List Path → Except Failure (Noted (List Document))
  | [] => .ok ⟨[], []⟩
  | p :: rest => do
    let first ← convertFile o now f p
    let others ← convertEach o now f rest
    .ok ⟨first.value :: others.value, first.notices ++ others.notices⟩

/-- Whether a path is that of a schema dump. -/
def isDump (p : Path) : Bool := kindOf? p == some .dump

/-- Converts several dumps into one document. -/
def convertMerged (o : Options) (now : Moment) (f : Folder) (dumps : List Path) :
    Except Failure (Noted Document) := do
  let texts ← dumps.mapM (readText f o.source)
  let d := o.format.dialect?.getD .mysql
  let result ← (Schema.mergeDumps (o.schemaOptions d) now texts).mapError .schema
  encodeDocument o ⟨.here, ["merged".toList]⟩ ⟨result.document, result.notices⟩

/-- Converts several files, each of which is checked before the first is read. Dumps that are to be
merged, if there are two or more, make the first document. -/
def convertFiles (o : Options) (now : Moment) (f : Folder) (paths : List Path) :
    Except Failure (Noted (List Document)) := do
  let _ ← paths.mapM (checkInput o)
  let dumps := paths.filter isDump
  if o.merge && 1 < dumps.length then do
    let merged ← convertMerged o now f dumps
    let others ← convertEach o now f (paths.filter (!isDump ·))
    .ok ⟨merged.value :: others.value, merged.notices ++ others.notices⟩
  else convertEach o now f paths

/-! ### Writing documents -/

/-- A time stamp as part of a file name. -/
def stampName (stamp : Text) : Text := stamp.map fun c => if c == ':' || c == '.' then '-' else c

/-- The path of a document that was made at a time. -/
def outputPath (folder : Path) (source : Path) (extension stamp : Text) : Path :=
  folder.child (source.stem ++ "_converted_".toList ++ stampName stamp ++ extension)

/-- Writes a document below a folder, which is made if it is not there. -/
def writeDocument (f : Folder) (folder : Path) (now : Moment) (d : Document) :
    Except Failure (Path × Folder) :=
  match now.timestamp? with
  | none => .error (.schema .untimely)
  | some stamp =>
    let p := outputPath folder d.source d.extension stamp
    let written := do
      let f ← f.makeFolders folder
      f.write p d.content
    match written with
    | .ok f => .ok (p, f)
    | .error fault => .error (.file p fault)

end SchemaMill.Conversion
