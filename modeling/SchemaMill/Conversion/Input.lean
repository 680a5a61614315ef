import SchemaMill.Conversion.Options
import SchemaMill.Csv.Reader
import SchemaMill.File.Folder
import SchemaMill.Json.Records
import SchemaMill.Text.Word

/-!
# Inputs

An input is told by the ending of its name: a schema dump, or records in one of two formats. Records
go into a table that has the name of their file.
-/

namespace SchemaMill.Conversion

open Charset

/-- What an input holds. -/
inductive InputKind where
  | dump
  /-- Records as comma-separated text. -/
  | csv
  /-- Records as JSON text. -/
  | json
  deriving DecidableEq, Repr

/-- The endings of inputs and what they tell. -/
def inputExtensions : List (Text × InputKind) :=
  [(".csv".toList, .csv), (".json".toList, .json), (".sql".toList, .dump)]

/-- The endings of inputs, in small letters. -/
def extensions : List Text := inputExtensions.map Prod.fst

/-- What an input of a given path holds. -/
def kindOf? (p : Path) : Option InputKind := inputExtensions.lookup (lowerCase p.extension)

/-- Why an input cannot be converted. -/
inductive Failure where
  /-- The ending of the name is not known. -/
  | unsupported (p : Path)
  /-- A schema dump cannot become records. -/
  | dumpToRecords (name : Text) (format : Format)
  /-- The file cannot be used. -/
  | file (p : Path) (fault : FileFault)
  /-- The bytes cannot be read or written. -/
  | transcode (e : TranscodeError)
  /-- The text is not comma-separated. -/
  | csv (fault : Csv.Fault)
  /-- The text holds no records. -/
  | json (e : Json.RecordsError)
  /-- The dump cannot be converted. -/
  | schema (e : Schema.Failure)
  | unnamedColumn
  deriving DecidableEq, Repr

namespace Failure

/-- A failure in words. -/
def message : Failure → Text
  | unsupported p => "Unsupported input file type: ".toList ++ p.text
  | dumpToRecords name format =>
    "Cannot convert schema dump ".toList ++ name ++ " to ".toList ++ format.name
  | file p fault => p.text ++ ": ".toList ++ fault.message
  | transcode e => e.message
  | csv .longField => "field larger than field limit (131072)"
  | csv .bareReturn => "new-line character seen in unquoted field"
  | json e => e.message
  | schema e => e.message
  | unnamedColumn => "Column must be constructed with a non-blank name"

/-- Whether a failure is one that a user is told about. Any other ends a run without a word. -/
def isReported : Failure → Bool
  | file _ .nullName => false
  | transcode (.name .nullCharacter) => false
  | transcode (.noEncoding _) => false
  | transcode (.refused _) => false
  | csv _ => false
  | json .longInteger => false
  | schema .untimely => false
  | unnamedColumn => false
  | _ => true

end Failure

/-- Refuses an input that cannot be converted with some options. -/
def checkInput (o : Options) (p : Path) : Except Failure InputKind :=
  match kindOf? p with
  | none => .error (.unsupported p)
  | some .dump =>
    if o.format.dialect?.isNone then .error (.dumpToRecords p.name o.format) else .ok .dump
  | some kind => .ok kind

/-- The text of a file in an encoding. -/
def readText (f : Folder) (encoding : Text) (p : Path) : Except Failure Text := do
  let data ← (f.read p).mapError (.file p)
  (decodeSource encoding data).mapError .transcode

/-- The records of a text. -/
def readRecords (kind : InputKind) (t : Text) : Except Failure (List Record) :=
  match kind with
  | .json => (Json.readRecords t).mapError .json
  | _ => (Csv.read t).mapError .csv

/-- A text with an underscore in place of each run of characters that belong to no word. -/
def wordsOnly (t : Text) : Text :=
  match t with
  | [] => []
  | c :: rest =>
    if isWordChar c then c :: wordsOnly rest
    else match rest with
      | [] => ['_']
      | d :: _ => if isWordChar d then '_' :: wordsOnly rest else wordsOnly rest

/-- A text without the underscores at its two ends. -/
def trimUnderscores (t : Text) : Text :=
  ((t.dropWhile (· == '_')).reverse.dropWhile (· == '_')).reverse

/-- The table that the records of a file go into. -/
def tableFor (o : Options) (p : Path) : Text :=
  match o.table with
  | some (c :: rest) => c :: rest
  | _ =>
    let name := trimUnderscores (wordsOnly p.stem)
    if name.isEmpty then "imported_data" else name

end SchemaMill.Conversion
