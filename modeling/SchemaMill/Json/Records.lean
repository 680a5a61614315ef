import SchemaMill.Json.Printer
import SchemaMill.Json.Reader

/-!
# Records in JSON text

A JSON object is one record and an array of objects is several. Nested objects are flattened: their
fields get the keys on the way to them, joined with an underscore. Arrays become their JSON text.
-/

namespace SchemaMill.Json

/-- The key of a field inside an object that stands under the key `above`. -/
def joinedKey (above key : Text) : Text := if above.isEmpty then key else above ++ '_' :: key

mutual

/-- Sets what an object comes down to under the key `above`, after the fields that are `there`. -/
def flattenFields (above : Text) (there : Record) : List (Text × Value) → Record
  | [] => there
  | (key, v) :: rest =>
    flattenFields above (setFields (flattenValue (joinedKey above key) v) there) rest

/-- The fields that a value comes down to under its key. -/
def flattenValue (key : Text) : Value → Record
  | .object fields => flattenFields key [] fields
  | .array items => [(key, .text (print loose (.array items)))]
  | v => [(key, v)]

end

/-- The record that an object comes down to. Where keys meet, the first one gives the place and the
last one the value. -/
def flatten (fields : List (Text × Value)) : Record := flattenFields [] [] fields

/-- Why a text holds no records. -/
inductive RecordsError where
  | invalid (line column : Nat) (fault : Fault)
  /-- The text is neither an object nor an array of objects. -/
  | notRecords
  /-- An integer is too long to be read. -/
  | longInteger
  deriving DecidableEq, Repr

/-- Why a text holds no records, in words. -/
def RecordsError.message : RecordsError → Text
  | invalid line column fault =>
    "Invalid JSON at line ".toList ++ decimal line ++ ", column ".toList ++ decimal column ++
      ": ".toList ++ fault.message
  | notRecords => "Invalid JSON format: must be an object or array of objects"
  | longInteger => Fault.longInteger.message

/-- The fields of an object. -/
def objectFields? : Value → Option (List (Text × Value))
  | .object fields => some fields
  | _ => none

/-- The records of a text. -/
def readRecords (t : Text) : Except RecordsError (List Record) :=
  match read t with
  | .error e =>
    if e.fault = .longInteger then .error .longInteger
    else .error (.invalid (e.place t).1 (e.place t).2 e.fault)
  | .ok (.object fields) => .ok [flatten fields]
  | .ok (.array items) =>
    match items.mapM objectFields? with
    | some objects => .ok (objects.map flatten)
    | none => .error .notRecords
  | .ok _ => .error .notRecords

/-- The JSON text of records: an indented array of objects. -/
def writeRecords (records : List Record) : Text :=
  printIndented 0 (.array (records.map .object)) ++ ['\n']

end SchemaMill.Json
