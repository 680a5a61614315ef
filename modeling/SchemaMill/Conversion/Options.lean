import SchemaMill.Charset.Transcode
import SchemaMill.Conversion.Format
import SchemaMill.Schema.Dump

/-!
# Conversion options

Settings are what a user asks for. They become options once the encodings and the format that they
name are known.
-/

namespace SchemaMill.Conversion

open Charset

/-- What a user asks for. -/
structure Settings where
  /-- The encoding of the input, or the wish to find it out. -/
  source : Text := "auto"
  /-- The encoding of the output. -/
  target : Text := "utf8mb4"
  /-- What table names lose at their start. -/
  strip : Option Text := none
  /-- Dumps become one document. -/
  merge : Bool := false
  /-- The format of the output. -/
  format : Text := "mysql"
  /-- An unterminated statement is an error. -/
  strictStatements : Bool := false
  /-- A reference to an undefined table is an error. -/
  strictReferences : Bool := false
  /-- The table that records go into. -/
  table : Option Text := none
  deriving DecidableEq, Repr

/-- Whether an encoding can be read: it is known, or to be found out. -/
def isReadable (encoding : Text) : Bool := isAuto encoding || (codecOf encoding).isOk

/-- Whether an encoding can be written: it is known. -/
def isWritable (encoding : Text) : Bool := (codecOf encoding).isOk

/-- Options of a conversion. -/
structure Options where
  /-- The encoding of the input, or the wish to find it out. -/
  source : Text
  /-- The encoding of the output. -/
  target : Text
  /-- What table names lose at their start. -/
  strip : Option Text := none
  /-- Dumps become one document. -/
  merge : Bool := false
  /-- The format of the output. -/
  format : Format := .mysql
  /-- An unterminated statement is an error. -/
  strictStatements : Bool := false
  /-- A reference to an undefined table is an error. -/
  strictReferences : Bool := false
  /-- The table that records go into. -/
  table : Option Text := none
  /-- The input can be read. -/
  readable : isReadable source = true
  /-- The output can be written. -/
  writable : isWritable target = true

/-- Why settings are no options. -/
inductive SettingsError where
  | encoding (e : NameError)
  | format (name : Text)
  deriving DecidableEq, Repr

/-- A settings error in words. -/
def SettingsError.message : SettingsError → Text
  | encoding e => e.message
  | format name =>
    "Unsupported output format: ".toList ++ name ++ " (expected one of ".toList ++
      joinWith ", " (Format.all.map Format.name) ++ [')']

/-- The error of an encoding that is not known. -/
def encodingError (encoding : Text) : SettingsError :=
  match codecOf encoding with
  | .error e => .encoding e
  | .ok _ => .encoding (.unknown encoding)

/-- The options that settings stand for. -/
def Settings.options (s : Settings) : Except SettingsError Options :=
  if hs : isReadable s.source then
    if ht : isWritable s.target then
      match Format.ofText? s.format with
      | some format =>
        .ok ⟨s.source, s.target, s.strip, s.merge, format, s.strictStatements, s.strictReferences,
          s.table, hs, ht⟩
      | none => .error (.format s.format)
    else .error (encodingError s.target)
  else .error (encodingError s.source)

namespace Options

/-- The character set that belongs to the encoding of the output. -/
def charset (o : Options) : Text :=
  match charsetOf o.target with
  | .ok charset => charset
  | .error _ => []

/-- How dumps are converted into a dialect. -/
def schemaOptions (o : Options) (d : Sql.Dialect) : Schema.Options :=
  ⟨⟨o.charset, o.strip, d⟩, o.merge, o.strictStatements, o.strictReferences⟩

end Options

end SchemaMill.Conversion
