import SchemaMill.Cli.Arguments
import SchemaMill.Conversion.Options
import SchemaMill.File.Path

/-!
# Commands

There are three commands: to convert files, to watch a folder and convert the files that arrive in
it, and to infer the types of columns.
-/

namespace SchemaMill.Cli

open Conversion

/-- Files are converted. -/
structure ConvertCommand where
  /-- The files. An input that is null has no path. -/
  inputs : List (Option Path)
  /-- The folder for the documents; without one, a document is printed. -/
  exportFolder : Option Path
  settings : Settings
  deriving DecidableEq, Repr

/-- A folder is watched. -/
structure WatchCommand where
  inputFolder : Path
  exportFolder : Path
  settings : Settings
  /-- How many seconds a file must stay the same. -/
  stability : Double
  deriving DecidableEq, Repr

/-- How column types are printed. -/
inductive TypesFormat where
  | table
  | json
  deriving DecidableEq, Repr

/-- The types of columns are inferred. -/
structure InferCommand where
  input : Path
  /-- How the types are printed. -/
  format : TypesFormat
  /-- The encoding of the file, or the wish to find it out. -/
  encoding : Text
  deriving DecidableEq, Repr

/-- What a user asks for. -/
inductive Command where
  | convert (c : ConvertCommand)
  | watch (c : WatchCommand)
  | infer (c : InferCommand)
  | help
  deriving DecidableEq, Repr

/-! ### Parameters -/

/-- The parameters of a conversion. -/
def conversionParameters : List Parameter :=
  ["from-encoding", "to-encoding", "strip-prefix", "output-format", "table-name"].map
    fun name => ⟨name.toList, .value, false⟩

/-- The parameters that are no settings and which every long-running command has. -/
def switchParameters : List Parameter :=
  [⟨"strict".toList, .switch, false⟩, ⟨"verbose".toList, .switch, false⟩]

/-- The parameters of the command that converts files. -/
def convertParameters : List Parameter :=
  ⟨"inputs".toList, .list, true⟩ :: ⟨"export-dir".toList, .value, false⟩ ::
    ⟨"merge".toList, .switch, false⟩ :: conversionParameters ++ switchParameters

/-- The parameters of the command that watches a folder. -/
def watchParameters : List Parameter :=
  ["input-dir", "export-dir", "stability"].map (fun name => ⟨name.toList, .value, false⟩) ++
    conversionParameters ++ switchParameters

/-- The parameters of the command that infers types. -/
def inferParameters : List Parameter :=
  [⟨"path".toList, .value, true⟩, ⟨"fmt".toList, .value, true⟩,
    ⟨"from-encoding".toList, .value, false⟩]

/-! ### Values -/

/-- Whether a hyphen belongs between two characters, the second of which has a third after it:
before each capital that begins a word. -/
def isWordStart (before c : Char) (after : Option Char) : Bool :=
  c.isUpper && (before.isLower || before.isDigit ||
    (before.isUpper && (after.map Char.isLower).getD false))

/-- A text with a hyphen before each capital that begins a word after the character `before`. -/
def hyphenateAfter (before : Char) : Text → Text
  | [] => []
  | c :: rest =>
    if isWordStart before c rest.head? then '-' :: c :: hyphenateAfter c rest
    else c :: hyphenateAfter c rest

/-- The words of a name in small letters, with hyphens between them. -/
def hyphenated (t : Text) : Text :=
  let t := (lowerCase (hyphenateAfter ' ' t)).map fun c => if c == '_' then '-' else c
  ((t.dropWhile (· == '-')).reverse.dropWhile (· == '-')).reverse

/-- The format that a value names. -/
def readFormat (value : Text) : Except ArgumentError Format :=
  match Format.all.find? fun f => f.name == hyphenated value with
  | some f => .ok f
  | none => .error (.badValue "output-format" value)

/-- How types are printed, as a value names it. -/
def readTypesFormat (value : Text) : Except ArgumentError TypesFormat :=
  if value = "table".toList then .ok .table
  else if value = "json".toList then .ok .json
  else .error (.badValue "fmt" value)

/-- A number of seconds. -/
def readSeconds (value : Text) : Except ArgumentError Double :=
  match readSpelled? value with
  | some d => .ok d
  | none => .error (.badValue "stability" value)

/-- What a user asks of a conversion. An empty prefix is none. -/
def readSettings (a : Arguments) : Except ArgumentError Settings := do
  let format ← readFormat ((a.value? "output-format").getD Format.mysql.name)
  let d : Settings := {}
  .ok { source := (a.value? "from-encoding").getD d.source
        target := (a.value? "to-encoding").getD d.target
        strip := (a.value? "strip-prefix").filter (!·.isEmpty)
        merge := a.isOn "merge"
        format := format.name
        strictStatements := a.isOn "strict"
        strictReferences := a.isOn "strict"
        table := a.value? "table-name" }

/-! ### Commands -/

/-- The command that converts files, from its arguments. -/
def readConvert (a : Arguments) : Except ArgumentError Command := do
  let settings ← readSettings a
  match a.list? "inputs" with
  | none => .error (.absent "inputs")
  | some inputs =>
    let exportFolder := (a.value? "export-dir").map Path.ofText
    .ok (.convert ⟨inputs.map (·.map Path.ofText), exportFolder, settings⟩)

/-- The command that watches a folder, from its arguments. -/
def readWatch (a : Arguments) : Except ArgumentError Command := do
  let settings ← readSettings a
  let stability ← readSeconds ((a.value? "stability").getD "2.0")
  .ok (.watch ⟨Path.ofText ((a.value? "input-dir").getD "/input"),
    Path.ofText ((a.value? "export-dir").getD "/export"), settings, stability⟩)

/-- The command that infers types, from its arguments. -/
def readInfer (a : Arguments) : Except ArgumentError Command := do
  let format ← readTypesFormat ((a.value? "fmt").getD "table")
  match a.value? "path" with
  | none => .error (.absent "path")
  | some path =>
    .ok (.infer ⟨Path.ofText path, format, (a.value? "from-encoding").getD "auto"⟩)

/-- The reader of the arguments of a command that a name stands for. -/
def commandReader? (name : Text) :
    Option (List Text → Environment → Except ArgumentError Command) :=
  let reader (ps : List Parameter) (read : Arguments → Except ArgumentError Command)
      (tokens : List Text) (env : Environment) : Except ArgumentError Command := do
    read (← Arguments.read ps tokens env)
  if name = "convert".toList then some (reader convertParameters readConvert)
  else if name = "watch".toList then some (reader watchParameters readWatch)
  else if name = "infer".toList then some (reader inferParameters readInfer)
  else none

/-- Whether a token asks for help. -/
def isHelp (token : Text) : Bool := token = "--help".toList ∨ token = "-h".toList

/-- Whether a token asks for the version. -/
def isVersion (token : Text) : Bool := token = "--version".toList

/-- The command that tokens and an environment stand for. No tokens ask for help. Who asks for help
or for the version among the arguments of a command is not asked for anything else; without a
command, nothing else may stand beside a wish for help. -/
def Command.read (tokens : List Text) (env : Environment) : Except ArgumentError Command :=
  let asksForHelp := (tokens.takeWhile (· != endOfOptions)).any isHelp
  match tokens with
  | [] => .ok .help
  | name :: rest =>
    match commandReader? name with
    | some reader =>
      if asksForHelp || tokens.any isVersion then .ok .help else reader rest env
    | none =>
      if asksForHelp then
        match tokens.find? (!isHelp ·) with
        | some other => .error (.unknownCommand other)
        | none => .ok .help
      else if tokens.any isVersion then .ok .help
      else .error (.unknownCommand name)

end SchemaMill.Cli
