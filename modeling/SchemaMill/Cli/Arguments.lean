import SchemaMill.Decimal.Spelling
import SchemaMill.Json.Reader
import SchemaMill.Value.Listing

/-!
# Arguments

A command has parameters: options that take a value, switches that are on or off, and lists. An
argument for a parameter is given by its name after two hyphens or by its position, or it stands in
the environment. What is given on the command line goes before the environment. In names,
underscores count as hyphens.

A value of a list that begins with a square bracket is JSON text for several values.

An option that is not known or has no value, a value given twice and a value at no position are
errors.
-/

namespace SchemaMill.Cli

/-- What a parameter takes. -/
inductive Shape where
  | value
  /-- On or off. -/
  | switch
  /-- Any number of values. -/
  | list
  deriving DecidableEq, Repr

/-- A parameter of a command. -/
structure Parameter where
  /-- The name, without hyphens at its start. -/
  name : Text
  shape : Shape := .value
  positional : Bool := false
  deriving DecidableEq, Repr

/-- An argument. -/
inductive Argument where
  | value (t : Text)
  | switch (on : Bool)
  /-- Values, of which those that are null have no text. -/
  | list (ts : List (Option Text))
  deriving DecidableEq, Repr

/-- Why arguments are not understood. -/
inductive ArgumentError where
  | unknownCommand (name : Text)
  | unknownOption (token : Text)
  | noValue (name : Text)
  | repeated (name : Text)
  /-- A value does not belong to a parameter. -/
  | badValue (name : Text) (value : Text)
  /-- A value has no parameter. -/
  | surplus (value : Text)
  /-- A parameter has no argument. -/
  | absent (name : Text)
  deriving DecidableEq, Repr

/-- An argument error in words. -/
def ArgumentError.message : ArgumentError → Text
  | unknownCommand name => "Unknown command: ".toList ++ name
  | unknownOption token => "Unknown option: ".toList ++ token
  | noValue name => "No value for --".toList ++ name
  | repeated name => "Repeated: --".toList ++ name
  | badValue name value => "Invalid value for --".toList ++ name ++ ": ".toList ++ value
  | surplus value => "Unexpected argument: ".toList ++ value
  | absent name => "Missing argument: --".toList ++ name

/-- The arguments for the parameters of a command. -/
abbrev Arguments := List (Text × Argument)

namespace Arguments

/-- The value of an option. -/
def value? (a : Arguments) (name : Text) : Option Text :=
  match a.lookup name with
  | some (.value t) => some t
  | _ => none

/-- Whether a switch is on. -/
def isOn (a : Arguments) (name : Text) : Bool := a.lookup name == some (.switch true)

/-- The values of a list. -/
def list? (a : Arguments) (name : Text) : Option (List (Option Text)) :=
  match a.lookup name with
  | some (.list ts) => some ts
  | _ => none

/-- Adds an argument; only a list can be given again. -/
def add (a : Arguments) (name : Text) (arg : Argument) : Except ArgumentError Arguments :=
  match a.lookup name, arg with
  | none, arg => .ok (a ++ [(name, arg)])
  | some (.list ts), .list more =>
    .ok (a.map fun (n, given) => (n, if n = name then .list (ts ++ more) else given))
  | some _, _ => .error (.repeated name)

end Arguments

/-! ### Tokens -/

/-- The words for on and off. -/
def readSwitch? (t : Text) : Option Bool :=
  let word := String.ofList (lowerCase t)
  if ["yes", "y", "1", "true", "t"].contains word then some true
  else if ["no", "n", "0", "false", "f"].contains word then some false
  else none

/-- Whether a token is an option: it begins with a hyphen and is no number. -/
def isOption (token : Text) : Bool :=
  token.head? == some '-' && !spellsComplex token && !spellsInteger token

/-- A name with hyphens in place of underscores. -/
def hyphened (name : Text) : Text := name.map fun c => if c == '_' then '-' else c

/-- The name of an option and the value that an equals sign gives it. -/
def splitOption (token : Text) : Text × Option Text :=
  match token.dropWhile (· != '=') with
  | [] => (hyphened token, none)
  | _ :: value => (hyphened (token.takeWhile (· != '=')), some value)

/-- What an option means. -/
inductive Meaning where
  /-- It gives a value to a parameter, or one more. -/
  | gives (p : Parameter)
  /-- It turns a switch on or off. -/
  | turns (p : Parameter) (on : Bool)
  /-- It makes a list empty. -/
  | empties (p : Parameter)

/-- The meanings of the options of a parameter. -/
def Parameter.options (p : Parameter) : List (Text × Meaning) :=
  match p.shape with
  | .value => [("--".toList ++ p.name, .gives p)]
  | .switch => [("--".toList ++ p.name, .turns p true), ("--no-".toList ++ p.name, .turns p false)]
  | .list => [("--".toList ++ p.name, .gives p), ("--empty-".toList ++ p.name, .empties p)]

/-- A switch that is turned by an option, which may have a word for on or off. -/
def turned (p : Parameter) (on : Bool) : Option Text → Except ArgumentError Bool
  | none => .ok on
  | some word =>
    match readSwitch? word with
    | some true => .ok on
    | some false => .ok !on
    | none => .error (.badValue p.name word)

/-- The values that a value of a list stands for. -/
def readListed (p : Parameter) (value : Text) : Except ArgumentError (List (Option Text)) :=
  if (trim value).head? = some '[' then
    match Json.read value with
    | .ok (.array vs) => .ok (vs.map Value.element?)
    | _ => .error (.badValue p.name value)
  else .ok [some value]

/-- A value as an argument for a parameter. -/
def Parameter.argument (p : Parameter) (value : Text) : Except ArgumentError Argument :=
  match p.shape with
  | .value => .ok (.value value)
  | .list => (readListed p value).map .list
  | .switch =>
    match readSwitch? value with
    | some on => .ok (.switch on)
    | none => .error (.badValue p.name value)

/-- Tokens that have been read. -/
structure Scanned where
  /-- The arguments that are given by name. -/
  named : Arguments := []
  /-- The values that are given by position. -/
  placed : List Text := []

/-- The token after which there are no options. -/
def endOfOptions : Text := "--"

/-- Reads tokens. `pending` is the parameter that the next token gives a value to. -/
def scan (ps : List Parameter) (s : Scanned) (pending : Option Parameter) :
    List Text → Except ArgumentError Scanned
  | [] =>
    match pending with
    | some p => .error (.noValue p.name)
    | none => .ok s
  | token :: rest =>
    match pending with
    | some p =>
      if isOption token then .error (.noValue p.name)
      else do
        let named ← s.named.add p.name (← p.argument token)
        scan ps { s with named } none rest
    | none =>
      if token = endOfOptions then .ok { s with placed := s.placed ++ rest }
      else if !isOption token then scan ps { s with placed := s.placed ++ [token] } none rest
      else
        let (name, value) := splitOption token
        match (ps.flatMap Parameter.options).lookup name, value with
        | none, _ => .error (.unknownOption token)
        | some (.gives p), none => scan ps s (some p) rest
        | some (.gives p), some value => do
          let named ← s.named.add p.name (← p.argument value)
          scan ps { s with named } none rest
        | some (.turns p on), word => do
          let named ← s.named.add p.name (.switch (← turned p on word))
          scan ps { s with named } none rest
        | some (.empties p), word => do
          if ← turned p true word then
            let named ← s.named.add p.name (.list [])
            scan ps { s with named } none rest
          else scan ps s none rest

/-- Gives values to the parameters that have positions. A list takes all values that are left. -/
def place (named : Arguments) : List Parameter → List Text → Except ArgumentError Arguments
  | _, [] => .ok named
  | [], value :: _ => .error (.surplus value)
  | p :: ps, value :: rest =>
    if (named.lookup p.name).isSome then .error (.surplus value)
    else if p.shape = .list then do
      .ok (named ++ [(p.name, .list (← (value :: rest).mapM (readListed p)).flatten)])
    else do place (named ++ [(p.name, ← p.argument value)]) ps rest

/-! ### The environment -/

/-- Names and values that a program is started with. -/
abbrev Environment := List (Text × Text)

/-- What the names in the environment begin with. -/
def variableLead : Text := "DB_BLENDER_"

/-- The names of a parameter in the environment, which are made from its options. A name for off
does not turn a switch around. -/
def Parameter.variables (p : Parameter) : List Text :=
  p.options.map fun (option, _) =>
    variableLead ++ (upperCase (option.drop 2)).map fun c => if c == '-' then '_' else c

/-- Whether a name in the environment is one of a parameter. -/
def Parameter.isNamed (p : Parameter) (name : Text) : Bool :=
  (dropPrefix? variableLead name).isSome &&
    (p.variables.map hyphened).contains (hyphened name)

/-- The argument that a value in the environment stands for; colons stand between the values of a
list. -/
def Parameter.fromEnvironment (p : Parameter) (value : Text) : Except ArgumentError Argument :=
  if p.shape = .list then do
    .ok (.list (← (splitWhere (· == ':') value).mapM (readListed p)).flatten)
  else p.argument value

/-- The arguments that stand in the environment for parameters that are not given otherwise. The
arguments found so far are `found`. -/
def fromVariables (ps : List Parameter) (given found : Arguments) :
    Environment → Except ArgumentError Arguments
  | [] => .ok found
  | (name, value) :: rest =>
    match ps.find? (·.isNamed name) with
    | none => fromVariables ps given found rest
    | some p =>
      if (given.lookup p.name).isSome then fromVariables ps given found rest
      else do
        let found ← found.add p.name (← p.fromEnvironment value)
        fromVariables ps given found rest

/-- Adds the arguments that stand in the environment, in the order of their names. -/
def complete (ps : List Parameter) (env : Environment) (given : Arguments) :
    Except ArgumentError Arguments := do
  let env := env.mergeSort fun a b => isOrdered a.1 b.1
  .ok (given ++ (← fromVariables ps given [] env))

/-- The arguments that tokens and an environment give to parameters. -/
def Arguments.read (ps : List Parameter) (tokens : List Text) (env : Environment) :
    Except ArgumentError Arguments := do
  let s ← scan ps {} none tokens
  complete ps env (← place s.named (ps.filter Parameter.positional) s.placed)

end SchemaMill.Cli
