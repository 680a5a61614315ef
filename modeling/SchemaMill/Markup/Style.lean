import SchemaMill.Markup.Color
import SchemaMill.Value.Basic

/-!
# Styles

A style is made of attributes that are on or off, a color, a background and a link. Two texts that
spell one style have the same normal form; a text that spells none is its own name.
-/

namespace SchemaMill.Markup

/-- Why marked up text cannot be shown. -/
inductive Fault where
  /-- A tag closes what is not open. -/
  | unmatched
  /-- The values of an action are not understood. -/
  | badValues
  /-- A share of a color is left out. -/
  | missingShare
  deriving DecidableEq, Repr

/-- The attributes in the order in which they are written, each with its other names. -/
def attributeNames : List (String × List String) :=
  [("bold", ["b"]), ("dim", ["d"]), ("italic", ["i"]), ("underline", ["u"]), ("blink", []),
    ("blink2", []), ("reverse", ["r"]), ("conceal", ["c"]), ("strike", ["s"]),
    ("underline2", ["uu"]), ("frame", []), ("encircle", []), ("overline", ["o"])]

/-- The attribute that a word names. -/
def attribute? (word : Text) : Option Text :=
  (attributeNames.find? fun (name, others) => (name :: others).contains (String.ofList word)).map
    fun (name, _) => name.toList

/-- A style. -/
structure Style where
  /-- The attributes that are set, and whether they are on. -/
  attributes : List (Text × Bool) := []
  color : Option Text := none
  /-- The color behind the text. -/
  background : Option Text := none
  /-- Where the text leads. -/
  link : Option Text := none
  deriving DecidableEq, Repr

namespace Style

/-- The words of a style in its normal form. -/
def words (s : Style) : List Text :=
  let set := attributeNames.flatMap fun (name, _) =>
    match s.attributes.lookup name.toList with
    | some true => [name.toList]
    | some false => ["not".toList, name.toList]
    | none => []
  set ++ s.color.toList ++ (s.background.toList.flatMap fun c => ["on".toList, c]) ++
    (s.link.toList.flatMap fun l => ["link".toList, l])

/-- The normal form of a style. -/
def text (s : Style) : Text := if s.words = [] then "none" else joinWith [' '] s.words

/-- A color that a word names; nothing if it names none. -/
def readColor (word : Text) : Except Fault (Option Text) :=
  match isColor? (lowerCase word) with
  | none => .error .missingShare
  | some true => .ok (some (lowerCase word))
  | some false => .ok none

/-- Adds what words tell to a style; nothing if the words are no style. -/
def addWords (s : Style) : List Text → Except Fault (Option Style)
  | [] => .ok (some s)
  | word :: rest =>
    let name := lowerCase word
    if name = "on".toList then
      match rest with
      | [] => .ok none
      | c :: rest => do
        match ← readColor c with
        | some color => addWords { s with background := some color } rest
        | none => .ok none
    else if name = "not".toList then
      match rest with
      | [] => .ok none
      | a :: rest =>
        match attribute? a with
        | some a => addWords { s with attributes := setField a false s.attributes } rest
        | none => .ok none
    else if name = "link".toList then
      match rest with
      | [] => .ok none
      | l :: rest => addWords { s with link := some l } rest
    else
      match attribute? name with
      | some a => addWords { s with attributes := setField a true s.attributes } rest
      | none => do
        match ← readColor name with
        | some color => addWords { s with color := some color } rest
        | none => .ok none

/-- The style that a text spells; nothing if it spells none. -/
def read (t : Text) : Except Fault (Option Style) :=
  if trim t = "none".toList then .ok (some {}) else addWords {} (SchemaMill.words t)

end Style

/-- The normal form of the style that a text spells, or the text itself in small letters. -/
def normalName (t : Text) : Except Fault Text := do
  match ← Style.read t with
  | some s => .ok s.text
  | none => .ok (lowerCase (trim t))

end SchemaMill.Markup
