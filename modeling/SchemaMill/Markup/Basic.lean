import SchemaMill.Markup.Literal
import SchemaMill.Markup.Picture
import SchemaMill.Markup.Style
import SchemaMill.Text.Word

/-!
# Marked up text

Tags in square brackets open and close styles; a tag that closes may name what it closes. A
backslash before a tag makes it text. Names between colons stand for pictures. What is shown of a
text is the text without its tags.
-/

namespace SchemaMill.Markup

/-- A part of a text. -/
inductive Piece where
  /-- Text that is shown. -/
  | plain (t : Text)
  /-- A tag, with the values after an equals sign. -/
  | tag (name : Text) (values : Option Text)
  deriving DecidableEq, Repr

/-- Whether a character can begin a tag. -/
def beginsTag (c : Char) : Bool :=
  ('a' ≤ c && c ≤ 'z') || c == '#' || c == '/' || c == '@'

/-- Whether a character can go on a tag. -/
def continuesTag (c : Char) : Bool := c != '[' && c != ']'

/-- A tag after its opening bracket, and what follows it. -/
def readTag? (t : Text) : Option (Text × Text) :=
  match t with
  | [] => none
  | c :: rest =>
    if beginsTag c then
      match rest.dropWhile continuesTag with
      | ']' :: after => some (c :: rest.takeWhile continuesTag, after)
      | _ => none
    else none

theorem length_readTag? {t tag after : Text} (h : readTag? t = some (tag, after)) :
    after.length < t.length := by
  unfold readTag? at h
  split at h
  · contradiction
  · next c rest =>
    split at h
    · split at h
      · next after' hd =>
        have := (List.dropWhile_sublist continuesTag (l := rest)).length_le
        rw [hd, List.length_cons] at this
        simp only [Option.some.injEq, Prod.mk.injEq] at h
        rw [← h.2, List.length_cons]
        omega
      · contradiction
    · contradiction

/-- A tag as a piece. -/
def Piece.ofTag (tag : Text) : Piece :=
  match tag.dropWhile (· != '=') with
  | [] => .tag tag none
  | _ :: values => .tag (tag.takeWhile (· != '=')) (some values)

/-- Text as a piece, unless it is empty. -/
def plainPiece (t : Text) : List Piece := if t.isEmpty then [] else [.plain t]

/-- The pieces of a tag after some backslashes. Each two of them stand for one, and one that is left
makes the tag text. -/
def tagPieces (slashes : Nat) (tag : Text) : List Piece :=
  plainPiece (List.replicate (slashes / 2) '\\') ++
    [if slashes % 2 = 1 then .plain ('[' :: tag ++ [']']) else .ofTag tag]

/-- The pieces of a text that follows some text and some backslashes. The characters of that text
are `taken`, last first. -/
def piecesAfter (taken : Text) (slashes : Nat) (t : Text) : List Piece :=
  match t with
  | [] => plainPiece (List.replicate slashes '\\' ++ taken).reverse
  | c :: rest =>
    let skipped := c :: List.replicate slashes '\\' ++ taken
    if c = '\\' then piecesAfter taken (slashes + 1) rest
    else if c = '[' then
      match _h : readTag? rest with
      | some (tag, after) =>
        plainPiece taken.reverse ++ tagPieces slashes tag ++ piecesAfter [] 0 after
      | none => piecesAfter skipped 0 rest
    else piecesAfter skipped 0 rest
termination_by t.length
decreasing_by
  all_goals try simp
  have := length_readTag? _h
  omega

/-- The pieces of a text. -/
def pieces (t : Text) : List Piece := piecesAfter [] 0 t

/-- A text without the backslashes before brackets. -/
def unescaped : Text → Text
  | '\\' :: '[' :: rest => '[' :: unescaped rest
  | c :: rest => c :: unescaped rest
  | [] => []

/-- A tag that is open. -/
structure OpenTag where
  /-- The normal form of its name. -/
  name : Text
  /-- The values after an equals sign. -/
  values : Option Text
  deriving DecidableEq, Repr

/-- Whether the values of an action are understood: the name of a handler, with a literal in round
brackets after it, or a literal. -/
def areValues (values : Text) : Bool :=
  let values := trim values
  let isNameChar (c : Char) : Bool := isWordChar c || c == '.'
  let after := values.dropWhile isNameChar
  if after.isEmpty then true
  else if after.head? = some '(' && after.getLast? = some ')' && !after.contains '\n' then
    isLiteral after
  else isLiteral values

/-- Closes an open tag: only an action with values that are not understood cannot be closed. -/
def OpenTag.close (o : OpenTag) : Except Fault Unit :=
  if o.name.head? = some '@' && (o.values.any fun v => !v.isEmpty && !areValues v) then
    .error .badValues
  else .ok ()

/-- Takes the first tag of a name out of the open tags, of which the last comes first. -/
def takeTag? (name : Text) : List OpenTag → Option (OpenTag × List OpenTag)
  | [] => none
  | o :: rest =>
    if o.name = name then some (o, rest) else (takeTag? name rest).map fun (p, ps) => (p, o :: ps)

/-- The open tags after a tag, of which the last comes first. -/
def follow (opened : List OpenTag) (tag : Text) (values : Option Text) :
    Except Fault (List OpenTag) :=
  match tag with
  | '/' :: name => do
    let found ← if (trim name).isEmpty then pure (opened.head?.map fun o => (o, opened.tail))
      else do
        let name ← normalName (trim name)
        pure (takeTag? name opened)
    match found with
    | none => .error .unmatched
    | some (o, rest) => do
      o.close
      .ok rest
  | _ => do .ok (⟨← normalName tag, values⟩ :: opened)

/-- What is shown of pieces while some tags are open. -/
def showPieces (opened : List OpenTag) : List Piece → Except Fault Text
  | [] => .ok []
  | .plain t :: rest => do .ok (withPictures (unescaped t) ++ (← showPieces opened rest))
  | .tag name values :: rest => do showPieces (← follow opened name values) rest

/-- What is shown of a marked up text. -/
def shown (t : Text) : Except Fault Text :=
  if t.contains '[' then showPieces [] (pieces t) else .ok (withPictures t)

end SchemaMill.Markup
