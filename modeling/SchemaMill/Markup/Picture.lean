import SchemaMill.Markup.PictureNames
import SchemaMill.Text.Blank
import SchemaMill.Text.Letter

/-!
# Pictures by name

A name between two colons stands for a picture. After the name may follow whether the picture or its
sign is to be shown. What is no name of a picture stays as it is.
-/

namespace SchemaMill.Markup

/-- The picture after a name among names and pictures. -/
def pictureAmong? (name : Text) : List Text → Option Text
  | found :: picture :: rest => if found = name then some picture else pictureAmong? name rest
  | _ => none

/-- The picture of a name in small letters. -/
def picture? (name : Text) : Option Text :=
  pictureRows.findSome? fun row => pictureAmong? name (words row.toList)

/-- The endings that tell how a picture is to be shown, and what is written for them. -/
def variants : List (Text × Char) :=
  [("-emoji".toList, '\uFE0F'), ("-text".toList, '\uFE0E')]

/-- A text without an ending. -/
def dropEnding? (ending t : Text) : Option Text :=
  (dropPrefix? ending.reverse t.reverse).map List.reverse

/-- What is shown for what stands between two colons; nothing if that is no picture. -/
def pictureOf? (body : Text) : Option Text :=
  let varied := variants.findSome? fun (ending, variant) =>
    (dropEnding? ending body).map fun name => (name, [variant])
  let (name, variant) := varied.getD (body, [])
  (picture? (lowerCase name)).map (· ++ variant)

/-- Whether a character can stand between the colons. -/
def isPictureChar (c : Char) : Bool := c != ':' && !isBlank c

/-- A text with pictures in place of their names. -/
def withPictures (t : Text) : Text :=
  match t with
  | [] => []
  | c :: rest =>
    if c = ':' then
      let body := rest.takeWhile isPictureChar
      match _h : rest.dropWhile isPictureChar with
      | ':' :: after => (pictureOf? body).getD (':' :: body ++ [':']) ++ withPictures after
      | _ => c :: withPictures rest
    else c :: withPictures rest
termination_by t.length
decreasing_by
  all_goals try simp
  have := (List.dropWhile_sublist isPictureChar (l := rest)).length_le
  rw [_h, List.length_cons] at this
  omega

end SchemaMill.Markup
