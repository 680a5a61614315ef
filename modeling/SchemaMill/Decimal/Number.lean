import SchemaMill.Decimal.Shortest
import SchemaMill.Text.Blank

/-!
# Numbers in texts

A text is a number if it is a decimal numeral with an optional sign, fraction and power of ten, with
blanks around it, and not too large. The digits may be of any script.
-/

namespace SchemaMill

/-- Blanks and digits of every script above ASCII replaced by a space and by ASCII digits; nothing
if another character above ASCII is left. -/
def asciiNumeral? (t : Text) : Option Text :=
  t.mapM fun c =>
    if c.toNat < 128 then some c
    else if isBlank c then some ' '
    else (digitValue? c).map Nat.digitChar

/-- The blanks of ASCII: the space and the five characters from the tabulator on. -/
def isAsciiBlank (c : Char) : Bool := c == ' ' || (9 ≤ c.toNat && c.toNat ≤ 13)

/-- A text without the ASCII blanks at its two ends. -/
def trimAscii (t : Text) : Text :=
  ((t.dropWhile isAsciiBlank).reverse.dropWhile isAsciiBlank).reverse

/-- A leading sign and the text after it. -/
def readSign (t : Text) : Bool × Text :=
  match t with
  | '-' :: rest => (true, rest)
  | '+' :: rest => (false, rest)
  | _ => (false, t)

/-- The power of ten that a text spells after `e`; no text is a power of zero. -/
def readPower? (t : Text) : Option Int :=
  match t with
  | [] => some 0
  | e :: rest =>
    let (negative, digits) := readSign rest
    if (e == 'e' || e == 'E') && !digits.isEmpty && digits.all Char.isDigit then
      let size : Int := digitsValue digits
      some (if negative then -size else size)
    else none

/-- The number that an ASCII numeral without blanks spells. -/
def readNumeral? (t : Text) : Option Double :=
  let (negative, t) := readSign t
  let whole := t.takeWhile Char.isDigit
  let rest := t.dropWhile Char.isDigit
  let (fraction, rest) := match rest with
    | '.' :: rest => (rest.takeWhile Char.isDigit, rest.dropWhile Char.isDigit)
    | _ => ([], rest)
  if whole.isEmpty && fraction.isEmpty then none
  else (readPower? rest).map fun power =>
    .ofDecimal negative (digitsValue (whole ++ fraction)) (power - fraction.length)

/-- The finite number that a text spells. -/
def readNumber? (t : Text) : Option Double := do
  let ascii ← asciiNumeral? t
  let n ← readNumeral? (trimAscii ascii)
  if n.isFinite then some n else none

end SchemaMill
