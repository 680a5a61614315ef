import SchemaMill.Decimal.Number
import SchemaMill.Text.Letter

/-!
# Numbers as users spell them

Beside plain numerals, users may write underscores between digits, the names of the infinities and
of what is no number, whole numbers in other bases, and numbers with an imaginary part.
-/

namespace SchemaMill

/-- A numeral after a character, without the underscores between its digits; nothing if an
underscore stands elsewhere. -/
def joinDigits? (before : Char) : Text → Option Text
  | [] => if before == '_' then none else some []
  | c :: rest =>
    if c == '_' then if before.isDigit then joinDigits? c rest else none
    else if before == '_' && !c.isDigit then none
    else (joinDigits? c rest).map (c :: ·)

/-- The name of a number at the start of a text, and what follows it. -/
def readNumberName? (negative : Bool) (t : Text) : Option (Double × Text) :=
  let named (name : String) : Option Text :=
    if lowerCase (t.take name.length) = name.toList then some (t.drop name.length) else none
  match named "infinity", named "inf", named "nan" with
  | some rest, _, _ => some (.infinite negative, rest)
  | none, some rest, _ => some (.infinite negative, rest)
  | none, none, some rest => some (.nan, rest)
  | none, none, none => none

/-- The power of ten at the start of a text, and what follows it. -/
def readPower (t : Text) : Int × Text :=
  match t with
  | [] => (0, [])
  | e :: rest =>
    let (negative, digits) := readSign rest
    let power := digits.takeWhile Char.isDigit
    if (e == 'e' || e == 'E') && !power.isEmpty then
      let size : Int := digitsValue power
      (if negative then -size else size, digits.dropWhile Char.isDigit)
    else (0, t)

/-- The number at the start of an ASCII text, and what follows it. -/
def readReal? (t : Text) : Option (Double × Text) :=
  let (negative, t) := readSign t
  let whole := t.takeWhile Char.isDigit
  let rest := t.dropWhile Char.isDigit
  let (fraction, rest) := match rest with
    | '.' :: rest => (rest.takeWhile Char.isDigit, rest.dropWhile Char.isDigit)
    | _ => ([], rest)
  if whole.isEmpty && fraction.isEmpty then readNumberName? negative t
  else
    let (power, rest) := readPower rest
    some (.ofDecimal negative (digitsValue (whole ++ fraction)) (power - fraction.length), rest)

/-- A text in the characters of ASCII without the blanks around it and the underscores in it. -/
def plainNumeral? (t : Text) : Option Text := do
  joinDigits? ' ' (trimAscii (← asciiNumeral? t))

/-- The number that a text spells, which may be infinite or no number. -/
def readSpelled? (t : Text) : Option Double := do
  match ← readReal? (← plainNumeral? t) with
  | (d, []) => some d
  | _ => none

/-- Whether a text is the mark of an imaginary part. -/
def isImaginaryMark (t : Text) : Bool := t == ['j'] || t == ['J']

/-- Whether a text spells a number with a real part, an imaginary part or both. -/
def spellsComplex (t : Text) : Bool :=
  match plainNumeral? t with
  | none => false
  | some t =>
    match readReal? t with
    | none => isImaginaryMark (readSign t).2
    | some (_, rest) =>
      rest.isEmpty || isImaginaryMark rest ||
        ((rest.head? == some '+' || rest.head? == some '-') &&
          match readReal? rest with
          | some (_, mark) => isImaginaryMark mark
          | none => isImaginaryMark rest.tail)

/-- The base that two characters at the start of a numeral tell, and the digits after them. -/
def readBase (t : Text) : Nat × Text :=
  match t with
  | '0' :: b :: rest =>
    if b == 'x' || b == 'X' then (16, rest)
    else if b == 'o' || b == 'O' then (8, rest)
    else if b == 'b' || b == 'B' then (2, rest)
    else (10, t)
  | _ => (10, t)

/-- The value of a digit in bases up to sixteen. -/
def baseDigit? (c : Char) : Option Nat :=
  if c.isDigit then some (c.toNat - 48)
  else if 'a' ≤ c && c ≤ 'f' then some (c.toNat - 87)
  else if 'A' ≤ c && c ≤ 'F' then some (c.toNat - 55)
  else none

/-- Whether a text is digits of a base with at most one underscore between each two of them. -/
def areDigits (base : Nat) (t : Text) : Bool :=
  let parts := splitWhere (· == '_') t
  parts.all fun part =>
    !part.isEmpty && part.all fun c => (baseDigit? c).any fun d => decide (d < base)

/-- Whether a text spells a whole number in one of the bases two, eight, ten and sixteen. In base
ten only zeros may stand before the other digits if no other digit follows. -/
def spellsInteger (t : Text) : Bool :=
  match asciiNumeral? t with
  | none => false
  | some t =>
    let (_, digits) := readSign (trimAscii t)
    let (base, digits) := readBase digits
    if base = 10 then
      areDigits 10 digits &&
        (digits.head? != some '0' || digits.all fun c => c == '0' || c == '_')
    else areDigits base (if digits.head? == some '_' then digits.tail else digits)

end SchemaMill
