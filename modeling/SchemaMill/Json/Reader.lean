import SchemaMill.Decimal.Number
import SchemaMill.Text.Numeral
import SchemaMill.Value.Basic

/-!
# Reading JSON text

JSON text is read into values. A text that cannot be read gives a fault and the place of it.
-/

namespace SchemaMill.Json

/-- What is wrong with a text that is not JSON. -/
inductive Fault where
  | byteOrderMark
  | noValue
  | noKey
  | noColon
  | noComma
  /-- Something follows the value. -/
  | extraData
  /-- The text that begins here does not end. -/
  | unterminated
  | controlCharacter
  /-- A backslash is followed by no known letter. -/
  | unknownEscape
  /-- A code point is not given by four hexadecimal digits. -/
  | badCodePoint
  /-- An integer has more digits than are read. -/
  | longInteger
  deriving DecidableEq, Repr

/-- The fault in words. -/
def Fault.message : Fault → Text
  | byteOrderMark => "Unexpected UTF-8 BOM (decode using utf-8-sig)"
  | noValue => "Expecting value"
  | noKey => "Expecting property name enclosed in double quotes"
  | noColon => "Expecting ':' delimiter"
  | noComma => "Expecting ',' delimiter"
  | extraData => "Extra data"
  | unterminated => "Unterminated string starting at"
  | controlCharacter => "Invalid control character at"
  | unknownEscape => "Invalid \\escape"
  | badCodePoint => "Invalid \\uXXXX escape"
  | longInteger => "Integer with too many digits"

/-- A fault with the text from its place on. -/
structure ReadError where
  fault : Fault
  /-- The text from the place of the fault on. -/
  rest : Text
  deriving DecidableEq, Repr

/-- The line of a place and the column in that line, both from 1. -/
def lineAndColumn (before : Text) : Nat × Nat :=
  (before.count '\n' + 1, (before.reverse.takeWhile (· != '\n')).length + 1)

/-- The line and the column of a fault in the text that was read. -/
def ReadError.place (e : ReadError) (whole : Text) : Nat × Nat :=
  lineAndColumn (whole.take (whole.length - e.rest.length))

/-- Blanks of JSON. -/
def isSpace (c : Char) : Bool := c == ' ' || c == '\t' || c == '\n' || c == '\r'

/-- A text without the JSON blanks at its start. -/
def skipSpace (t : Text) : Text := t.dropWhile isSpace

/-- The number of four hexadecimal digits that are not the last characters, and what follows. -/
def hexQuad? (t : Text) : Option (Nat × Text) :=
  match t with
  | a :: b :: c :: d :: e :: rest => do
    let a ← hexValue? a
    let b ← hexValue? b
    let c ← hexValue? c
    let d ← hexValue? d
    some (((a * 16 + b) * 16 + c) * 16 + d, e :: rest)
  | _ => none

/-- The character of two surrogates. -/
def joinSurrogates (high low : Nat) : Char :=
  Char.ofNat (0x10000 + (high - 0xD800) * 0x400 + (low - 0xDC00))

/-- The character that a code point after `\u` stands for, with the second half of a surrogate pair
if there is one. -/
def readCodePoint (t : Text) : Except ReadError (Char × Text) :=
  match hexQuad? t with
  | none => .error ⟨.badCodePoint, 'u' :: t⟩
  | some (n, rest) =>
    match rest with
    | '\\' :: 'u' :: second =>
      if 0xD800 ≤ n && n < 0xDC00 && 4 < second.length then
        match hexQuad? second with
        | none => .error ⟨.badCodePoint, 'u' :: second⟩
        | some (m, after) =>
          if 0xDC00 ≤ m && m < 0xE000 then .ok (joinSurrogates n m, after)
          else .ok (codePoint n, rest)
      else .ok (codePoint n, rest)
    | _ => .ok (codePoint n, rest)

/-- The character that a letter after a backslash stands for. -/
def simpleEscape? (c : Char) : Option Char :=
  [('"', '"'), ('\\', '\\'), ('/', '/'), ('b', '\x08'), ('f', '\x0c'), ('n', '\n'), ('r', '\r'),
    ('t', '\t')].lookup c

/-- The character that an escape stands for, of which the part after the backslash is given. -/
def readEscape (c : Char) (rest : Text) : Except ReadError (Char × Text) :=
  if c == 'u' then readCodePoint rest
  else match simpleEscape? c with
    | some ch => .ok (ch, rest)
    | none => .error ⟨.unknownEscape, '\\' :: c :: rest⟩

theorem length_hexQuad?_lt {t rest : Text} {n : Nat} (h : hexQuad? t = some (n, rest)) :
    rest.length < t.length := by
  unfold hexQuad? at h
  split at h
  · simp only [bind, Option.bind_eq_some_iff] at h
    obtain ⟨_, _, _, _, _, _, _, _, h⟩ := h
    cases h
    simp only [List.length_cons]
    omega
  · cases h

theorem length_readCodePoint_lt {t rest : Text} {c : Char}
    (h : readCodePoint t = .ok (c, rest)) : rest.length < t.length := by
  unfold readCodePoint at h
  split at h
  · cases h
  · next n r hq =>
    have hlt := length_hexQuad?_lt hq
    split at h
    · next second =>
      simp only [List.length_cons] at hlt
      split at h
      · split at h
        · cases h
        · next m after hs =>
          have := length_hexQuad?_lt hs
          split at h <;> simp only [Except.ok.injEq, Prod.mk.injEq] at h <;> obtain ⟨_, rfl⟩ := h
          · omega
          · simp only [List.length_cons]; omega
      · simp only [Except.ok.injEq, Prod.mk.injEq] at h
        obtain ⟨_, rfl⟩ := h
        simpa using hlt
    · simp only [Except.ok.injEq, Prod.mk.injEq] at h
      obtain ⟨_, rfl⟩ := h
      exact hlt

theorem length_readEscape_le {c : Char} {t rest : Text} {ch : Char}
    (h : readEscape c t = .ok (ch, rest)) : rest.length ≤ t.length := by
  unfold readEscape at h
  split at h
  · exact Nat.le_of_lt (length_readCodePoint_lt h)
  · split at h <;> cases h
    exact Nat.le_refl _

/-- The rest of a text in quotes, after the characters `taken`, last first; `opening` is the text
from the opening quote on. -/
def readQuoted (opening taken : Text) (t : Text) : Except ReadError (Text × Text) :=
  match t with
  | [] => .error ⟨.unterminated, opening⟩
  | c :: rest =>
    if c == '"' then .ok (taken.reverse, rest)
    else if c == '\\' then
      match rest with
      | [] => .error ⟨.unterminated, opening⟩
      | e :: after =>
        match _h : readEscape e after with
        | .error error => .error error
        | .ok (ch, rest) => readQuoted opening (ch :: taken) rest
    else if c.toNat < 32 then .error ⟨.controlCharacter, c :: rest⟩
    else readQuoted opening (c :: taken) rest
termination_by t.length
decreasing_by
  · have := length_readEscape_le _h
    simp only [List.length_cons]
    omega
  · simp

/-- The most digits of an integer. -/
def integerLimit : Nat := 4300

/-- The power of ten after `e` and what follows; nothing if no digits follow. -/
def readExponent? (t : Text) : Option (Int × Text) :=
  match t with
  | e :: rest =>
    let (negative, rest) := readSign rest
    let digits := rest.takeWhile Char.isDigit
    if (e == 'e' || e == 'E') && !digits.isEmpty then
      let size : Int := digitsValue digits
      some (if negative then -size else size, rest.dropWhile Char.isDigit)
    else none
  | [] => none

/-- The digits after a point and what follows; nothing if no digits follow. -/
def readFraction? (t : Text) : Option (Text × Text) :=
  match t with
  | '.' :: rest =>
    let digits := rest.takeWhile Char.isDigit
    if digits.isEmpty then none else some (digits, rest.dropWhile Char.isDigit)
  | _ => none

/-- The digits before the point: a single zero, or digits that begin with another one. -/
def readWhole? (t : Text) : Option (Text × Text) :=
  match t with
  | [] => none
  | '0' :: rest => some (['0'], rest)
  | c :: rest =>
    if c.isDigit then some (c :: rest.takeWhile Char.isDigit, rest.dropWhile Char.isDigit) else none

/-- The number at the start of a text. Without fraction and power of ten it is an integer. -/
def readNumber (t : Text) : Except ReadError (Value × Text) :=
  let negative := t.head? == some '-'
  match readWhole? (if negative then t.drop 1 else t) with
  | none => .error ⟨.noValue, t⟩
  | some (whole, rest) =>
    let fraction := readFraction? rest
    let afterFraction := (fraction.map (·.2)).getD rest
    let exponent := readExponent? afterFraction
    let rest := (exponent.map (·.2)).getD afterFraction
    if fraction.isNone && exponent.isNone then
      if integerLimit < whole.length then .error ⟨.longInteger, t⟩
      else
        let size : Int := digitsValue whole
        .ok (.int (if negative then -size else size), rest)
    else
      let digits := (fraction.map (·.1)).getD []
      let power := (exponent.map (·.1)).getD 0
      let value := digitsValue (whole ++ digits)
      .ok (.double (Double.ofDecimal negative value (power - digits.length)), rest)

/-- The words that stand for values. -/
def constants : List (Text × Value) :=
  [("null", .null), ("true", .bool true), ("false", .bool false), ("NaN", .double .nan),
    ("Infinity", .double (.infinite false)), ("-Infinity", .double (.infinite true))].map
    fun (word, value) => (word.toList, value)

/-- The value of the word at the start of a text. -/
def readConstant? (t : Text) : Option (Value × Text) :=
  constants.findSome? fun (word, value) => (dropPrefix? word t).map fun rest => (value, rest)

mutual

/-- The value at the start of a text. Every call takes one of `fuel`; a bracket opens two calls at
most, so two for each character, and two more, are enough. -/
def readValue (fuel : Nat) (t : Text) : Except ReadError (Value × Text) :=
  match fuel with
  | 0 => .error ⟨.noValue, t⟩
  | fuel + 1 =>
    match t with
    | '"' :: rest => (readQuoted t [] rest).map fun (s, rest) => (.text s, rest)
    | '[' :: rest =>
      match skipSpace rest with
      | ']' :: rest => .ok (.array [], rest)
      | rest => readItems fuel [] rest
    | '\x7b' :: rest =>
      match skipSpace rest with
      | '\x7d' :: rest => .ok (.object [], rest)
      | rest => readFields fuel [] rest
    | _ =>
      match readConstant? t with
      | some found => .ok found
      | none => readNumber t

/-- The rest of an array from the next item on, after the items `taken`, last first. -/
def readItems (fuel : Nat) (taken : List Value) (t : Text) : Except ReadError (Value × Text) :=
  match fuel with
  | 0 => .error ⟨.noValue, t⟩
  | fuel + 1 =>
    match readValue fuel t with
    | .error e => .error e
    | .ok (v, rest) =>
      match skipSpace rest with
      | ']' :: rest => .ok (.array (v :: taken).reverse, rest)
      | ',' :: rest => readItems fuel (v :: taken) (skipSpace rest)
      | rest => .error ⟨.noComma, rest⟩

/-- The rest of an object from the next key on, after the fields `taken`. -/
def readFields (fuel : Nat) (taken : List (Text × Value)) (t : Text) :
    Except ReadError (Value × Text) :=
  match fuel with
  | 0 => .error ⟨.noKey, t⟩
  | fuel + 1 =>
    match t with
    | '"' :: rest =>
      match readQuoted t [] rest with
      | .error e => .error e
      | .ok (key, rest) =>
        match skipSpace rest with
        | ':' :: rest =>
          match readValue fuel (skipSpace rest) with
          | .error e => .error e
          | .ok (v, rest) =>
            let taken := setField key v taken
            match skipSpace rest with
            | '\x7d' :: rest => .ok (.object taken, rest)
            | ',' :: rest => readFields fuel taken (skipSpace rest)
            | rest => .error ⟨.noComma, rest⟩
        | rest => .error ⟨.noColon, rest⟩
    | _ => .error ⟨.noKey, t⟩

end

/-- The value that a whole text spells. -/
def read (t : Text) : Except ReadError Value :=
  if t.head? == some '\uFEFF' then .error ⟨.byteOrderMark, t⟩
  else
    match readValue (2 * t.length + 2) (skipSpace t) with
    | .error e => .error e
    | .ok (v, rest) =>
      match skipSpace rest with
      | [] => .ok v
      | rest => .error ⟨.extraData, rest⟩

end SchemaMill.Json
