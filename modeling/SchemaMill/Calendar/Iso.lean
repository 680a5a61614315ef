import SchemaMill.Calendar.Moment

/-!
# Moments in the form of ISO 8601

A day stands as year, month and day or as year, week and day of the week, with hyphens or without.
Any one character may stand between the day and the time. The time has two digits for each of its
fields, with colons or without, a fraction after a point or a comma, and an offset at its end.
-/

namespace SchemaMill.Iso

/-- A given number of ASCII digits at the start of a text: their value and what is left. -/
def takeDigits (width : Nat) (t : Text) : Option (Nat × Text) :=
  let digits := t.take width
  if digits.length == width && digits.all Char.isDigit then some (digitsValue digits, t.drop width)
  else none

/-- The character at the start of a text; the null character stands for its end. -/
def peek (t : Text) : Char := t.headD '\x00'

/-- The length of the day in a text that is longer than seven characters or starts with no week.
With the sign of a week after the year, the parity of the digits that follow tells whether the day
of the week is among them. -/
def dateLength (t : Text) : Nat :=
  if t.length == 7 then 7
  else if t.getD 4 ' ' == '-' then
    if t.getD 5 ' ' == 'W' then
      if t.getD 8 ' ' == '-' then
        if 10 < t.length && (t.getD 10 ' ').isDigit then 8 else 10
      else 8
    else 10
  else if t.getD 4 ' ' == 'W' then
    let pos := 7 + ((t.drop 7).takeWhile Char.isDigit).length
    if pos < 9 then pos else if pos % 2 == 0 then 7 else 8
  else 8

/-- The day that the first `length` characters of a text spell. -/
def readDate? (t : Text) (length : Nat) : Option Date := do
  let (year, rest) ← takeDigits 4 t
  let dashed := peek rest == '-'
  let rest := if dashed then rest.drop 1 else rest
  if peek rest == 'W' then
    let (week, rest) ← takeDigits 2 (rest.drop 1)
    if t.length - rest.length < length then
      if dashed && peek rest != '-' then none
      else
        let (day, _) ← takeDigits 1 (if dashed then rest.drop 1 else rest)
        Date.ofWeek? year week day
    else Date.ofWeek? year week 1
  else
    let (month, rest) ← takeDigits 2 rest
    if dashed && peek rest != '-' then none
    else
      let (day, _) ← takeDigits 2 (if dashed then rest.drop 1 else rest)
      some ⟨year, month, day⟩

/-- Hours, minutes, seconds and microseconds, and whether something stands after them. -/
structure Clock where
  hour : Nat := 0
  minute : Nat := 0
  second : Nat := 0
  microsecond : Nat := 0
  /-- Something stands after the fields. -/
  more : Bool := false
  deriving DecidableEq, Repr

/-- The fraction of a second: up to six digits count, and further digits are passed over. The text
goes on with `after` beyond the part that holds the time. -/
def readFraction? (part after : Text) (c : Clock) : Option Clock := do
  let width := min part.length 6
  let (value, rest) ← takeDigits width part
  let rest := rest.dropWhile Char.isDigit
  some { c with
    microsecond := value * Nat.pow 10 (6 - width)
    more := peek (rest ++ after) != '\x00' }

/-- Sets the field with the given number of fields before it. -/
def Clock.set (c : Clock) (field value : Nat) : Clock :=
  match field with
  | 0 => { c with hour := value }
  | 1 => { c with minute := value }
  | _ => { c with second := value }

/-- Reads `left` more fields after `done` of them; whether colons stand between fields is known from
what follows the first. One ASCII character may be left at the end. -/
def readFields? (after : Text) : (left done : Nat) → (colons : Bool) → Text → Clock → Option Clock
  | 0, _, _, part, c => readFraction? part after c
  | left + 1, done, colons, part, c => do
    let (value, rest) ← takeDigits 2 part
    let c := c.set done value
    let next := peek (rest ++ after)
    let colons := if done == 0 then next == ':' else colons
    if rest.length ≤ 1 ∧ (peek rest).toNat < 128 then some { c with more := next != '\x00' }
    else if colons && next == ':' then readFields? after left (done + 1) colons (rest.drop 1) c
    else if next == '.' || next == ',' then readFraction? (rest.drop 1) after c
    else if colons then none
    else readFields? after left (done + 1) colons rest c

/-- Reads the fields of a time of day. -/
def readClock? (part after : Text) : Option Clock := readFields? after 3 0 true part {}

/-- The offset that a text spells after its sign. An offset of no whole second is none at all. -/
def readOffset? (negative : Bool) (t : Text) : Option Int := do
  let c ← readClock? t []
  if c.more then none
  else
    let seconds := (c.hour * 60 + c.minute) * 60 + c.second
    let size := if seconds == 0 then 0 else seconds * 1000000 + c.microsecond
    some (if negative then -(size : Int) else size)

/-- The time and the offset that a text spells. The offset begins at the first sign or `Z`. -/
def readTime? (t : Text) : Option (Clock × Option Int) := do
  let isMark (c : Char) : Bool := c == '+' || c == '-' || c == 'Z'
  let part := t.takeWhile (!isMark ·)
  let zone := t.dropWhile (!isMark ·)
  let c ← readClock? part zone
  match zone with
  | [] => if c.more then none else some (c, none)
  | 'Z' :: rest => if peek rest == '\x00' then some (c, some 0) else none
  | sign :: rest => (readOffset? (sign == '-') rest).map fun o => (c, some o)

/-- The moment that a text spells. -/
def readMoment? (t : Text) : Option Moment := do
  if t.length < 7 then none
  let length := dateLength t
  let date ← readDate? t length
  let (c, offset) ← match t.drop length with
    | [] => some ({}, none)
    | _ :: time => readTime? time
  let m : Moment := ⟨date, c.hour, c.minute, c.second, c.microsecond, offset⟩
  if m.isValid then some m else none

end SchemaMill.Iso
