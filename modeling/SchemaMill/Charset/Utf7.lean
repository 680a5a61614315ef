import SchemaMill.Charset.Bytes
import SchemaMill.Charset.Wide

/-!
# UTF-7

Text in bytes of seven bits. Most characters of ASCII stand for themselves. All others stand in
shifted runs: a plus sign, then the bits of their UTF-16 code units, six to a digit of base 64. A
minus sign ends a run before what could be read as part of it, and at the end of the text.
-/

namespace SchemaMill.Charset.Utf7

/-- The digits of base 64, in the order of their values. -/
def digits : Text := "ABCDEFGHIJKLMNOPQRSTUVWXYZabcdefghijklmnopqrstuvwxyz0123456789+/".toList

theorem idxOf_getD_digits {n : Nat} (h : n < 64) : digits.idxOf (digits.getD n 'A') = n := by
  have hall : ∀ n < 64, digits.idxOf (digits.getD n 'A') = n := by decide
  exact hall n h

/-- Whether a character is a digit of base 64. -/
def isDigit (c : Char) : Bool := digits.contains c

/-- The characters that stand for themselves, apart from letters and digits. -/
def directSigns : Text := "'(),-./:?!\"#$%&*;<=>@[]^_\x60\x7b|\x7d \t\n\r".toList

/-- Whether a character stands for itself. -/
def isDirect (c : Char) : Bool := c.isAlphanum || directSigns.contains c

/-! ### Bits -/

/-- The last `width` bits of a number, highest first. -/
def bitsOf : (width : Nat) → Nat → List Bool
  | 0, _ => []
  | w + 1, n => bitsOf w (n / 2) ++ [n % 2 == 1]

/-- The numbers of all groups of `width` bits after the groups `done`, last first, and `count` bits
with the number `value`. With them come the count and the number of the bits that are left. -/
def groupsAfter (width : Nat) (done : List Nat) (count value : Nat) :
    List Bool → List Nat × Nat × Nat
  | [] => (done.reverse, count, value)
  | b :: rest =>
    let value := 2 * value + b.toNat
    if count + 1 = width then groupsAfter width (value :: done) 0 0 rest
    else groupsAfter width done (count + 1) value rest

/-- The numbers of all groups of `width` bits, and the count and the number of the bits left. -/
def groups (width : Nat) (bits : List Bool) : List Nat × Nat × Nat := groupsAfter width [] 0 0 bits

/-! ### Reading -/

/-- The text of digits, and the count and the number of the bits that are left, which belong to no
code unit; nothing if the first half of a pair comes last. -/
def readDigits (run : Text) : Option Text × Nat × Nat :=
  let (units, left) := groups 16 (run.flatMap fun c => bitsOf 6 (digits.idxOf c))
  (if units.getLast?.any Utf16.isHigh then none else some (Utf16.unitsText units), left)

/-- Reads a shifted run from what follows the plus sign. -/
def readRun (rest : Bytes) : Except Fault (Chunk Unit) :=
  let run := (rest.takeWhile fun b => isDigit (byteChar b)).map byteChar
  let (text, count, left) := readDigits run
  match rest.drop run.length with
  | [] =>
    if count < 6 && left == 0 then
      match text with
      | some t => .ok ⟨t, run.length, ()⟩
      | none => .error .unterminatedShift
    else .error .unterminatedShift
  | b :: _ =>
    if 6 ≤ count then .error .partialCharacter
    else if left ≠ 0 then .error .paddingBits
    else .ok ⟨text.getD [], if b = 0x2D then run.length + 1 else run.length, ()⟩

/-- Reads a character that stands for itself, or a shifted run. A minus sign right after the plus
sign makes it stand for itself. -/
def readChunk : ChunkReader Unit := fun _ b rest =>
  if b = 0x2B then
    match rest with
    | [] => readRun rest
    | next :: _ =>
      if next = 0x2D then .ok ⟨['+'], 1, ()⟩
      else if isDigit (byteChar next) then readRun rest
      else .error .illFormedShift
  else if b < 0x80 then .ok ⟨[byteChar b], 0, ()⟩
  else .error .specialCharacter

/-- The text of bytes. -/
def decode (data : Bytes) : Except DecodeError Text := decodeChunks readChunk () data

/-! ### Writing -/

/-- The digits of a run of characters; zeros fill up the bits of the last digit. -/
def writeDigits (run : Text) : Text :=
  let bits := run.flatMap fun c => (Utf16.charUnits c).flatMap (bitsOf 16)
  let padding := List.replicate ((6 - bits.length % 6) % 6) false
  (groups 6 (bits ++ padding)).1.map fun n => digits.getD n 'A'

/-- What ends a run before some text. -/
def runEnd : Text → Text
  | [] => ['-']
  | c :: _ => if isDigit c || c == '-' then ['-'] else []

/-- A text as it is written. -/
def written (t : Text) : Text :=
  match t with
  | [] => []
  | c :: rest =>
    if isDirect c then c :: written rest
    else if c = '+' then '+' :: '-' :: written rest
    else
      let run := rest.takeWhile (!isDirect ·)
      let after := rest.dropWhile (!isDirect ·)
      '+' :: writeDigits (c :: run) ++ runEnd after ++ written after
termination_by t.length
decreasing_by
  all_goals try simp
  have := (List.dropWhile_sublist (!isDirect ·) (l := rest)).length_le
  omega

/-- The bytes of a text. -/
def encode (t : Text) : Bytes := Ascii.encode (written t)

end SchemaMill.Charset.Utf7
