import SchemaMill.Charset.Page.Iso

/-!
# ISO 2022

Text in bytes of seven bits, with escape sequences that designate character sets. Of the sets of
single bytes the characters are known; pairs of bytes for Chinese, Japanese and Korean characters
are told by their length, and none of them is read.
-/

namespace SchemaMill.Charset.Iso2022

/-- A character set that can be designated. -/
structure CharacterSet where
  /-- Whether its characters are pairs of bytes. -/
  paired : Bool
  /-- The byte that ends its designation. -/
  final : Char
  deriving DecidableEq, Repr

/-- ASCII. -/
def asciiSet : CharacterSet := ⟨false, 'B'⟩

/-- A variant of the encoding. -/
inductive Variant where
  | korean
  | japanese
  /-- Japanese with a supplementary set. -/
  | japanese1
  /-- The same with sets of other languages. -/
  | japanese2
  /-- Japanese with the sets of the year 2000. -/
  | japanese3
  /-- Japanese with the sets of the year 2004. -/
  | japanese2004
  /-- Japanese with the half-width letters. -/
  | japaneseExtended
  deriving DecidableEq, Repr

namespace Variant

/-- The final bytes of the sets of pairs of a variant. -/
def pairedFinals : Variant → List Char
  | korean => ['C']
  | japanese => ['B', '@']
  | japanese1 | japaneseExtended => ['B', 'D', '@']
  | japanese2 => ['B', 'D', '@', 'C', 'A']
  | japanese3 => ['O', 'B', 'P']
  | japanese2004 => ['Q', 'B', 'P']

/-- The final bytes of the sets of single bytes of a variant. -/
def singleFinals : Variant → List Char
  | korean | japanese3 | japanese2004 => ['B']
  | japanese | japanese1 => ['B', 'J']
  | japanese2 => ['B', 'J', 'A', 'F']
  | japaneseExtended => ['B', 'J', 'I']

/-- Whether a variant has a set. -/
def has (v : Variant) (s : CharacterSet) : Bool :=
  (if s.paired then v.pairedFinals else v.singleFinals).contains s.final

/-- Whether a variant has a third set, for single characters after an escape. -/
def hasThird (v : Variant) : Bool := v = japanese2

/-- Whether control characters shift to the second set and back. -/
def shifts (v : Variant) : Bool := v = korean

end Variant

/-- The sets that are designated, and how bytes are read. -/
structure State where
  /-- The set in use. -/
  first : CharacterSet := asciiSet
  /-- The set to which a shift leads. -/
  second : CharacterSet := asciiSet
  /-- The set of single characters after an escape. -/
  third : CharacterSet := asciiSet
  /-- Whether a shift has led to the second set. -/
  shifted : Bool := false
  /-- Whether bytes pass as they are, up to the end of an escape sequence of another kind. -/
  passing : Bool := false

/-- Designates a set in one of the three places. -/
def State.designate (s : State) (place : Nat) (set : CharacterSet) : State :=
  match place with
  | 0 => { s with first := set }
  | 1 => { s with second := set }
  | _ => { s with third := set }

/-- Whether a byte ends an escape sequence. -/
def isFinal (b : UInt8) : Bool := (0x41 ≤ b && b ≤ 0x5A) || b == 0x40

/-- No escape sequence is longer. -/
def longest : Nat := 16

/-- The length of an escape sequence of which `read` bytes are read. The mark of a revised set does
not end it where that is known. -/
def escapeLength (revised : Bool) (read : Nat) (bytes : Bytes) : Except Fault Nat :=
  if longest ≤ read then .error .illegalSequence
  else
    match bytes with
    | [] => .error .incompleteSequence
    | b :: rest =>
      if isFinal b then .ok (read + 1)
      else if revised && b == 0x26 && rest.head? == some 0x40 then
        escapeLength revised (read + 3) (rest.drop 2)
      else escapeLength revised (read + 1) rest
termination_by bytes.length
decreasing_by all_goals grind

/-- The place and the set that the bytes of a sequence after the escape designate. -/
def designation? (v : Variant) (bytes : Text) : Option (Nat × CharacterSet) :=
  match bytes with
  | ['$', final] => some (0, ⟨true, final⟩)
  | ['(', final] => some (0, ⟨false, final⟩)
  | [')', final] => some (1, ⟨false, final⟩)
  | ['.', final] => if v.hasThird then some (2, ⟨false, final⟩) else none
  | ['$', '(', final] => some (0, ⟨true, final⟩)
  | ['$', ')', final] => some (1, ⟨true, final⟩)
  | [_, _, '\x1b', '$', 'B'] => if v.shifts then none else some (0, ⟨true, 'B'⟩)
  | _ => none

/-- Reads a designation from what follows the escape. -/
def readDesignation (v : Variant) (s : State) (rest : Bytes) : Except Fault (Chunk State) := do
  let length ← escapeLength (!v.shifts) 1 rest
  match designation? v ((rest.take (length - 1)).map byteChar) with
  | some (place, set) =>
    if v.has set then .ok ⟨[], length - 1, s.designate place set⟩ else .error .illegalSequence
  | none => .error .illegalSequence

/-- Whether the Greek set has the character that a byte stands for in the later set. -/
def isEarlyGreek (b : UInt8) : Bool := !([0xA4, 0xA5, 0xAA] : Bytes).contains b

/-- The character of a byte in the third set. -/
def thirdChar? (set : CharacterSet) (b : UInt8) : Option Char :=
  if set.final = 'F' then
    let upper := b ^^^ 0x80
    if isEarlyGreek upper then CodePage.iso8859Part7.char? upper else none
  else if 0x80 ≤ b then none
  else if set.final = 'A' then some (Char.ofNat (b.toNat + 0x80))
  else if set.final = 'B' then some (byteChar b)
  else none

/-- The character of a single byte in a set. -/
def singleChar? (set : CharacterSet) (b : UInt8) : Option Char :=
  match set.final with
  | 'B' => some (byteChar b)
  | 'J' => some (if b = 0x5C then '¥' else if b = 0x7E then '‾' else byteChar b)
  | 'I' => if 0x21 ≤ b && b ≤ 0x5F then some (Char.ofNat (0xFF40 + b.toNat)) else none
  | _ => none

/-- Reads what follows an escape. -/
def readEscape (v : Variant) (s : State) : Bytes → Except Fault (Chunk State)
  | [] => .error .incompleteSequence
  | b :: rest =>
    if "()$.&".toList.contains (byteChar b) then readDesignation v s (b :: rest)
    else if v.hasThird && b == 0x4E then
      match rest with
      | [] => .error .incompleteSequence
      | c :: _ =>
        match thirdChar? s.third c with
        | some d => .ok ⟨[d], 2, s⟩
        | none => .error .illegalSequence
    else .ok ⟨['\x1b'], 0, { s with passing := true }⟩

/-- Reads a character of a set. -/
def readSet (set : CharacterSet) (s : State) (b : UInt8) (rest : Bytes) :
    Except Fault (Chunk State) :=
  if set.paired then
    if rest.isEmpty then .error .incompleteSequence else .error .illegalSequence
  else
    match singleChar? set b with
    | some c => .ok ⟨[c], 0, s⟩
    | none => .error .illegalSequence

/-- Reads what begins with a byte. -/
def readChunk (v : Variant) : ChunkReader State := fun s b rest =>
  if s.passing then .ok ⟨[byteChar b], 0, { s with passing := !isFinal b }⟩
  else if b = 0x1B then readEscape v s rest
  else if b = 0x0A then .ok ⟨['\n'], 0, { s with shifted := false }⟩
  else if v.shifts && b == 0x0F then .ok ⟨[], 0, { s with shifted := false }⟩
  else if v.shifts && b == 0x0E then .ok ⟨[], 0, { s with shifted := true }⟩
  else if b < 0x20 then .ok ⟨[byteChar b], 0, s⟩
  else if 0x80 ≤ b then .error .illegalSequence
  else readSet (if s.shifted then s.second else s.first) s b rest

/-- The text of bytes. -/
def decode (v : Variant) (data : Bytes) : Except DecodeError Text :=
  decodeChunks (readChunk v) {} data

end SchemaMill.Charset.Iso2022
