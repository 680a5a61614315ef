import SchemaMill.Charset.Bytes

/-!
# Code pages

A code page gives each byte a character or leaves it undefined. Where two bytes stand for the same
character, the higher one is written.
-/

namespace SchemaMill.Charset

/-- The characters of the 256 bytes; U+FFFE, which is no character, stands for an undefined byte. -/
structure CodePage where
  entries : Text
  deriving DecidableEq, Repr

namespace CodePage

/-- The entry of a byte that stands for no character. -/
def hole : Char := '\uFFFE'

/-- A code page from its rows. -/
def ofRows (rows : List String) : CodePage := ⟨rows.flatMap String.toList⟩

/-- A code page that extends ASCII, from the rows of its upper half. -/
def extendingAscii (rows : List String) : CodePage :=
  ⟨(List.range 128).map Char.ofNat ++ rows.flatMap String.toList⟩

/-- The character that a byte stands for. -/
def char? (p : CodePage) (b : UInt8) : Option Char :=
  match p.entries[b.toNat]? with
  | some c => if c = hole then none else some c
  | none => none

/-- The byte that a character is written as. -/
def byte? (p : CodePage) (c : Char) : Option UInt8 :=
  ((List.range 256).reverse.map UInt8.ofNat).find? fun b => p.char? b = some c

/-- Reads one character. -/
def readChar (p : CodePage) : CharReader := fun b _ =>
  match p.char? b with
  | some c => .ok (c, 0)
  | none => .error .undefined

theorem char?_of_byte? {p : CodePage} {c : Char} {b : UInt8} (h : p.byte? c = some b) :
    p.char? b = some c := by
  simpa using List.find?_some h

end CodePage

end SchemaMill.Charset
