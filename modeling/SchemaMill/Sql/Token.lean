import SchemaMill.Sql.Dialect
import SchemaMill.Sql.Lexeme
import SchemaMill.Text.Printable

/-!
# Tokens and identifiers

Tokens are the lexemes of a statement that carry meaning; each remembers whether blanks or comments
stood in front of it. An identifier is a name with its quotes taken off, and it is written with the
quotes of the dialect, doubled inside.

`undouble_double` says that the doubling can be undone.
-/

namespace SchemaMill.Sql

/-- A lexeme that carries meaning. -/
structure Token where
  kind : LexemeKind
  value : Text
  /-- Blanks or comments stood in front of the token. -/
  spaced : Bool := true
  deriving DecidableEq, Repr

/-! ### Identifiers -/

/-- A text with each of a character written twice. -/
def double (q : Char) : Text → Text
  | [] => []
  | c :: rest => if c = q then q :: q :: double q rest else c :: double q rest

/-- A text with each two of a character, taken from the left, written once. -/
def undouble (q : Char) : Text → Text
  | a :: b :: rest => if a = q ∧ b = q then q :: undouble q rest else a :: undouble q (b :: rest)
  | t => t

theorem undouble_cons_of_ne {q c : Char} (h : c ≠ q) (t : Text) :
    undouble q (c :: t) = c :: undouble q t := by
  cases t <;> simp [undouble, h]

theorem undouble_double (q : Char) (t : Text) : undouble q (double q t) = t := by
  induction t with
  | nil => rfl
  | cons c t ih =>
    by_cases h : c = q
    · simp [double, undouble, h, ih]
    · simp [double, h, undouble_cons_of_ne, ih]

/-- The closing quote that belongs to an opening quote of an identifier. -/
def closingQuote? (c : Char) : Option Char :=
  if c = '\x60' then some '\x60'
  else if c = '"' then some '"'
  else if c = '[' then some ']'
  else none

/-- Whether a text begins with a quote of an identifier. -/
def opensQuoted (t : Text) : Bool := t.head?.any fun c => (closingQuote? c).isSome

/-- A name, and whether it is written in quotes. -/
structure Identifier where
  /-- The name without quotes. -/
  name : Text
  /-- The name is written in quotes. -/
  quoted : Bool := false
  deriving DecidableEq, Repr

namespace Identifier

/-- The identifier that a text spells. Quotes of either kind count only if both are there; inside
brackets nothing is doubled. -/
def ofText (t : Text) : Identifier :=
  match t with
  | [] => ⟨t, false⟩
  | c :: rest =>
    match closingQuote? c with
    | none => ⟨t, false⟩
    | some close =>
      if t.getLast? = some close then
        let inner := rest.dropLast
        ⟨if close = ']' then inner else undouble close inner, true⟩
      else ⟨t, false⟩

/-- The text of an identifier in a dialect. -/
def render (d : Dialect) (i : Identifier) : Text :=
  if i.quoted then
    d.identifierQuote :: double d.identifierQuote i.name ++ [d.identifierQuote]
  else i.name

end Identifier

/-! ### Tokens -/

namespace Token

/-- The token in capitals with single spaces, by which keywords are told; nothing for texts and
quoted names. -/
def word (t : Token) : Text :=
  if t.kind = .text ∨ t.kind = .symbol ∨ opensQuoted t.value then []
  else collapseBlanks (upperCase t.value)

/-- The token is the keyword `w`. -/
def isWord (t : Token) (w : String) : Bool := t.word == w.toList

/-- The token is the single character `c`. -/
def isSign (t : Token) (c : Char) : Bool := t.value == [c]

/-- Whether a token can name a table or a column. -/
def isIdentifier (t : Token) : Bool :=
  !(t.kind == .punctuation || t.kind == .operator || t.kind == .number || t.kind == .text)

/-- The identifier that a token spells. -/
def identifier (t : Token) : Identifier := Identifier.ofText t.value

/-- The text of a token in a dialect: quoted names change their quotes, and keywords of several
words are written with single spaces. -/
def render (d : Dialect) (t : Token) : Text :=
  if t.kind = .name ∧ opensQuoted t.value then t.identifier.render d
  else if t.kind = .keyword then collapseBlanks t.value
  else t.value

end Token

/-- Tokens out of lexemes; `spaced` tells whether something was dropped in front. A stray character
stops the reading. -/
def tokensOf (spaced : Bool) : List Lexeme → Except Char (List Token)
  | [] => .ok []
  | l :: rest =>
    match l.kind with
    | .blank | .comment => tokensOf true rest
    | .stray => .error (l.value.headD ' ')
    | kind => (tokensOf false rest).map (⟨kind, l.value, spaced⟩ :: ·)

/-- The tokens of a statement, or the first character that starts no lexeme. -/
def tokenize (t : Text) : Except Char (List Token) := tokensOf false (lexemes t)

end SchemaMill.Sql
