import SchemaMill.Text.Blank
import SchemaMill.Text.Numeral
import SchemaMill.Text.Word

/-!
# Lexical patterns

A pattern describes the lexemes of one kind. It is matched from a position in a text, takes its
alternatives from left to right, and goes back to the next one when what follows cannot be matched.

`Pattern.run_keeps` says that a match only moves the position: what was taken and what is left
still make up the same text.
-/

namespace SchemaMill.Sql

/-- A position in a text: the character before the lexeme, the characters of the lexeme taken so
far, last first, and what is left. -/
structure Cursor where
  /-- The character before the lexeme. -/
  before : Option Char
  /-- The characters taken so far, last first. -/
  taken : Text
  rest : Text

namespace Cursor

/-- The character before the position. -/
def previous (c : Cursor) : Option Char := c.taken.head?.or c.before

/-- The text from the start of the lexeme to the end. -/
def whole (c : Cursor) : Text := c.taken.reverse ++ c.rest

end Cursor

/-- A lexical pattern. -/
inductive Pattern where
  /-- One character of a class. -/
  | one (p : Char → Bool)
  | nothing
  /-- One pattern, then another. -/
  | seq (a b : Pattern)
  /-- One pattern, or else another. -/
  | alt (a b : Pattern)
  /-- A pattern as often as possible. -/
  | many (a : Pattern)
  /-- A pattern as seldom as possible. -/
  | few (a : Pattern)
  /-- A pattern that follows and is not taken. -/
  | ahead (a : Pattern)
  /-- No match of a pattern follows. -/
  | notAhead (a : Pattern)
  /-- The character before is of a class. -/
  | after (p : Char → Bool)
  /-- The character before is not of a class. -/
  | notAfter (p : Char → Bool)
  /-- The start or the end of a word. -/
  | wordEdge
  /-- The end of the text, with or without one last line feed. -/
  | textEnd

namespace Pattern

/-- Matches `step` up to once for each character of `fuel`, the more often the better, then goes on
with `next`. -/
def iterateMany (step : Cursor → (Cursor → Option Cursor) → Option Cursor) :
    (fuel : Text) → Cursor → (next : Cursor → Option Cursor) → Option Cursor
  | [], c, next => next c
  | _ :: fuel, c, next => (step c fun c' => iterateMany step fuel c' next).or (next c)

/-- Matches `step` up to once for each character of `fuel`, the less often the better, then goes on
with `next`. -/
def iterateFew (step : Cursor → (Cursor → Option Cursor) → Option Cursor) :
    (fuel : Text) → Cursor → (next : Cursor → Option Cursor) → Option Cursor
  | [], c, next => next c
  | _ :: fuel, c, next => (next c).or (step c fun c' => iterateFew step fuel c' next)

/-- Whether exactly one of the characters on the two sides belongs to a word. -/
def atWordEdge (c : Cursor) : Bool :=
  (c.previous.any isWordChar) != (c.rest.head?.any isWordChar)

/-- Matches a pattern from a position and goes on with `next`: the first way through that `next`
accepts. A repetition takes at least one character each time, so the text that is left bounds it. -/
def run : Pattern → Cursor → (next : Cursor → Option Cursor) → Option Cursor
  | one p, c, next =>
    match c.rest with
    | [] => none
    | ch :: rest => if p ch then next { c with taken := ch :: c.taken, rest } else none
  | nothing, c, next => next c
  | seq a b, c, next => run a c fun c' => run b c' next
  | alt a b, c, next =>
    match run a c next with
    | some found => some found
    | none => run b c next
  | many a, c, next => iterateMany (run a) c.rest c next
  | few a, c, next => iterateFew (run a) c.rest c next
  | ahead a, c, next => if (run a c some).isSome then next c else none
  | notAhead a, c, next => if (run a c some).isSome then none else next c
  | after p, c, next => if c.previous.any p then next c else none
  | notAfter p, c, next => if c.previous.any p then none else next c
  | wordEdge, c, next => if atWordEdge c then next c else none
  | textEnd, c, next =>
    match c.rest with
    | [] => next c
    | ['\n'] => next c
    | _ => none

/-- The lexeme that a pattern finds at the start of `rest`, with what is left after it. -/
def match? (p : Pattern) (before : Option Char) (rest : Text) : Option (Text × Text) :=
  (p.run ⟨before, [], rest⟩ some).map fun c => (c.taken.reverse, c.rest)

/-- A step of a match keeps the text around it. -/
def Keeps (step : Cursor → (Cursor → Option Cursor) → Option Cursor) : Prop :=
  ∀ c next found, (∀ c' d, next c' = some d → d.whole = c'.whole) →
    step c next = some found → found.whole = c.whole

theorem iterateMany_keeps {step} (h : Keeps step) (fuel : Text) :
    Keeps (iterateMany step fuel) := by
  induction fuel with
  | nil => intro c next found hn hf; exact hn _ _ hf
  | cons _ fuel ih =>
    intro c next found hn hf
    rw [iterateMany, Option.or_eq_some_iff] at hf
    rcases hf with hf | ⟨_, hf⟩
    · exact h _ _ _ (fun c' d hd => ih _ _ _ hn hd) hf
    · exact hn _ _ hf

theorem iterateFew_keeps {step} (h : Keeps step) (fuel : Text) :
    Keeps (iterateFew step fuel) := by
  induction fuel with
  | nil => intro c next found hn hf; exact hn _ _ hf
  | cons _ fuel ih =>
    intro c next found hn hf
    rw [iterateFew, Option.or_eq_some_iff] at hf
    rcases hf with hf | ⟨_, hf⟩
    · exact hn _ _ hf
    · exact h _ _ _ (fun c' d hd => ih _ _ _ hn hd) hf

theorem run_keeps (p : Pattern) : Keeps (run p) := by
  induction p with
  | one p =>
    intro c next found hn hf
    rw [run] at hf
    split at hf
    · cases hf
    · next hr =>
      split at hf
      · rw [hn _ _ hf]; simp [Cursor.whole, hr]
      · cases hf
  | nothing => intro c next found hn hf; exact hn _ _ hf
  | seq a b iha ihb => intro c next found hn hf; exact iha _ _ _ (fun c' d => ihb c' next d hn) hf
  | alt a b iha ihb =>
    intro c next found hn hf
    rw [run] at hf
    split at hf
    · next hd => cases hf; exact iha _ _ _ hn hd
    · exact ihb _ _ _ hn hf
  | many a ih => intro c next found hn hf; exact iterateMany_keeps ih _ _ _ _ hn hf
  | few a ih => intro c next found hn hf; exact iterateFew_keeps ih _ _ _ _ hn hf
  | textEnd =>
    intro c next found hn hf
    rw [run] at hf
    split at hf
    · exact hn _ _ hf
    · exact hn _ _ hf
    · cases hf
  | _ =>
    intro c next found hn hf
    rw [run] at hf
    split at hf <;> first | exact hn _ _ hf | cases hf

/-- A lexeme and what is left after it make up the text. -/
theorem match?_append {p : Pattern} {before : Option Char} {t lexeme rest : Text}
    (h : p.match? before t = some (lexeme, rest)) : lexeme ++ rest = t := by
  obtain ⟨c, hc, h⟩ := Option.map_eq_some_iff.mp h
  cases h
  exact run_keeps p _ _ _ (by intro c' d hd; cases hd; rfl) hc

/-! ### Building patterns -/

/-- One given character. -/
def char (c : Char) : Pattern := one (· == c)

/-- Patterns one after the other. -/
def all : List Pattern → Pattern
  | [] => nothing
  | [p] => p
  | p :: ps => seq p (all ps)

/-- The first of several patterns that matches. -/
def any : List Pattern → Pattern
  | [] => one fun _ => false
  | [p] => p
  | p :: ps => alt p (any ps)

/-- A pattern or nothing. -/
def opt (p : Pattern) : Pattern := alt p nothing

/-- A pattern once or more, as often as possible. -/
def some1 (p : Pattern) : Pattern := seq p (many p)

/-- Given characters in their order. -/
def literal (s : String) : Pattern := all (s.toList.map char)

/-- The small Latin letter that a character counts as where case does not matter. The two dotted and
dotless relatives of i, the long s and the kelvin sign count as letters of the alphabet. -/
def plainLetter (c : Char) : Char :=
  if c == 'ı' || c == 'İ' then 'i'
  else if c == 'ſ' then 's'
  else if c.toNat == 0x212A then 'k'
  else c.toLower

/-- A word in any mixture of capitals and small letters. -/
def word (s : String) : Pattern :=
  all (s.toList.map fun l => one fun c => plainLetter c == plainLetter l)

/-- One of several words. -/
def oneOf (ws : List String) : Pattern := any (ws.map word)

/-- One blank. -/
def blank : Pattern := one isBlank

/-- One or more blanks. -/
def blanks : Pattern := some1 blank

/-- Words with blanks between each two, up to the end of the last word. -/
def phrase (ws : List String) : Pattern := all ((ws.map word).intersperse blanks)

end Pattern

end SchemaMill.Sql
