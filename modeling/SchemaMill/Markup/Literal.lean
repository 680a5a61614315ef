import SchemaMill.Decimal.Spelling

/-!
# Literals

The values that an action may be given: numbers, quoted texts, truth values, tuples, and sets and
tables in braces. Only their form matters here, so reading one gives what follows it.
-/

namespace SchemaMill.Markup

/-- A text without the spaces at its start. -/
def skipSpaces (t : Text) : Text := t.dropWhile fun c => c == ' ' || c == '\t'

/-- What follows a text in quotes, of which the first is read. -/
def closeQuote? (quote : Char) : Text → Option Text
  | [] => none
  | '\\' :: _ :: rest => closeQuote? quote rest
  | c :: rest =>
    if c = quote then some rest else if c == '\n' then none else closeQuote? quote rest

/-- Words that are literals. -/
def literalWords : List Text := ["None", "True", "False", "..."].map String.toList

/-- Whether a word is a number. -/
def isNumberWord (word : Text) : Bool :=
  if word.all Char.isDigit then spellsInteger word
  else spellsInteger word ||
    (word.any Char.isDigit && (word.head?.any fun c => c.isDigit || c == '.') &&
      spellsComplex word)

/-- Whether a character can stand in a word. -/
def isLiteralChar (c : Char) : Bool := c.isAlphanum || c == '_' || c == '.'

/-- A word at the start of a text, where a sign may follow the letter for a power of ten. -/
def takeLiteral (t : Text) : Text × Text :=
  let word := t.takeWhile isLiteralChar
  match t.dropWhile isLiteralChar with
  | sign :: rest =>
    if (sign == '-' || sign == '+') && (word.head?.any fun c => c.isDigit || c == '.') &&
        (word.getLast? == some 'e' || word.getLast? == some 'E') then
      (word ++ sign :: rest.takeWhile isLiteralChar, rest.dropWhile isLiteralChar)
    else (word, sign :: rest)
  | [] => (word, [])

/-- What follows a number at the start of a text; an imaginary number may be added to it. -/
def skipNumber? (t : Text) : Option Text :=
  let (word, rest) := takeLiteral t
  if !isNumberWord word then none
  else
    match skipSpaces rest with
    | sign :: after =>
      if sign == '-' || sign == '+' then
        let (added, rest) := takeLiteral (skipSpaces after)
        if isNumberWord added && (added.getLast? == some 'j' || added.getLast? == some 'J') then
          some rest
        else none
      else some rest
    | [] => some rest

mutual

/-- What follows a literal at the start of a text. -/
def skipLiteral? (fuel : Nat) (t : Text) : Option Text :=
  match fuel with
  | 0 => none
  | fuel + 1 =>
    match skipSpaces t with
    | '(' :: rest => skipItems? fuel ')' false (skipSpaces rest)
    | '\x7b' :: rest => skipItems? fuel '\x7d' true (skipSpaces rest)
    | '-' :: rest => skipNumber? (skipSpaces rest)
    | '+' :: rest => skipNumber? (skipSpaces rest)
    | c :: rest =>
      if c == '"' || c == '\'' then closeQuote? c rest
      else
        match literalWords.find? (· == (takeLiteral (c :: rest)).1) with
        | some word => some ((c :: rest).drop word.length)
        | none => skipNumber? (c :: rest)
    | [] => none

/-- What follows items up to a closing bracket; with `keyed`, items may be keys with values. -/
def skipItems? (fuel : Nat) (closing : Char) (keyed : Bool) (t : Text) : Option Text :=
  match fuel with
  | 0 => none
  | fuel + 1 =>
    if t.head? = some closing then some t.tail
    else do
      let rest := skipSpaces (← skipLiteral? fuel t)
      let rest ← match rest with
        | ':' :: rest => if keyed then (skipLiteral? fuel rest).map skipSpaces else none
        | rest => some rest
      match rest with
      | ',' :: rest => skipItems? fuel closing keyed (skipSpaces rest)
      | c :: rest => if c = closing then some rest else none
      | [] => none

end

/-- What follows literals with commas between them. -/
def skipTuple? (fuel : Nat) (t : Text) : Option Text :=
  match fuel with
  | 0 => none
  | fuel + 1 => do
    match skipSpaces (← skipLiteral? fuel t) with
    | ',' :: rest => if (skipSpaces rest).isEmpty then some [] else skipTuple? fuel rest
    | rest => some rest

/-- Whether a text is a literal, or several with commas between them. -/
def isLiteral (t : Text) : Bool := skipTuple? (2 * t.length + 2) t == some []

end SchemaMill.Markup
