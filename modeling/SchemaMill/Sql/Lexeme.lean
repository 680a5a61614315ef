import SchemaMill.Sql.Pattern
import SchemaMill.Text.Letter

/-!
# Lexemes

The lexical grammar of statements is an ordered list of patterns, each with the kind of lexeme it
describes. At every position the first pattern that matches wins; before the patterns come the two
kinds of span, bracketed comments and dollar-quoted bodies, which count only if they are closed.

`lexemes_flatten` says that the lexemes of a text make up the text, whatever it holds.
-/

namespace SchemaMill.Sql

/-- Kinds of lexeme. -/
inductive LexemeKind where
  /-- A blank or a line break. -/
  | blank
  | comment
  /-- A keyword of one or more words. -/
  | keyword
  /-- A name: plain, quoted or a placeholder. -/
  | name
  | number
  /-- Text in single quotes. -/
  | text
  /-- Text in double quotes, which may stand for a name. -/
  | symbol
  | operator
  | punctuation
  /-- A dollar-quoted body, an assignment sign, a star or a client command. -/
  | mark
  /-- A character that starts no lexeme. -/
  | stray
  deriving DecidableEq, Repr

/-- A lexeme of a statement. -/
structure Lexeme where
  kind : LexemeKind
  value : Text
  deriving DecidableEq, Repr

/-- Letters that may begin a name: the Latin alphabet, the accented letters of its first supplement
up to u with diaeresis, and their relatives in the other case. -/
def isNameStart (c : Char) : Bool :=
  let n := c.toNat
  c.isAlpha || (0xC0 ≤ n && n ≤ 0xDC) || (0xE0 ≤ n && n ≤ 0xF6) || (0xF8 ≤ n && n ≤ 0xFC) ||
    n == 0x130 || n == 0x131 || n == 0x17F || n == 0x212A || n == 0x212B

/-- Characters that may stand in a word after its first one. -/
def isWordPart (c : Char) : Bool := c == '$' || c == '#' || isWordChar c

namespace Pattern

/-- Several word characters, or none. -/
def wordChars : Pattern := many (one isWordChar)

/-- A letter and the word characters after it. -/
def plainName : Pattern := seq (one isNameStart) wordChars

/-- One or more decimal digits. -/
def digits : Pattern := some1 (one isDecimalDigit)

/-- A minus sign or nothing. -/
def minus : Pattern := opt (char '-')

/-- No name may go on at this position. -/
def noName : Pattern := notAhead (one fun c => c == '_' || isNameStart c)

/-- Text between two of a quote character, which stands doubled inside. -/
def quoted (q : Char) : Pattern :=
  all [char q, many (alt (seq (char q) (char q)) (one (· != q))), char q]

/-- Text between two of a quote character, which stands doubled or after a backslash inside. -/
def quotedEscaped (q : Char) : Pattern :=
  all [char q, many (any [seq (char q) (char q), seq (char '\\') (char q), one (· != q)]), char q]

/-- Any characters but line feeds, as few as possible. -/
def shortLine : Pattern := few (one (· != '\n'))

/-- A line break of one or two characters. -/
def lineBreak : Pattern := any [literal "\r\n", char '\r', char '\n']

/-- Words of which each is followed by blanks. -/
def spaced (ws : List String) : Pattern := any (ws.map fun w => seq (word w) blanks)

end Pattern

open Pattern in
/-- The lexical grammar in order of precedence. -/
def lexicalRules : List (Pattern × LexemeKind) := [
  (all [alt (literal "--") (literal "# "), shortLine, alt lineBreak textEnd], .comment),
  (lineBreak, .blank),
  (blank, .blank),
  (literal ":=", .mark),
  (literal "::", .punctuation),
  (char '*', .mark),
  (quoted '\x60', .name),
  (quoted '´', .name),
  (char '?', .name),
  (all [char '%', opt (all [char '(', some1 (one isWordChar), char ')']), word "s"], .name),
  (all [notAfter isWordChar, one (['$', ':', '?'].contains ·), some1 (one isWordChar)], .name),
  (all [char '\\', some1 (one isWordChar)], .mark),
  (seq (oneOf ["CASE", "IN", "VALUES", "USING", "FROM", "AS"]) wordEdge, .keyword),
  (all [any [char '@', literal "##", char '#'], one isNameStart, some1 (one isWordChar)], .name),
  (seq plainName (ahead (all [many blank, char '.', notAhead (one isDecimalDigit)])), .name),
  (seq (after (· == '.')) plainName, .name),
  (seq plainName (ahead (char '(')), .name),
  (all [minus, word "0x",
    some1 (one fun c => isDecimalDigit c || ('a' ≤ plainLetter c && plainLetter c ≤ 'f'))],
    .number),
  (all [minus, digits, opt (seq (char '.') digits), word "E", minus, digits], .number),
  (all [noName, minus, alt (all [digits, char '.', opt digits]) (seq (char '.') digits), noName],
    .number),
  (all [noName, minus, digits, noName], .number),
  (quotedEscaped '\'', .text),
  (quotedEscaped '"', .symbol),
  (alt (literal "\"\"") (all [char '"', shortLine, one (· != '\\'), char '"']), .symbol),
  (all [notAfter fun c => isWordChar c || c == ']' || c == ')',
    char '[', some1 (one fun c => c != '[' && c != ']'), char ']'], .name),
  (all [opt (alt (seq (opt (spaced ["LEFT", "RIGHT", "FULL"]))
      (opt (spaced ["INNER", "OUTER", "STRAIGHT"])))
    (opt (spaced ["CROSS", "NATURAL"]))), word "JOIN", wordEdge], .keyword),
  (all [word "END", opt (any (["IF", "LOOP", "WHILE", "FOR", "CASE"].map fun w =>
    seq blanks (word w))), wordEdge], .keyword),
  (all [word "IF", blanks, opt (spaced ["NOT"]), word "EXISTS", wordEdge], .keyword),
  (seq (phrase ["NOT", "NULL"]) wordEdge, .keyword),
  (all [oneOf ["ASC", "DESC"],
    opt (all [blanks, word "NULLS", blanks, oneOf ["FIRST", "LAST"]]), wordEdge], .keyword),
  (all [word "NULLS", blanks, oneOf ["FIRST", "LAST"], wordEdge], .keyword),
  (seq (phrase ["UNION", "ALL"]) wordEdge, .keyword),
  (all [word "CREATE", opt (seq blanks (phrase ["OR", "REPLACE"])), wordEdge], .keyword),
  (seq (phrase ["DOUBLE", "PRECISION"]) wordEdge, .name),
  (seq (phrase ["GROUP", "BY"]) wordEdge, .keyword),
  (seq (phrase ["ORDER", "BY"]) wordEdge, .keyword),
  (seq (phrase ["PRIMARY", "KEY"]) wordEdge, .keyword),
  (seq (phrase ["HANDLER", "FOR"]) wordEdge, .keyword),
  (all [word "GO", blank, digits, wordEdge], .keyword),
  (all [spaced ["LATERAL"], spaced ["VIEW"],
    oneOf ["EXPLODE", "INLINE", "PARSE_URL_TUPLE", "POSEXPLODE", "STACK"], wordEdge], .keyword),
  (all [oneOf ["AT", "WITH'"], blanks, phrase ["TIME", "ZONE"], blanks,
    char '\'', some1 (one (· != '\'')), char '\''], .keyword),
  (all [opt (spaced ["NOT"]), oneOf ["LIKE", "ILIKE", "RLIKE"], wordEdge], .operator),
  (all [opt (spaced ["NOT"]), word "REGEXP", opt (seq blanks (word "BINARY")), wordEdge],
    .operator),
  (all [one (['D', 'd'].contains ·), one (['I', 'i', 'ı'].contains ·), one (['V', 'v'].contains ·),
    notAhead (one isWordPart)], .operator),
  (seq (one isWordChar) (many (one isWordPart)), .name),
  (one (";:()[],.".toList.contains ·), .punctuation),
  (any [seq (literal "->") (opt (char '>')), seq (literal "#>") (opt (char '>')), literal "@>",
    literal "<@", seq (char '?') (opt (char '|')), literal "?&", char '-', literal "#-"],
    .operator),
  (some1 (one ("<>=~!".toList.contains ·)), .operator),
  (some1 (one ("+/@#%^&|-".toList.contains ·)), .operator)]

/-- The text up to the end of the first occurrence of a closing mark, and what is left. -/
def throughMark (mark : Text) : Text → Option (Text × Text)
  | [] => if mark.isEmpty then some ([], []) else none
  | c :: rest =>
    match dropPrefix? mark (c :: rest) with
    | some after => some (mark, after)
    | none => (throughMark mark rest).map fun (inside, after) => (c :: inside, after)

/-- A dollar quote: a dollar sign, a name or nothing, and a dollar sign. -/
def dollarQuote : Pattern :=
  .all [.char '$', .opt (.seq (.one fun c => c == '_' || isNameStart c) .wordChars), .char '$']

/-- A span that opens at this position and is closed later. -/
def span? (before : Option Char) (t : Text) : Option (Lexeme × Text) :=
  match dropPrefix? "/*" t with
  | some inside => (throughMark "*/" inside).map fun (body, rest) =>
    (⟨.comment, "/*".toList ++ body⟩, rest)
  | none =>
    if before.any fun c => isWordChar c || c == '"' || c == '$' then none
    else do
      let (mark, inside) ← dollarQuote.match? before t
      let (body, rest) ← throughMark mark inside
      pure (⟨.mark, mark ++ body⟩, rest)

/-- The first rule of a list that matches at this position. -/
def firstRule? (before : Option Char) (t : Text) :
    List (Pattern × LexemeKind) → Option (Lexeme × Text)
  | [] => none
  | (pattern, kind) :: rules =>
    match pattern.match? before t with
    | some (value, rest) => some (⟨kind, value⟩, rest)
    | none => firstRule? before t rules

/-- The lexeme at the start of a text, with what is left: a span, or what the first matching rule
finds, or one stray character. -/
def nextLexeme (before : Option Char) (c : Char) (t : Text) : Lexeme × Text :=
  match (span? before (c :: t)).or (firstRule? before (c :: t) lexicalRules) with
  | some (l, rest) => if l.value.isEmpty then (⟨.stray, [c]⟩, t) else (l, rest)
  | none => (⟨.stray, [c]⟩, t)

theorem throughMark_append {mark t inside rest : Text}
    (h : throughMark mark t = some (inside, rest)) : inside ++ rest = t := by
  induction t generalizing inside with
  | nil => rw [throughMark] at h; split at h <;> simp_all
  | cons c t ih =>
    rw [throughMark] at h
    split at h
    · next after hd => cases h; exact (dropPrefix?_eq_some_iff.mp hd).symm
    · obtain ⟨⟨i, r⟩, hr, h⟩ := Option.map_eq_some_iff.mp h
      cases h
      simp [ih hr]

theorem span?_append {before : Option Char} {t rest : Text} {l : Lexeme}
    (h : span? before t = some (l, rest)) : l.value ++ rest = t := by
  rw [span?] at h
  split at h
  · next inside hd =>
    obtain ⟨⟨b, r⟩, hr, h⟩ := Option.map_eq_some_iff.mp h
    cases h
    rw [dropPrefix?_eq_some_iff.mp hd, List.append_assoc, throughMark_append hr]
  · split at h
    · cases h
    · simp only [bind, pure, Option.bind_eq_some_iff] at h
      obtain ⟨⟨mark, inside⟩, hm, ⟨body, r⟩, hb, h⟩ := h
      cases h
      rw [List.append_assoc, throughMark_append hb, Pattern.match?_append hm]

theorem firstRule?_append {before : Option Char} {t rest : Text} {l : Lexeme} {rules}
    (h : firstRule? before t rules = some (l, rest)) : l.value ++ rest = t := by
  induction rules with
  | nil => cases h
  | cons r rules ih =>
    rw [firstRule?] at h
    split at h
    · next hm => cases h; exact Pattern.match?_append hm
    · exact ih h

/-- A lexeme and what is left after it make up the text. -/
theorem nextLexeme_append (before : Option Char) (c : Char) (t : Text) :
    (nextLexeme before c t).1.value ++ (nextLexeme before c t).2 = c :: t := by
  rw [nextLexeme]
  split
  · next l rest h =>
    split
    · rfl
    · rcases Option.or_eq_some_iff.mp h with h | ⟨_, h⟩
      · exact span?_append h
      · exact firstRule?_append h
  · rfl

/-- Every lexeme holds at least one character. -/
theorem nextLexeme_ne_nil (before : Option Char) (c : Char) (t : Text) :
    (nextLexeme before c t).1.value ≠ [] := by
  rw [nextLexeme]
  split
  · split
    · simp
    · simp_all
  · simp

theorem length_nextLexeme_le (before : Option Char) (c : Char) (t : Text) :
    (nextLexeme before c t).2.length ≤ t.length := by
  have happend := congrArg List.length (nextLexeme_append before c t)
  have hpos := List.length_pos_iff.mpr (nextLexeme_ne_nil before c t)
  simp only [List.length_append, List.length_cons] at happend
  omega

/-- The lexemes of a text that follows the character `before`. -/
def lexemesFrom (before : Option Char) : Text → List Lexeme
  | [] => []
  | c :: t =>
    (nextLexeme before c t).1 ::
      lexemesFrom ((nextLexeme before c t).1.value.getLast?) (nextLexeme before c t).2
termination_by t => t.length
decreasing_by exact Nat.lt_succ_of_le (length_nextLexeme_le ..)

/-- The lexemes of a text. -/
def lexemes (t : Text) : List Lexeme := lexemesFrom none t

theorem lexemesFrom_flatten (before : Option Char) (t : Text) :
    ((lexemesFrom before t).map (·.value)).flatten = t := by
  fun_induction lexemesFrom before t with
  | case1 => rfl
  | case2 before c t ih => simp [ih, nextLexeme_append]

/-- The lexemes of a text make up the text. -/
theorem lexemes_flatten (t : Text) : ((lexemes t).map (·.value)).flatten = t :=
  lexemesFrom_flatten none t

end SchemaMill.Sql
