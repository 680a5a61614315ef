import SchemaMill.Proofs.Lexing.Phrases

/-!
# The shape of the lexical rules

Words are read by the last of the rules that can begin with a word character; all rules before it
have one of a few shapes (`ruleShape_earlyRules`): they begin with a sign, with a blank or with a
digit, or they spell phrases of keywords, or they are a plain name with something required around
it. What a rule can find at a word follows from its shape.

The phrases of all rules are checked against three lists: the words with which longer phrases begin,
the words that are operators, and the phrases that table definitions are made of.
-/

namespace SchemaMill.Sql

open Pattern

/-- The first words of the phrases of more than one word, each with the second words that make a
phrase of it; without any, every text does. -/
def phraseStarts : List (String × List String) :=
  [("LEFT", ["INNER", "OUTER", "STRAIGHT", "JOIN"]),
    ("RIGHT", ["INNER", "OUTER", "STRAIGHT", "JOIN"]),
    ("FULL", ["INNER", "OUTER", "STRAIGHT", "JOIN"]),
    ("INNER", ["JOIN"]), ("OUTER", ["JOIN"]), ("STRAIGHT", ["JOIN"]), ("CROSS", ["JOIN"]),
    ("NATURAL", ["JOIN"]), ("END", ["IF", "LOOP", "WHILE", "FOR", "CASE"]),
    ("IF", ["NOT", "EXISTS"]), ("NOT", ["NULL", "LIKE", "ILIKE", "RLIKE", "REGEXP"]),
    ("ASC", ["NULLS"]), ("DESC", ["NULLS"]), ("NULLS", ["FIRST", "LAST"]), ("UNION", ["ALL"]),
    ("CREATE", ["OR"]), ("DOUBLE", ["PRECISION"]), ("GROUP", ["BY"]), ("ORDER", ["BY"]),
    ("PRIMARY", ["KEY"]), ("HANDLER", ["FOR"]), ("GO", []), ("LATERAL", ["VIEW"]),
    ("AT", ["TIME"]), ("REGEXP", ["BINARY"])]

/-- Words that are operators. -/
def operatorWords : List String := ["LIKE", "ILIKE", "RLIKE", "REGEXP", "DIV"]

/-- Whether a text is a word that is an operator. -/
def isOperatorWord (a : Text) : Bool := operatorWords.any fun w => plainText a == plainText w.toList

/-- The kinds of lexeme that a word may be. -/
def wordKinds (a : Text) : List LexemeKind :=
  if isOperatorWord a then [.operator] else [.keyword, .name]

/-- The keywords of several words that stand in table definitions. -/
def keywordPhrases : List (List String) :=
  [["NOT", "NULL"], ["PRIMARY", "KEY"], ["IF", "NOT", "EXISTS"], ["DOUBLE", "PRECISION"],
    ["UNION", "ALL"], ["GROUP", "BY"], ["ORDER", "BY"]]

/-- Whether a phrase is a single word, or begins with words that are listed. -/
def startsListed : List PhraseItem → Bool
  | [.word _] => true
  | .word w :: .gap :: .word v :: _ =>
    phraseStarts.any fun (first, seconds) => first == w && seconds.contains v
  | .word w :: .gap :: .other :: _ => phraseStarts.contains (w, [])
  | _ => false

/-- Whether a phrase that makes a lexeme of a kind makes operators of the words that are operators,
and of no others. -/
def namesWords (kind : LexemeKind) : List PhraseItem → Bool
  | [.word w] => (wordKinds w.toList).contains kind
  | _ => true

/-- Whether a phrase that makes a lexeme of a kind is told apart from a keyword of several words, or
is that keyword. -/
def settles (kind : LexemeKind) (ws : List String) (phrase : List PhraseItem) : Bool :=
  !overlap phrase (phraseOf ws) || (phrase.length == (phraseOf ws).length &&
    !phrase.contains .other && [.keyword, .name].contains kind)

/-- Whether a phrase that makes a lexeme of a kind agrees with the lists. -/
def isPhrase (kind : LexemeKind) (phrase : List PhraseItem) : Bool :=
  alternates phrase && startsListed phrase && namesWords kind phrase &&
    keywordPhrases.all fun ws => settles kind ws phrase

/-- A character with which a word may begin, as far as signs, blanks and digits are concerned. -/
structure WordStart (c : Char) : Prop where
  isWordChar : isWordChar c
  noDigit : isDecimalDigit c = false

namespace WordStart

variable {c : Char}

theorem ne_of_sign (h : WordStart c) {s : Char}
    (hs : (!SchemaMill.isWordChar s || isDecimalDigit s) = true) : ¬ c = s := by
  rintro rfl
  simp [h.isWordChar, h.noDigit] at hs

theorem isBlank_eq_false (h : WordStart c) : isBlank c = false :=
  isBlank_eq_false_of_isWordChar h.isWordChar

theorem plainLetter_ne_zero (h : WordStart c) : ¬ plainLetter c = plainLetter '0' :=
  fun h0 => h.ne_of_sign (s := '0') (by decide) (eq_of_plainLetter_eq h0 (by decide))

end WordStart

/-- The shapes of the rules before the one for words. -/
inductive RuleShape : Pattern × LexemeKind → Prop where
  /-- A rule that does not begin with a letter. -/
  | signs {p kind} (hempty : p.canBeEmpty = false)
      (hbegins : ∀ c, WordStart c → p.begins c = false) : RuleShape (p, kind)
  /-- A rule for phrases that agree with the lists. -/
  | phrases {p kind ps} (hp : Phrases p ps) (hs : Stops p) (hps : ps.all (isPhrase kind)) :
      RuleShape (p, kind)
  /-- The choice of a time zone. -/
  | zone {q} (hq : Stops q) : RuleShape (seq (oneOf ["AT", "WITH'"])
      (seq blanks (seq (phrase ["TIME", "ZONE"]) (seq blanks q))), .keyword)
  /-- A name in front of a dot. -/
  | dotted {q} : RuleShape (seq plainName (ahead (seq (many blank) (seq (char '.') q))), .name)
  /-- A name behind a dot. -/
  | member : RuleShape (seq (after (· == '.')) plainName, .name)
  /-- A name in front of a parenthesis. -/
  | called : RuleShape (seq plainName (ahead (char '(')), .name)

/-- The choice of a time zone after `AT` is a phrase that agrees with the lists. -/
theorem phrases_zone {q : Pattern} (hq : Stops q) :
    let p := seq (word "AT") (seq blanks (seq (phrase ["TIME", "ZONE"]) (seq blanks q)))
    ∃ ps, Phrases p ps ∧ Stops p ∧ ps.all (isPhrase .keyword) :=
  ⟨_, phrases_seq (phrases_word _) (phrases_seq phrases_blanks (phrases_seq (phrases_phrase _)
    (phrases_seq phrases_blanks (phrases_other q)))),
    stops_seq (stops_seq (stops_seq (stops_seq hq))), by decide⟩

/-- The rules before the one for words. -/
def earlyRules : List (Pattern × LexemeKind) := lexicalRules.take 44

theorem lexicalRules_eq : lexicalRules =
    earlyRules ++ (seq (one isWordChar) (many (one isWordPart)), .name) ::
      lexicalRules.drop 45 := rfl

/-- Every rule before the one for words has one of the shapes. -/
theorem ruleShape_earlyRules : ∀ rule ∈ earlyRules, RuleShape rule := by
  have edge : ∀ {p : Pattern}, Stops (seq p wordEdge) := stops_seq stops_wordEdge
  have phraseEdge : ∀ ws : List String, Phrases (seq (phrase ws) wordEdge) _ := fun ws =>
    phrases_seq (phrases_phrase ws) phrases_wordEdge
  have letter : ∀ {ls : List Char} {l : Char},
      ls.all (fun c => plainLetter c == plainLetter l) = true →
      ∀ c, ls.contains c = true → plainLetter c = plainLetter l := fun hls c hc => by
    simpa using List.all_eq_true.mp hls c (List.contains_iff_mem.mp hc)
  simp only [earlyRules, lexicalRules, List.take, List.forall_mem_cons]
  refine ⟨?_, ?_, ?_, ?_, ?_, ?_, ?_, ?_, ?_, ?_, ?_, ?_,
    .phrases (phrases_seq (phrases_oneOf _) phrases_wordEdge) edge (by decide),
    ?_, .dotted, .member, .called, ?_, ?_, ?_, ?_, ?_, ?_, ?_, ?_,
    -- joins
    .phrases (phrases_seq (phrases_opt (phrases_alt
      (phrases_seq (phrases_opt (phrases_spaced _)) (phrases_opt (phrases_spaced _)))
      (phrases_opt (phrases_spaced _)))) (phrases_seq (phrases_word _) phrases_wordEdge))
      (stops_seq edge) (by decide),
    -- the ends of blocks
    .phrases (phrases_seq (phrases_word _)
      (phrases_seq (phrases_opt (phrases_gapped _)) phrases_wordEdge)) (stops_seq edge) (by decide),
    .phrases (phrases_seq (phrases_word _) (phrases_seq phrases_blanks
      (phrases_seq (phrases_opt (phrases_spaced _)) (phrases_seq (phrases_word _)
      phrases_wordEdge)))) (stops_seq (stops_seq (stops_seq edge))) (by decide),
    .phrases (phraseEdge _) edge (by decide),
    -- directions, with and without the place of nulls
    .phrases (phrases_seq (phrases_oneOf _) (phrases_seq (phrases_opt
      (phrases_seq phrases_blanks (phrases_seq (phrases_word _) (phrases_seq phrases_blanks
      (phrases_oneOf _))))) phrases_wordEdge)) (stops_seq edge) (by decide),
    .phrases (phrases_seq (phrases_word _) (phrases_seq phrases_blanks
      (phrases_seq (phrases_oneOf _) phrases_wordEdge))) (stops_seq (stops_seq edge)) (by decide),
    .phrases (phraseEdge _) edge (by decide),
    .phrases (phrases_seq (phrases_word _) (phrases_seq (phrases_opt
      (phrases_seq phrases_blanks (phrases_phrase _))) phrases_wordEdge)) (stops_seq edge)
      (by decide),
    .phrases (phraseEdge _) edge (by decide), .phrases (phraseEdge _) edge (by decide),
    .phrases (phraseEdge _) edge (by decide), .phrases (phraseEdge _) edge (by decide),
    .phrases (phraseEdge _) edge (by decide),
    -- batches
    .phrases (phrases_seq (phrases_word _) (phrases_seq phrases_blank
      (phrases_seq (phrases_other _) phrases_wordEdge))) (stops_seq (stops_seq edge)) (by decide),
    .phrases (phrases_seq (phrases_spaced _) (phrases_seq (phrases_spaced _)
      (phrases_seq (phrases_oneOf _) phrases_wordEdge))) (stops_seq (stops_seq edge)) (by decide),
    .zone (stops_seq (stops_seq (stops_one fun c hc => by rw [beq_iff_eq.mp hc]; decide))),
    -- operators in letters
    .phrases (phrases_seq (phrases_opt (phrases_spaced _)) (phrases_seq
      (phrases_oneOf _) phrases_wordEdge)) (stops_seq edge) (by decide),
    .phrases (phrases_seq (phrases_opt (phrases_spaced _)) (phrases_seq
      (phrases_word _) (phrases_seq (phrases_opt (phrases_seq phrases_blanks (phrases_word _)))
      phrases_wordEdge))) (stops_seq (stops_seq edge)) (by decide),
    .phrases (phrases_of_letters (w := "DIV") (letters_seq (letters_one (letter (by decide)))
      (letters_seq (letters_one (letter (by decide)))
      (letters_seq (letters_one (letter (by decide))) letters_notAhead))))
      (stops_seq (stops_seq (stops_seq stops_notAhead))) (by decide),
    fun _ h => absurd h List.not_mem_nil⟩
  all_goals
    refine .signs (by decide) fun c h => ?_
    have hne := fun s => h.ne_of_sign (s := s)
    simp (disch := decide) [begins, all, any, lineBreak, literal, blank, char, quoted,
      quotedEscaped, opt, some1, digits, minus, noName, canBeEmpty, Pattern.word, hne,
      h.isBlank_eq_false, h.noDigit, h.plainLetter_ne_zero]

end SchemaMill.Sql
