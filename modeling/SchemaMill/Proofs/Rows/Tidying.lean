import Mathlib.Data.List.TakeWhile
import SchemaMill.Sql.Tidy

/-!
# Tidying around a mark

Tidying works on whole lines, so what becomes of a part of a text depends on what stands around it.
A mark is a character that ends this dependence: it is no blank and no part of a type with two
numbers. Between two marks the lines of a text are tidied on their own, except that the last one
keeps its blanks since the mark goes on the line (`tidyOpen`), and so `tidyOpen_append` takes a
statement apart at its quotes.

What is said of a line is shown along the types in it that are closed up
(`closeArguments_induction`). `solid_tidyOpen` says that only blanks are ever changed.
-/

namespace SchemaMill.Sql

/-- A character that is no blank and no part of a type with two numbers. -/
structure IsMark (c : Char) : Prop where
  blank : isBlank c = false
  word : isWordChar c = false
  upper : c.isUpper = false
  digit : isDecimalDigit c = false
  sign : c ∉ "(,)".toList

variable {q : Char}

theorem IsMark.notMem_signs (hq : IsMark q) :
    q ∉ "(".toList ∧ q ∉ ", ".toList ∧ q ∉ ")".toList := by
  have hspace : q ≠ ' ' := fun h => absurd (h ▸ hq.blank) (by decide)
  have hsign := hq.sign
  simp_all

/-! ### Types with two numbers -/

/-- One or more digits. -/
def IsNumber (t : Text) : Prop := t ≠ [] ∧ ∀ c ∈ t, isDecimalDigit c

/-- A type name in capitals with two numbers. -/
structure SizedType where
  name : Text
  /-- The first number. -/
  precision : Text
  /-- The second number. -/
  scale : Text
  name_ne_nil : name ≠ []
  isUpper : ∀ c ∈ name, c.isUpper
  isNumber_precision : IsNumber precision
  isNumber_scale : IsNumber scale

namespace SizedType

/-- The type up to the comma. -/
def lead (k : SizedType) : Text := k.name ++ '(' :: k.precision

/-- The type with a space between its numbers. -/
def spaced (k : SizedType) : Text := k.lead ++ ',' :: ' ' :: (k.scale ++ [')'])

/-- The type without a space between its numbers. -/
def closed (k : SizedType) : Text := k.lead ++ ',' :: (k.scale ++ [')'])

end SizedType

theorem takeNumber?_append {digits : Text} (hdigits : IsNumber digits) {c : Char}
    (hc : isDecimalDigit c = false) (rest : Text) :
    takeNumber? (digits ++ c :: rest) = some (digits, c :: rest) := by
  have htake : (digits ++ c :: rest).takeWhile isDecimalDigit = digits := by
    rw [List.takeWhile_append_of_pos hdigits.2, List.takeWhile_cons_of_neg (by simp [hc]),
      List.append_nil]
  rw [takeNumber?, htake, List.dropWhile_append_of_pos hdigits.2,
    List.dropWhile_cons_of_neg (by simp [hc])]
  simp [hdigits.1]

theorem takeNumber?_eq_some {t digits rest : Text} (h : takeNumber? t = some (digits, rest)) :
    IsNumber digits ∧ t = digits ++ rest := by
  rw [takeNumber?] at h
  split at h
  · cases h
  · next hne =>
    cases h
    exact ⟨⟨by simpa using hne, fun c hc => List.mem_takeWhile_imp hc⟩,
      List.takeWhile_append_dropWhile.symm⟩

theorem typeArguments?_name {name : Text} (hne : name ≠ []) (hname : ∀ c ∈ name, c.isUpper)
    (inside : Text) :
    typeArguments? (name ++ '(' :: inside) = (takeNumber? inside).bind fun (precision, rest) =>
      (dropPrefix? ", " rest).bind fun afterComma =>
        (takeNumber? afterComma).bind fun (scale, rest) =>
          (dropPrefix? ")" rest).bind fun rest =>
            some (name ++ ['('] ++ precision ++ [','] ++ scale ++ [')'], rest) := by
  have htake : (name ++ '(' :: inside).takeWhile Char.isUpper = name := by
    rw [List.takeWhile_append_of_pos hname, List.takeWhile_cons_of_neg (by decide),
      List.append_nil]
  have hdrop : (name ++ '(' :: inside).dropWhile Char.isUpper = '(' :: inside := by
    rw [List.dropWhile_append_of_pos hname, List.dropWhile_cons_of_neg (by decide)]
  have hopen : dropPrefix? "(" ('(' :: inside) = some inside := rfl
  rw [typeArguments?, htake, hdrop, hopen]
  simp [hne]

theorem typeArguments?_eq_some_iff {t shown rest : Text} :
    typeArguments? t = some (shown, rest) ↔
      ∃ k : SizedType, t = k.spaced ++ rest ∧ shown = k.closed := by
  constructor
  · intro h
    simp only [typeArguments?, bind] at h
    split at h
    · cases h
    · next hne =>
      simp only [Option.bind_eq_some_iff] at h
      obtain ⟨inside, hopen, ⟨precision, r⟩, hp, afterComma, hcomma, ⟨scale, r'⟩, hs, after,
        hclose, h⟩ := h
      obtain ⟨hprecision, rfl⟩ := takeNumber?_eq_some hp
      obtain rfl := dropPrefix?_eq_some_iff.mp hcomma
      obtain ⟨hscale, rfl⟩ := takeNumber?_eq_some hs
      obtain rfl := dropPrefix?_eq_some_iff.mp hclose
      have hopen := dropPrefix?_eq_some_iff.mp hopen
      cases h
      refine ⟨⟨t.takeWhile Char.isUpper, precision, scale, by simpa using hne,
        fun c hc => List.mem_takeWhile_imp hc, hprecision, hscale⟩, ?_, by
          simp [SizedType.closed, SizedType.lead]⟩
      calc t = t.takeWhile Char.isUpper ++ t.dropWhile Char.isUpper :=
            List.takeWhile_append_dropWhile.symm
        _ = _ := by rw [hopen]; simp [SizedType.spaced, SizedType.lead]
  · rintro ⟨k, rfl, rfl⟩
    have htext : k.spaced ++ rest = k.name ++ '(' :: (k.precision ++ ',' :: ' ' ::
        (k.scale ++ ')' :: rest)) := by simp [SizedType.spaced, SizedType.lead]
    have hcomma (u : Text) : dropPrefix? ", " (',' :: ' ' :: u) = some u := rfl
    have hclose : dropPrefix? ")" (')' :: rest) = some rest := rfl
    rw [htext, typeArguments?_name k.name_ne_nil k.isUpper,
      takeNumber?_append k.isNumber_precision (by decide)]
    simp only [Option.bind_some, hcomma, hclose,
      takeNumber?_append k.isNumber_scale (show isDecimalDigit ')' = false by decide)]
    simp [SizedType.closed, SizedType.lead]

/-! ### One line -/

theorem takeWhile_append_mark {p : Char → Bool} (hq : p q = false) (s t : Text) :
    (s ++ q :: t).takeWhile p = s.takeWhile p := by
  induction s with
  | nil => simp [hq]
  | cons c s ih => by_cases h : p c <;> simp [h, ih]

theorem dropWhile_append_mark {p : Char → Bool} (hq : p q = false) (s t : Text) :
    (s ++ q :: t).dropWhile p = s.dropWhile p ++ q :: t := by
  induction s with
  | nil => simp [hq]
  | cons c s ih => by_cases h : p c <;> simp [h, ih]

theorem dropPrefix?_append_mark {lead : Text} (hq : q ∉ lead) (s t : Text) :
    dropPrefix? lead (s ++ q :: t) = (dropPrefix? lead s).map (· ++ q :: t) := by
  induction lead generalizing s with
  | nil => rfl
  | cons p ps ih =>
    have hp : p ≠ q := fun h => hq (by simp [h])
    have hps : q ∉ ps := fun h => hq (List.mem_cons_of_mem p h)
    cases s with
    | nil => simp [dropPrefix?, hp]
    | cons c s => by_cases h : p = c <;> simp [dropPrefix?, h, ih hps]

theorem takeNumber?_append_mark (hq : isDecimalDigit q = false) (s t : Text) :
    takeNumber? (s ++ q :: t) =
      (takeNumber? s).map fun (digits, rest) => (digits, rest ++ q :: t) := by
  rw [takeNumber?, takeNumber?, takeWhile_append_mark hq, dropWhile_append_mark hq]
  simp only
  split <;> rfl

theorem typeArguments?_append_mark (hq : IsMark q) (s t : Text) : typeArguments? (s ++ q :: t) =
    (typeArguments? s).map fun (shown, rest) => (shown, rest ++ q :: t) := by
  obtain ⟨hopen, hcomma, hclose⟩ := hq.notMem_signs
  simp only [typeArguments?, takeWhile_append_mark hq.upper, dropWhile_append_mark hq.upper,
    dropPrefix?_append_mark hopen, Option.bind_eq_bind]
  split
  · rfl
  · simp only [Option.bind_map, Option.map_bind, Function.comp_def,
      takeNumber?_append_mark hq.digit, dropPrefix?_append_mark hcomma,
      dropPrefix?_append_mark hclose, Option.map_some]

/-- The type with two numbers at the start of a text, unless a word goes on there. -/
def argumentsAfter? (before : Option Char) (t : Text) : Option (Text × Text) :=
  if before.any isWordChar then none else typeArguments? t

theorem argumentsAfter?_eq_some_iff {before : Option Char} {t shown rest : Text} :
    argumentsAfter? before t = some (shown, rest) ↔
      before.any isWordChar = false ∧
        ∃ k : SizedType, t = k.spaced ++ rest ∧ shown = k.closed := by
  rw [argumentsAfter?, ← typeArguments?_eq_some_iff]
  cases before.any isWordChar <;> simp

theorem closeArguments_cons (before : Option Char) (c : Char) (t : Text) :
    closeArguments before (c :: t) =
      match argumentsAfter? before (c :: t) with
      | some (shown, after) => shown ++ closeArguments (some ')') after
      | none => c :: closeArguments (some c) t := by
  rw [closeArguments]
  unfold argumentsAfter?
  split <;> simp_all

theorem closeArguments_nil (before : Option Char) : closeArguments before [] = [] := by
  rw [closeArguments]

theorem closeArguments_of_none {before : Option Char} {c : Char} {t : Text}
    (h : argumentsAfter? before (c :: t) = none) :
    closeArguments before (c :: t) = c :: closeArguments (some c) t := by
  rw [closeArguments_cons, h]

theorem closeArguments_spaced {before : Option Char} (hbefore : before.any isWordChar = false)
    (k : SizedType) (t : Text) :
    closeArguments before (k.spaced ++ t) = k.closed ++ closeArguments (some ')') t := by
  have hsome : argumentsAfter? before (k.spaced ++ t) = some (k.closed, t) :=
    argumentsAfter?_eq_some_iff.mpr ⟨hbefore, k, rfl, rfl⟩
  cases htext : k.spaced ++ t with
  | nil => simp [SizedType.spaced] at htext
  | cons c u =>
    rw [htext] at hsome
    rw [closeArguments_cons, hsome]

theorem length_argumentsAfter?_lt {before : Option Char} {t shown rest : Text}
    (h : argumentsAfter? before t = some (shown, rest)) : rest.length < t.length := by
  unfold argumentsAfter? at h
  split at h
  · cases h
  · exact length_typeArguments?_lt h

/-- What is true of the empty line, and goes over to a line from what is left when a character is
passed over or a type is closed up at its start, is true of every line. -/
theorem closeArguments_induction {motive : Option Char → Text → Prop}
    (nil : ∀ before, motive before [])
    (pass : ∀ before c t, argumentsAfter? before (c :: t) = none → motive (some c) t →
      motive before (c :: t))
    (close : ∀ before (k : SizedType) after, before.any isWordChar = false →
      motive (some ')') after → motive before (k.spaced ++ after))
    (before : Option Char) (line : Text) : motive before line := by
  induction hn : line.length using Nat.strongRecOn generalizing before line with
  | ind n ih =>
    cases line with
    | nil => exact nil before
    | cons c t =>
      cases h : argumentsAfter? before (c :: t) with
      | none => exact pass before c t h (ih t.length (by simp [← hn]) (some c) t rfl)
      | some found =>
        obtain ⟨shown, after⟩ := found
        have hlt := length_argumentsAfter?_lt h
        obtain ⟨hbefore, k, hline, -⟩ := argumentsAfter?_eq_some_iff.mp h
        rw [hline]
        exact close before k after hbefore (ih after.length (by omega) (some ')') after rfl)

theorem closeArguments_mark (hq : IsMark q) (t : Text) :
    closeArguments (some q) t = closeArguments none t := by
  cases t with
  | nil => simp [closeArguments]
  | cons c t => simp [closeArguments_cons, argumentsAfter?, hq.word]

theorem argumentsAfter?_append_mark (hq : IsMark q) (before : Option Char) (s t : Text) :
    argumentsAfter? before (s ++ q :: t) =
      (argumentsAfter? before s).map fun (shown, rest) => (shown, rest ++ q :: t) := by
  unfold argumentsAfter?
  split
  · rfl
  · exact typeArguments?_append_mark hq s t

theorem argumentsAfter?_mark (hq : IsMark q) (before : Option Char) (t : Text) :
    argumentsAfter? before (q :: t) = none := by
  simp [argumentsAfter?, typeArguments?, hq.upper]

theorem closeArguments_append_mark (hq : IsMark q) (before : Option Char) (s t : Text) :
    closeArguments before (s ++ q :: t) =
      closeArguments before s ++ q :: closeArguments none t := by
  induction before, s using closeArguments_induction with
  | nil before =>
    rw [List.nil_append, closeArguments_of_none (argumentsAfter?_mark hq before t),
      closeArguments_mark hq, closeArguments_nil, List.nil_append]
  | pass before c s hnone ih =>
    have hargs := argumentsAfter?_append_mark hq before (c :: s) t
    rw [hnone, Option.map_none, List.cons_append] at hargs
    rw [List.cons_append, closeArguments_of_none hargs, ih, closeArguments_of_none hnone,
      List.cons_append]
  | close before k after hbefore ih =>
    rw [List.append_assoc, closeArguments_spaced hbefore, ih, closeArguments_spaced hbefore,
      List.append_assoc]

theorem expandTabs_append_mark (hq : IsMark q) (s t : Text) :
    expandTabs (s ++ q :: t) = expandTabs s ++ q :: expandTabs t := by
  have htab : q ≠ '\t' := fun h => absurd (h ▸ hq.blank) (by decide)
  simp [expandTabs, htab]

theorem trimRight_append_mark (hq : isBlank q = false) (s t : Text) :
    trimRight (s ++ q :: t) = s ++ q :: trimRight t := by
  have hreverse : (s ++ q :: t).reverse = t.reverse ++ q :: s.reverse := by simp
  rw [trimRight, hreverse, dropWhile_append_mark hq]
  simp [trimRight]

/-- A line whose blanks at the end are kept, tidied. -/
def tidyOpenLine (line : Text) : Text := closeArguments none (expandTabs line)

theorem tidyOpenLine_append_mark (hq : IsMark q) (s t : Text) :
    tidyOpenLine (s ++ q :: t) = tidyOpenLine s ++ q :: tidyOpenLine t := by
  rw [tidyOpenLine, expandTabs_append_mark hq, closeArguments_append_mark hq]
  rfl

theorem tidyLine_append_mark (hq : IsMark q) (s t : Text) :
    tidyLine (s ++ q :: t) = tidyOpenLine s ++ q :: tidyLine t := by
  rw [tidyLine, expandTabs_append_mark hq, trimRight_append_mark hq.blank,
    closeArguments_append_mark hq]
  rfl

/-! ### Several lines -/

/-- The lines of a text that goes on: a line break at its very end opens one more. -/
def openLines : Text → List Text
  | [] => [[]]
  | '\r' :: '\n' :: rest => [] :: openLines rest
  | c :: rest =>
    if isLineBreak c then [] :: openLines rest
    else match openLines rest with
      | [] => [[c]]
      | line :: more => (c :: line) :: more

/-- Lines that go on in further lines. -/
def appendLines : List Text → List Text → List Text
  | [], more => more
  | [line], [] => [line]
  | [line], next :: more => (line ++ next) :: more
  | line :: l :: ls, more => line :: appendLines (l :: ls) more

/-- Lines of which the last one goes on, tidied. -/
def tidyOpenLines : List Text → Text
  | [] => []
  | [line] => tidyOpenLine line
  | line :: l :: ls => tidyLine line ++ '\n' :: tidyOpenLines (l :: ls)

/-- A text that goes on, tidied. -/
def tidyOpen (t : Text) : Text := tidyOpenLines (openLines t)

theorem openLines_ne_nil (t : Text) : openLines t ≠ [] := by
  fun_cases openLines t <;> simp

theorem appendLines_cons {line : Text} {ls : List Text} (h : ls ≠ []) (more : List Text) :
    appendLines (line :: ls) more = line :: appendLines ls more := by
  cases ls with
  | nil => exact absurd rfl h
  | cons l ls => rfl

theorem openLines_break {c : Char} {t : Text} (hc : isLineBreak c)
    (hcr : ∀ rest, c = '\r' → t ≠ '\n' :: rest) : openLines (c :: t) = [] :: openLines t := by
  rw [openLines, if_pos hc]
  exact fun rest h => hcr rest h

theorem openLines_of_not_isLineBreak {c : Char} (hc : isLineBreak c = false) {t line : Text}
    {more : List Text} (ht : openLines t = line :: more) :
    openLines (c :: t) = (c :: line) :: more := by
  rw [openLines, if_neg (by simp [hc]), ht]
  rintro rest rfl _
  exact absurd hc (by decide)

theorem openLines_append_cons {c : Char} (hc : isLineBreak c = false) (s t : Text) :
    openLines (s ++ c :: t) = appendLines (openLines s) (openLines (c :: t)) := by
  obtain ⟨line, more, hmore⟩ := List.exists_cons_of_ne_nil (openLines_ne_nil (c :: t))
  -- a line feed cannot come from behind the carriage return that ends `s`
  have hfeed {e : Char} {rest : Text} (h : ∀ r, e = '\r' → rest = '\n' :: r → False) (r : Text)
      (he : e = '\r') : rest ++ c :: t ≠ '\n' :: r := by
    cases rest with
    | nil => rintro h'; cases h'; exact absurd hc (by decide)
    | cons d rest => rintro h'; cases h'; exact h rest he rfl
  fun_induction openLines s with
  | case1 => rw [hmore]; exact hmore
  | case2 rest ih =>
    rw [appendLines_cons (openLines_ne_nil _), ← ih]
    rfl
  | case3 e rest h he ih =>
    rw [List.cons_append, openLines_break he (hfeed h), ih, appendLines_cons (openLines_ne_nil _)]
  | case4 e rest h he hnil => exact absurd hnil (openLines_ne_nil rest)
  | case5 e rest h he l ls hl ih =>
    rw [List.cons_append]
    rw [hl, hmore] at ih
    rw [hmore]
    cases ls with
    | nil => exact openLines_of_not_isLineBreak (by simpa using he) ih
    | cons l' ls => exact openLines_of_not_isLineBreak (by simpa using he) ih

theorem isLineBreak_of_not_isBlank {c : Char} (h : isBlank c = false) : isLineBreak c = false := by
  refine Bool.eq_false_iff.mpr fun hc => ?_
  exact absurd (isBlank_of_isLineBreak hc) (by simp [h])

theorem tidyOpenLines_appendLines (hq : IsMark q) {ls : List Text} (h : ls ≠ []) (line : Text)
    (more : List Text) : tidyOpenLines (appendLines ls ((q :: line) :: more)) =
      tidyOpenLines ls ++ q :: tidyOpenLines (line :: more) := by
  induction ls with
  | nil => exact absurd rfl h
  | cons l ls ih =>
    cases ls with
    | nil =>
      cases more with
      | nil => exact tidyOpenLine_append_mark hq l line
      | cons next more =>
        show tidyLine (l ++ q :: line) ++ _ = tidyOpenLine l ++ q :: (tidyLine line ++ _)
        rw [tidyLine_append_mark hq, List.append_assoc]
        rfl
    | cons l' ls =>
      obtain ⟨k, ks, hk⟩ := List.exists_cons_of_ne_nil
        (show appendLines (l' :: ls) ((q :: line) :: more) ≠ [] by cases ls <;> simp [appendLines])
      have ih := ih (List.cons_ne_nil _ _)
      rw [hk] at ih
      rw [appendLines_cons (List.cons_ne_nil _ _), hk]
      show tidyLine l ++ '\n' :: tidyOpenLines (k :: ks) = _
      rw [ih]
      simp [tidyOpenLines]

/-- A mark takes a text apart: what is on its two sides is tidied on its own. -/
theorem tidyOpen_append (hq : IsMark q) (s t : Text) :
    tidyOpen (s ++ q :: t) = tidyOpen s ++ q :: tidyOpen t := by
  obtain ⟨line, more, hmore⟩ := List.exists_cons_of_ne_nil (openLines_ne_nil t)
  have hbreak := isLineBreak_of_not_isBlank hq.blank
  rw [tidyOpen, openLines_append_cons hbreak, openLines_of_not_isLineBreak hbreak hmore,
    tidyOpenLines_appendLines hq (openLines_ne_nil s), tidyOpen, tidyOpen, hmore]

/-! ### Whole texts -/

theorem lines_append_singleton {c : Char} (hc : isLineBreak c = false) (s : Text) :
    lines (s ++ [c]) = openLines (s ++ [c]) := by
  have hfeed {e : Char} {rest : Text} (h : ∀ r, e = '\r' → rest = '\n' :: r → False) (r : Text)
      (he : e = '\r') : rest ++ [c] ≠ '\n' :: r := by
    cases rest with
    | nil => rintro h'; cases h'; exact absurd hc (by decide)
    | cons d rest => rintro h'; cases h'; exact h rest he rfl
  fun_induction openLines s with
  | case1 =>
    rw [List.nil_append, openLines_of_not_isLineBreak hc rfl, lines, if_neg (by simp [hc])]
    · rfl
    · rintro rest rfl _
      exact absurd hc (by decide)
  | case2 rest ih => exact congrArg ([] :: ·) ih
  | case3 e rest h he ih =>
    rw [List.cons_append, openLines_break he (hfeed h), lines, if_pos he, ih]
    exact fun r he' => hfeed h r he'
  | case4 e rest h he hnil => exact absurd hnil (openLines_ne_nil rest)
  | case5 e rest h he l ls hl ih =>
    obtain ⟨line, more, hmore⟩ := List.exists_cons_of_ne_nil (openLines_ne_nil (rest ++ [c]))
    rw [List.cons_append, openLines_of_not_isLineBreak (by simpa using he) hmore, lines, if_neg he,
      ih, hmore]
    exact fun r he' => hfeed h r he'

theorem trimRight_append_singleton {c : Char} (hc : isBlank c = false) (s : Text) :
    trimRight (s ++ [c]) = s ++ [c] :=
  trimRight_append_mark hc s []

theorem tidyLine_append_singleton {c : Char} (hc : isBlank c = false) (s : Text) :
    tidyLine (s ++ [c]) = tidyOpenLine (s ++ [c]) := by
  have htab : c ≠ '\t' := fun h => absurd (h ▸ hc) (by decide)
  have hexpand : expandTabs (s ++ [c]) = expandTabs s ++ [c] := by simp [expandTabs, htab]
  rw [tidyLine, tidyOpenLine, hexpand, trimRight_append_singleton hc]

theorem joinLines_appendLines {c : Char} (hc : isBlank c = false) {ls : List Text} (h : ls ≠ []) :
    joinLines ((appendLines ls [[c]]).map tidyLine) = tidyOpenLines (appendLines ls [[c]]) := by
  induction ls with
  | nil => exact absurd rfl h
  | cons l ls ih =>
    cases ls with
    | nil => exact tidyLine_append_singleton hc l
    | cons l' ls =>
      obtain ⟨k, ks, hk⟩ := List.exists_cons_of_ne_nil
        (show appendLines (l' :: ls) [[c]] ≠ [] by cases ls <;> simp [appendLines])
      have ih := ih (List.cons_ne_nil _ _)
      rw [hk] at ih
      rw [appendLines_cons (List.cons_ne_nil _ _), hk]
      show tidyLine l ++ ['\n'] ++ joinLines ((k :: ks).map tidyLine) =
        tidyLine l ++ '\n' :: tidyOpenLines (k :: ks)
      rw [ih, List.append_assoc]
      rfl

/-- Tidying takes the blanks from the two ends of a text, and what is between them is tidied like a
text that goes on. -/
theorem tidy_eq_tidyOpen {lead trail t : Text} {c e : Char} (hlead : ∀ b ∈ lead, isBlank b)
    (htrail : ∀ b ∈ trail, isBlank b) (hhead : t.head? = some c) (hlast : t.getLast? = some e)
    (hc : isBlank c = false) (he : isBlank e = false) :
    tidy (lead ++ t ++ trail) = tidyOpen t := by
  obtain ⟨s, hs⟩ := List.head?_eq_some_iff.mp hhead
  obtain ⟨r, hr⟩ := List.getLast?_eq_some_iff.mp hlast
  have htrim : trim (lead ++ t ++ trail) = t := by
    rw [trim, trimLeft, List.append_assoc, List.dropWhile_append_of_pos hlead, hs, List.cons_append,
      List.dropWhile_cons_of_neg (by simp [hc]), ← List.cons_append, ← hs, hr, trimRight,
      List.reverse_append, List.dropWhile_append_of_pos (by simpa using htrail),
      List.reverse_append]
    simp [he]
  have hbreak := isLineBreak_of_not_isBlank he
  rw [tidy, htrim, hr, lines_append_singleton hbreak, tidyOpen, openLines_append_cons hbreak,
    openLines_of_not_isLineBreak hbreak rfl, joinLines_appendLines he (openLines_ne_nil r)]

/-! ### What stays -/

/-- The characters of a text that are not blank. -/
def solid (t : Text) : Text := t.filter (!isBlank ·)

theorem solid_append (s t : Text) : solid (s ++ t) = solid s ++ solid t := List.filter_append ..

theorem solid_cons_of_isBlank {c : Char} (hc : isBlank c) (t : Text) :
    solid (c :: t) = solid t := by
  simp [solid, hc]

theorem SizedType.solid_spaced (k : SizedType) : solid k.spaced = solid k.closed := by
  rw [spaced, closed, solid_append, solid_append]
  rfl

theorem solid_closeArguments (before : Option Char) (line : Text) :
    solid (closeArguments before line) = solid line := by
  induction before, line using closeArguments_induction with
  | nil before => rw [closeArguments_nil]
  | pass before c t hnone ih =>
    rw [closeArguments_of_none hnone]
    exact (solid_append [c] _).trans (by rw [ih, ← solid_append]; rfl)
  | close before k after hbefore ih =>
    rw [closeArguments_spaced hbefore, solid_append, ih, solid_append, k.solid_spaced]

theorem solid_expandTabs (line : Text) : solid (expandTabs line) = solid line := by
  induction line with
  | nil => rfl
  | cons c line ih =>
    by_cases hc : c = '\t'
    · subst hc
      exact ih
    · rw [expandTabs, List.flatMap_cons, if_neg (by simpa using hc)]
      exact (solid_append [c] _).trans (by rw [← expandTabs, ih, ← solid_append]; rfl)

theorem solid_trimRight (line : Text) : solid (trimRight line) = solid line := by
  have hdrop (t : Text) : (t.dropWhile isBlank).filter (!isBlank ·) = t.filter (!isBlank ·) := by
    induction t with
    | nil => rfl
    | cons c t ih => by_cases hc : isBlank c <;> simp [hc, ih]
  rw [solid, trimRight, List.filter_reverse, hdrop, ← List.filter_reverse, List.reverse_reverse]
  rfl

theorem solid_tidyOpenLine (line : Text) : solid (tidyOpenLine line) = solid line := by
  rw [tidyOpenLine, solid_closeArguments, solid_expandTabs]

theorem solid_tidyLine (line : Text) : solid (tidyLine line) = solid line := by
  rw [tidyLine, solid_closeArguments, solid_trimRight, solid_expandTabs]

theorem solid_tidyOpenLines (ls : List Text) : solid (tidyOpenLines ls) = solid ls.flatten := by
  induction ls with
  | nil => rfl
  | cons l ls ih =>
    cases ls with
    | nil => rw [tidyOpenLines, solid_tidyOpenLine, List.flatten_singleton]
    | cons l' ls =>
      rw [tidyOpenLines, List.flatten_cons, solid_append, solid_append, solid_tidyLine,
        solid_cons_of_isBlank (by decide), ih]

theorem solid_flatten_openLines (t : Text) : solid (openLines t).flatten = solid t := by
  fun_induction openLines t with
  | case1 => rfl
  | case2 rest ih => exact ih
  | case3 c rest h hc ih =>
    rw [List.flatten_cons, List.nil_append, ih, solid_cons_of_isBlank (isBlank_of_isLineBreak hc)]
  | case4 c rest h hc hnil => exact absurd hnil (openLines_ne_nil rest)
  | case5 c rest h hc l ls hl ih =>
    rw [hl] at ih
    show solid ([c] ++ (l :: ls).flatten) = solid ([c] ++ rest)
    rw [solid_append, ih, ← solid_append]

/-- Tidying changes nothing but blanks. -/
theorem solid_tidyOpen (t : Text) : solid (tidyOpen t) = solid t := by
  rw [tidyOpen, solid_tidyOpenLines, solid_flatten_openLines]

theorem mem_tidyOpen_iff {c : Char} (hc : isBlank c = false) {t : Text} :
    c ∈ tidyOpen t ↔ c ∈ t := by
  have hmem (u : Text) : c ∈ u ↔ c ∈ solid u := by simp [solid, hc]
  rw [hmem, solid_tidyOpen, ← hmem]

end SchemaMill.Sql
