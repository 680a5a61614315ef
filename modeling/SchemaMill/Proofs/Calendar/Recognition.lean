import Mathlib
import SchemaMill.Proofs.Calendar.Years
import SchemaMill.Proofs.Charset.Lowering
import SchemaMill.Proofs.Decimal.Integers
import SchemaMill.Value.Evidence

/-!
# Which numbers are read as dates

A day or a month of a layout takes two digits if it can, and a single digit never helps, since what
stands behind it in the layout is no digit (`readLayout_number`). So of all layouts only the first
two fit a text of two, two and four digits with slashes between them (`readLayout_slashed_eq_nil`),
and none fits a text of four, two and two digits with hyphens (`readLayout_dashed_eq_nil`), which is
in the form of ISO 8601. What is left is whether the numbers are a day of the calendar, and
`Date.isValid_iff_isDay` says this in the words of the calendar. The main result is
`isDate_dashed_and_slashed`.
-/

namespace SchemaMill

/-! ### Digits -/

/-- A given number of ASCII digits. -/
structure Digits (width : Nat) where
  chars : Text
  length : chars.length = width
  isDigit : ∀ c ∈ chars, c.isDigit

/-- The number that digits spell. -/
def Digits.value {width : Nat} (ds : Digits width) : Nat := digitsValue ds.chars

theorem Digits.two (ds : Digits 2) :
    ∃ a b, ds.chars = [a, b] ∧ a.isDigit ∧ b.isDigit := by
  obtain ⟨chars, hlength, hdigits⟩ := ds
  obtain ⟨a, b, rfl⟩ := List.length_eq_two.mp hlength
  exact ⟨a, b, rfl, hdigits a (by simp), hdigits b (by simp)⟩

theorem Digits.four (ds : Digits 4) :
    ∃ a b c d, ds.chars = [a, b, c, d] ∧ a.isDigit ∧ b.isDigit ∧ c.isDigit ∧ d.isDigit := by
  obtain ⟨chars, hlength, hdigits⟩ := ds
  obtain ⟨a, b, c, d, rfl⟩ := List.length_eq_four.mp hlength
  exact ⟨a, b, c, d, rfl, hdigits a (by simp), hdigits b (by simp), hdigits c (by simp),
    hdigits d (by simp)⟩

/-- Year, month and day with hyphens between them. -/
def dashed (year : Digits 4) (month day : Digits 2) : Text :=
  year.chars ++ '-' :: (month.chars ++ '-' :: day.chars)

/-- Two numbers of two digits and a year, with slashes between them. -/
def slashed (first second : Digits 2) (year : Digits 4) : Text :=
  first.chars ++ '/' :: (second.chars ++ '/' :: year.chars)

/-! ### Days of the calendar -/

/-- The days of the Gregorian calendar from year 1 to year 9999: four months have 30 days, February
has 28 or in leap years 29, and the others have 31. Every fourth year is a leap year, but of the
full centuries only every fourth one. -/
structure IsDay (year month day : Nat) : Prop where
  years : 1 ≤ year ∧ year ≤ 9999
  months : 1 ≤ month ∧ month ≤ 12
  days : 1 ≤ day ∧ day ≤ 31
  short : month ∈ [4, 6, 9, 11] → day ≤ 30
  february : month = 2 → day ≤ 29
  leap : month = 2 → day = 29 → 4 ∣ year ∧ (100 ∣ year → 400 ∣ year)

theorem isLeapYear_iff {year : Nat} :
    isLeapYear year = true ↔ 4 ∣ year ∧ (100 ∣ year → 400 ∣ year) := by
  simp only [isLeapYear, Bool.and_eq_true, Bool.or_eq_true, beq_iff_eq, bne_iff_ne,
    Nat.dvd_iff_mod_eq_zero, imp_iff_not_or]

theorem le_daysInMonth_iff {year month day : Nat} (h : 1 ≤ month) (h' : month ≤ 12) :
    day ≤ daysInMonth year month ↔ day ≤ 31 ∧ (month ∈ [4, 6, 9, 11] → day ≤ 30) ∧
      (month = 2 → day ≤ 29) ∧ (month = 2 → day = 29 → isLeapYear year = true) := by
  unfold daysInMonth
  interval_cases month <;> cases isLeapYear year <;> simp <;> omega

theorem Date.isValid_iff_isDay {year month day : Nat} :
    (⟨year, month, day⟩ : Date).isValid = true ↔ IsDay year month day := by
  rw [Date.isValid_iff]
  constructor
  · rintro ⟨hyear, hyear', hmonth, hmonth', hday, hday'⟩
    obtain ⟨hlong, hshort, hfebruary, hleap⟩ := (le_daysInMonth_iff hmonth hmonth').mp hday'
    exact ⟨⟨hyear, hyear'⟩, ⟨hmonth, hmonth'⟩, ⟨hday, hlong⟩, hshort, hfebruary,
      fun hm hd => isLeapYear_iff.mp (hleap hm hd)⟩
  · rintro ⟨hyear, hmonth, hday, hshort, hfebruary, hleap⟩
    refine ⟨hyear.1, hyear.2, hmonth.1, hmonth.2, hday.1,
      (le_daysInMonth_iff hmonth.1 hmonth.2).mpr ⟨hday.2, hshort, hfebruary, fun hm hd => ?_⟩⟩
    exact isLeapYear_iff.mpr (hleap hm hd)

instance (year month day : Nat) : Decidable (IsDay year month day) :=
  decidable_of_iff _ Date.isValid_iff_isDay

/-- The start of a day. -/
def midnight (year month day : Nat) : Moment := ⟨⟨year, month, day⟩, 0, 0, 0, 0, none⟩

theorem isValid_midnight_iff {year month day : Nat} :
    (midnight year month day).isValid = true ↔ IsDay year month day := by
  rw [← Date.isValid_iff_isDay]
  simp [midnight, Moment.isValid]

/-! ### Numbers in layouts -/

section Layouts

open Directive

variable {d e : Directive} {ds : List Directive} {a b c : Char} {t : Text} {m : Moment}
  {limit limit' : Nat}

/-- A directive that reads a number up to a limit: in two digits, or in fewer, which leaves the
second digit. -/
def ReadsUpTo (d : Directive) (limit : Nat) : Prop :=
  ∀ (a b : Char) (t : Text), a.isDigit → b.isDigit → ∃ shorter : List (Nat × Text),
    d.read (a :: b :: t) =
      (if 1 ≤ digitsValue [a, b] ∧ digitsValue [a, b] ≤ limit then [(digitsValue [a, b], t)]
        else []) ++ shorter ∧
    ∀ r ∈ shorter, r.2 = b :: t

/-- A directive that reads nothing where a digit stands. -/
def ReadsNoDigit (e : Directive) : Prop := ∀ (c : Char) (t : Text), c.isDigit → e.read (c :: t) = []

theorem ite_append_ite {α : Type} {x : α} {p q : Prop} [Decidable p] [Decidable q] (h : p → ¬q) :
    (if p then [x] else []) ++ (if q then [x] else []) = if p ∨ q then [x] else [] := by
  by_cases hp : p
  · simp [hp, h hp]
  · simp [hp]

theorem oneDigit_rest (t : Text) : ∀ r ∈ oneDigit (a :: t), r.2 = t := by
  intro r hr
  simp only [oneDigit] at hr
  split at hr
  · rw [List.mem_singleton.mp hr]
  · exact absurd hr List.not_mem_nil

theorem readsUpTo_day : ReadsUpTo day 31 := by
  intro a b t ha hb
  -- each pattern for two digits takes a range of values, and the ranges follow on one another
  have hall : ∀ a ∈ ['0', '1', '2', '3', '4', '5', '6', '7', '8', '9'],
      ∀ b ∈ ['0', '1', '2', '3', '4', '5', '6', '7', '8', '9'],
      (a == '3' && "01".toList.contains b) =
        decide (30 ≤ digitsValue [a, b] ∧ digitsValue [a, b] ≤ 31) ∧
      ("12".toList.contains a && isDecimalDigit b) =
        decide (10 ≤ digitsValue [a, b] ∧ digitsValue [a, b] ≤ 29) ∧
      (a == '0' && "123456789".toList.contains b) =
        decide (1 ≤ digitsValue [a, b] ∧ digitsValue [a, b] ≤ 9) := by decide +kernel
  obtain ⟨hthirty, hten, hone⟩ := hall a (mem_of_isDigit ha) b (mem_of_isDigit hb)
  refine ⟨oneDigit (a :: b :: t), ?_, oneDigit_rest (b :: t)⟩
  have hblank : ∀ rest, a :: b :: t = ' ' :: rest → False := by
    rintro rest heq
    obtain rfl := (List.cons.inj heq).1
    exact absurd ha (by decide)
  rw [Directive.read, List.append_nil]
  on_goal 2 => exact hblank
  simp only [pair, twoDigits, hthirty, hten, hone, decide_eq_true_eq]
  rw [ite_append_ite (by omega), ite_append_ite (by omega)]
  exact congrArg (· ++ _) (if_congr (by omega) rfl rfl)

theorem readsUpTo_month : ReadsUpTo month 12 := by
  intro a b t ha hb
  have hall : ∀ a ∈ ['0', '1', '2', '3', '4', '5', '6', '7', '8', '9'],
      ∀ b ∈ ['0', '1', '2', '3', '4', '5', '6', '7', '8', '9'],
      (a == '1' && "012".toList.contains b) =
        decide (10 ≤ digitsValue [a, b] ∧ digitsValue [a, b] ≤ 12) ∧
      (a == '0' && "123456789".toList.contains b) =
        decide (1 ≤ digitsValue [a, b] ∧ digitsValue [a, b] ≤ 9) := by decide +kernel
  obtain ⟨hten, hone⟩ := hall a (mem_of_isDigit ha) b (mem_of_isDigit hb)
  refine ⟨oneDigit (a :: b :: t), ?_, oneDigit_rest (b :: t)⟩
  rw [Directive.read]
  simp only [pair, hten, hone, decide_eq_true_eq]
  rw [ite_append_ite (by omega)]
  exact congrArg (· ++ _) (if_congr (by omega) rfl rfl)

theorem readsNoDigit_sign (hc : c.isDigit = false) : ReadsNoDigit (sign c) := by
  intro a t ha
  have hne : a ≠ c := by
    rintro rfl
    exact absurd ha (by simp [hc])
  simp [Directive.read, hne]

theorem read_blanks (h : ∀ c ∈ t.head?, isBlank c = false) : blanks.read t = [] := by
  cases t with
  | nil => rfl
  | cons c t => simp [Directive.read, blankRuns, h c rfl]

theorem readsNoDigit_blanks : ReadsNoDigit blanks := fun c t hc =>
  read_blanks (t := c :: t) fun c' hc' => by
    obtain rfl := Option.some.inj hc'
    exact isBlank_of_isDigit hc

/-- A number at the start of a layout takes both digits of two: what is behind it in the layout does
not begin with the second digit. -/
theorem readLayout_number (hd : ReadsUpTo d limit) (he : ReadsNoDigit e) (ha : a.isDigit)
    (hb : b.isDigit) :
    readLayout m (d :: e :: ds) (a :: b :: t) =
      if 1 ≤ digitsValue [a, b] ∧ digitsValue [a, b] ≤ limit then
        readLayout (d.note m (digitsValue [a, b])) (e :: ds) t
      else [] := by
  obtain ⟨shorter, hread, hshorter⟩ := hd a b t ha hb
  have hnone : ∀ r ∈ shorter, readLayout (d.note m r.1) (e :: ds) r.2 = [] := by
    intro r hr
    rw [hshorter r hr, readLayout, he b t hb]
    rfl
  rw [readLayout, hread, List.flatMap_append]
  refine (congrArg (_ ++ ·) (List.flatMap_eq_nil_iff.mpr hnone)).trans ?_
  rw [List.append_nil]
  split
  · exact List.append_nil _
  · rfl

theorem readLayout_sign (c : Char) :
    readLayout m (sign c :: ds) (c :: t) = readLayout m ds t := by
  simp [readLayout, Directive.read, Directive.note]

theorem readLayout_eq_nil (h : d.read t = []) : readLayout m (d :: ds) t = [] := by
  rw [readLayout, h]
  rfl

theorem nameOf_eq_nil {names : List String}
    (hnames : ∀ n ∈ names, n.toList.head?.any (fun c => !c.isDigit) = true) (ha : a.isDigit) :
    nameOf names (a :: t) = [] := by
  have hlower : ∀ a ∈ ['0', '1', '2', '3', '4', '5', '6', '7', '8', '9'], a.toLower = a := by
    decide
  refine List.filterMap_eq_nil_iff.mpr fun ⟨n, place⟩ hmem => ?_
  obtain ⟨c, hc, hletter⟩ := (Option.any_eq_true _ _).mp
    (hnames n (List.fst_mem_of_mem_zipIdx hmem))
  obtain ⟨rest, hn⟩ := List.head?_eq_some_iff.mp hc
  have hlength : n.length = rest.length + 1 := by rw [← String.length_toList, hn, List.length_cons]
  simp only [hlength, hn, List.take_succ_cons, List.map_cons, hlower a (mem_of_isDigit ha),
    beq_iff_eq, List.cons.injEq, ite_eq_right_iff]
  rintro ⟨rfl, -⟩
  simp [ha] at hletter

theorem readsNoDigit_monthShort : ReadsNoDigit monthShort := fun _ _ hc =>
  nameOf_eq_nil (by decide) hc

theorem readsNoDigit_monthName : ReadsNoDigit monthName := fun _ _ hc =>
  nameOf_eq_nil (by decide) hc

theorem read_year (y : Digits 4) (t : Text) : year.read (y.chars ++ t) = [(y.value, t)] := by
  have hdigits : y.chars.all isDecimalDigit = true :=
    List.all_eq_true.mpr fun c hc => isDecimalDigit_of_isDigit (y.isDigit c hc)
  simp only [Directive.read, List.take_left' y.length, List.drop_left' y.length, y.length, hdigits,
    beq_self_eq_true, Bool.and_self, if_true]
  rfl

/-! ### Slashes -/

theorem readLayout_digits (hd : ReadsUpTo d limit) (he : ReadsNoDigit e) (n : Digits 2) :
    readLayout m (d :: e :: ds) (n.chars ++ t) =
      if 1 ≤ n.value ∧ n.value ≤ limit then readLayout (d.note m n.value) (e :: ds) t else [] := by
  obtain ⟨a, b, hchars, ha, hb⟩ := n.two
  rw [Digits.value, hchars]
  exact readLayout_number hd he ha hb

theorem readLayout_digits_eq_nil (hd : ReadsUpTo d limit) (he : ReadsNoDigit e) (n : Digits 2)
    (ht : e.read t = []) : readLayout m (d :: e :: ds) (n.chars ++ t) = [] := by
  rw [readLayout_digits hd he, readLayout_eq_nil ht, ite_self]

variable {x z : Digits 2} {y : Digits 4}

theorem readLayout_slashed (hd : ReadsUpTo d limit) (he : ReadsUpTo e limit') :
    readLayout m (d :: sign '/' :: e :: sign '/' :: year :: ds) (slashed x z y) =
      if (1 ≤ x.value ∧ x.value ≤ limit) ∧ 1 ≤ z.value ∧ z.value ≤ limit' then
        readLayout (year.note (e.note (d.note m x.value) z.value) y.value) ds []
      else [] := by
  have hyear : ∀ m, readLayout m (year :: ds) y.chars =
      readLayout (year.note m y.value) ds [] := by
    intro m
    have hread := read_year y []
    rw [List.append_nil] at hread
    rw [readLayout, hread]
    exact List.append_nil _
  have hsign : ReadsNoDigit (sign '/') := readsNoDigit_sign (by decide)
  rw [slashed, readLayout_digits hd hsign, readLayout_sign, readLayout_digits he hsign,
    readLayout_sign, hyear]
  exact (ite_and ..).symm

theorem readLayout_year_slashed : readLayout m (year :: ds) (slashed x z y) = [] := by
  obtain ⟨a, b, hx, -, -⟩ := x.two
  obtain ⟨c, c', hz, -, -⟩ := z.two
  have hslash : isDecimalDigit '/' = false := by decide
  refine readLayout_eq_nil ?_
  simp [Directive.read, slashed, hx, hz, hslash]

/-- Behind the two layouts of day, month and year with slashes, no layout fits a text of numbers
with slashes. -/
theorem readLayout_slashed_eq_nil :
    ∀ layout ∈ layouts.drop 2, readLayout m layout (slashed x z y) = [] := by
  have hslash : ∀ (c : Char) (t : Text), '/' ≠ c → (sign c).read ('/' :: t) = [] := by
    intro c t hc
    simp [Directive.read, hc]
  have hblanks : ∀ t, blanks.read ('/' :: t) = [] := fun t => rfl
  have htime : ∀ (m : Moment) (ds : List Directive), readLayout m (blanks :: ds) [] = [] :=
    fun _ _ => readLayout_eq_nil rfl
  obtain ⟨a, b, hx, ha, -⟩ := x.two
  have hdigit : slashed x z y = a :: b :: '/' :: (z.chars ++ '/' :: y.chars) := by
    rw [slashed, hx]
    rfl
  simp only [layouts, List.drop_succ_cons, List.drop_zero, List.cons_append, List.nil_append,
    List.forall_mem_cons, List.not_mem_nil, false_implies, implies_true, and_true]
  refine ⟨?_, readLayout_year_slashed, ?_, ?_, ?_, readLayout_year_slashed, ?_, ?_, ?_, ?_⟩
  · exact readLayout_digits_eq_nil readsUpTo_day (readsNoDigit_sign (by decide)) x
      (hslash _ _ (by decide))
  · exact readLayout_digits_eq_nil readsUpTo_day (readsNoDigit_sign (by decide)) x
      (hslash _ _ (by decide))
  · rw [readLayout_slashed readsUpTo_day readsUpTo_month, htime, ite_self]
  · rw [readLayout_slashed readsUpTo_month readsUpTo_day, htime, ite_self]
  · exact readLayout_digits_eq_nil readsUpTo_day readsNoDigit_blanks x (hblanks _)
  · rw [hdigit]
    exact readLayout_eq_nil (readsNoDigit_monthShort _ _ ha)
  · rw [hdigit]
    exact readLayout_eq_nil (readsNoDigit_monthName _ _ ha)
  · exact readLayout_digits_eq_nil readsUpTo_day readsNoDigit_blanks x (hblanks _)

/-! ### Hyphens -/

theorem readLayout_three_digits (hd : ReadsUpTo d limit) (he : ReadsNoDigit e) (ha : a.isDigit)
    (hb : b.isDigit) (hc : c.isDigit) : readLayout m (d :: e :: ds) (a :: b :: c :: t) = [] := by
  rw [readLayout_number hd he ha hb, readLayout_eq_nil (he c t hc), ite_self]

/-- No layout fits a text of numbers with hyphens that begins with a year. -/
theorem readLayout_dashed_eq_nil : ∀ layout ∈ layouts, readLayout m layout (dashed y x z) = [] := by
  obtain ⟨a, b, c, d, hy, ha, hb, hc, hd⟩ := y.four
  have hdigits : dashed y x z = a :: b :: c :: d :: '-' :: (x.chars ++ '-' :: z.chars) := by
    rw [dashed, hy]
    rfl
  have hyear : ∀ ds, readLayout m (year :: sign '/' :: ds) (dashed y x z) = [] := by
    intro ds
    rw [readLayout, dashed, read_year]
    simp [readLayout, Directive.read]
  have hday : ∀ e ds, ReadsNoDigit e → readLayout m (day :: e :: ds) (dashed y x z) = [] := by
    intro e ds he
    rw [hdigits]
    exact readLayout_three_digits readsUpTo_day he ha hb hc
  have hmonth : ∀ e ds, ReadsNoDigit e → readLayout m (month :: e :: ds) (dashed y x z) = [] := by
    intro e ds he
    rw [hdigits]
    exact readLayout_three_digits readsUpTo_month he ha hb hc
  have hslash : ReadsNoDigit (sign '/') := readsNoDigit_sign (by decide)
  simp only [layouts, List.cons_append, List.nil_append, List.forall_mem_cons, List.not_mem_nil,
    false_implies, implies_true, and_true]
  refine ⟨hday _ _ hslash, hmonth _ _ hslash, hday _ _ (readsNoDigit_sign (by decide)), hyear _,
    hday _ _ (readsNoDigit_sign (by decide)), hday _ _ hslash, hmonth _ _ hslash, hyear _,
    hday _ _ readsNoDigit_blanks, ?_, ?_, hday _ _ readsNoDigit_blanks⟩
  · rw [hdigits]
    exact readLayout_eq_nil (readsNoDigit_monthShort _ _ ha)
  · rw [hdigits]
    exact readLayout_eq_nil (readsNoDigit_monthName _ _ ha)

end Layouts

/-! ### The form of ISO 8601 -/

namespace Iso

variable {year : Digits 4} {month day first second : Digits 2}

theorem takeDigits_append {width : Nat} (ds : Digits width) (t : Text) :
    takeDigits width (ds.chars ++ t) = some (ds.value, t) := by
  have hdigits : ds.chars.all Char.isDigit = true := List.all_eq_true.mpr ds.isDigit
  simp only [takeDigits, List.take_left' ds.length, List.drop_left' ds.length, ds.length, hdigits,
    beq_self_eq_true, Bool.and_self, if_true]
  rfl

theorem peek_digits (ds : Digits 2) (t : Text) : (peek (ds.chars ++ t) == 'W') = false := by
  obtain ⟨a, b, hchars, ha, -⟩ := ds.two
  rw [hchars, beq_eq_false_iff_ne]
  rintro rfl
  exact absurd ha (by decide)

theorem readDate?_dashed : readDate? (dashed year month day) 10 =
    some ⟨year.value, month.value, day.value⟩ := by
  have hday : takeDigits 2 day.chars = some (day.value, []) := by
    simpa using takeDigits_append day []
  have hhyphen : ∀ t, (peek ('-' :: t) == '-') = true := fun _ => rfl
  have hmonth : ∀ t : Text, takeDigits 2 (month.chars ++ t) = some (month.value, t) :=
    takeDigits_append month
  unfold readDate?
  rw [dashed, takeDigits_append]
  simp only [bind, Option.bind_some, hhyphen, if_true, List.drop_succ_cons, List.drop_zero,
    peek_digits, Bool.false_eq_true, if_false, hmonth, hday]
  rfl

theorem dateLength_dashed : dateLength (dashed year month day) = 10 := by
  obtain ⟨a, b, c, d, hyear, -⟩ := year.four
  obtain ⟨e, f, hmonth, he, -⟩ := month.two
  obtain ⟨g, h, hday, -, -⟩ := day.two
  have hweek : e ≠ 'W' := by
    rintro rfl
    exact absurd he (by decide)
  simp [dateLength, dashed, hyear, hmonth, hday, hweek]

theorem readMoment?_slashed : Iso.readMoment? (slashed first second year) = none := by
  obtain ⟨a, b, hfirst, -, -⟩ := first.two
  obtain ⟨c, d, hsecond, -, -⟩ := second.two
  have hslash : takeDigits 4 (slashed first second year) = none := by
    have hno : Char.isDigit '/' = false := by decide
    simp [takeDigits, slashed, hfirst, hsecond, hno]
  have hdate : ∀ length, readDate? (slashed first second year) length = none := by
    intro length
    rw [readDate?, hslash]
    rfl
  simp only [Iso.readMoment?, hdate]
  split <;> rfl

theorem readMoment?_dashed : Iso.readMoment? (dashed year month day) =
    if IsDay year.value month.value day.value then
      some (SchemaMill.midnight year.value month.value day.value) else none := by
  have hlength : (dashed year month day).length = 10 := by
    simp [dashed, year.length, month.length, day.length]
  have hdrop : (dashed year month day).drop 10 = [] := List.drop_eq_nil_of_le (by omega)
  simp only [Iso.readMoment?, hlength, dateLength_dashed, readDate?_dashed, hdrop, bind,
    Option.bind_some]
  rw [if_neg (by decide)]
  exact if_congr isValid_midnight_iff rfl rfl

end Iso

/-! ### Dates -/

section Dates

variable {year : Digits 4} {month day first second : Digits 2} {layout : List Directive} {t : Text}

theorem readWith?_eq_none (h : ∀ m, readLayout m layout t = []) : readWith? layout t = none := by
  rw [readWith?, h]

/-- A layout that fits the numbers of every day at least gives the days, since what it fits else is
no moment. -/
theorem readWith?_eq_ite {y mo d : Nat} {p : Prop} [Decidable p] (hp : IsDay y mo d → p)
    (hread : readLayout ⟨⟨1, 1, 1⟩, 0, 0, 0, 0, none⟩ layout t =
      if p then [(midnight y mo d, [])] else []) :
    readWith? layout t = if IsDay y mo d then some (midnight y mo d) else none := by
  rw [readWith?, hread]
  by_cases hday : IsDay y mo d
  · rw [if_pos hday, if_pos (hp hday)]
    exact if_pos (isValid_midnight_iff.mpr hday)
  · rw [if_neg hday]
    split
    · next heq =>
      split at heq
      · obtain ⟨rfl, -⟩ := Prod.mk.inj (List.cons.inj heq).1
        exact if_neg (mt isValid_midnight_iff.mp hday)
      · cases heq
    · rfl

theorem layouts_eq : layouts = [.day, .sign '/', .month, .sign '/', .year] ::
    [.month, .sign '/', .day, .sign '/', .year] :: layouts.drop 2 := rfl

theorem readWith?_slashed (first second : Digits 2) (year : Digits 4) :
    readWith? [.day, .sign '/', .month, .sign '/', .year] (slashed first second year) =
      (if IsDay year.value second.value first.value then
        some (midnight year.value second.value first.value) else none) ∧
    readWith? [.month, .sign '/', .day, .sign '/', .year] (slashed first second year) =
      if IsDay year.value first.value second.value then
        some (midnight year.value first.value second.value) else none := by
  constructor
  · exact readWith?_eq_ite (fun h => ⟨h.days, h.months⟩)
      (readLayout_slashed readsUpTo_day readsUpTo_month)
  · exact readWith?_eq_ite (fun h => ⟨h.months, h.days⟩)
      (readLayout_slashed readsUpTo_month readsUpTo_day)

/-- A layout that fits numbers with slashes gives a day with the first or the second number as the
day of the month. -/
theorem readWith?_slashed_cases {m : Moment} (hlayout : layout ∈ layouts)
    (h : readWith? layout (slashed first second year) = some m) :
    (IsDay year.value second.value first.value ∧
      m = midnight year.value second.value first.value) ∨
    (IsDay year.value first.value second.value ∧
      m = midnight year.value first.value second.value) := by
  obtain ⟨hdayFirst, hmonthFirst⟩ := readWith?_slashed first second year
  rw [layouts_eq, List.mem_cons, List.mem_cons] at hlayout
  obtain rfl | rfl | hother := hlayout
  · rw [hdayFirst, Option.ite_none_right_eq_some] at h
    exact .inl ⟨h.1, (Option.some.inj h.2).symm⟩
  · rw [hmonthFirst, Option.ite_none_right_eq_some] at h
    exact .inr ⟨h.1, (Option.some.inj h.2).symm⟩
  · rw [readWith?_eq_none fun _ => readLayout_slashed_eq_nil layout hother] at h
    cases h

theorem readMoment?_slashed (first second : Digits 2) (year : Digits 4) :
    readMoment? (slashed first second year) =
      if IsDay year.value second.value first.value then
        some (midnight year.value second.value first.value)
      else if IsDay year.value first.value second.value then
        some (midnight year.value first.value second.value)
      else none := by
  obtain ⟨hdayFirst, hmonthFirst⟩ := readWith?_slashed first second year
  have hothers : (layouts.drop 2).findSome? (readWith? · (slashed first second year)) = none :=
    List.findSome?_eq_none_iff.mpr fun layout hlayout =>
      readWith?_eq_none fun _ => readLayout_slashed_eq_nil layout hlayout
  rw [readMoment?, Iso.readMoment?_slashed, layouts_eq]
  dsimp only
  rw [List.findSome?_cons, List.findSome?_cons, hdayFirst, hmonthFirst, hothers]
  by_cases hd : IsDay year.value second.value first.value
  · rw [if_pos hd, if_pos hd]
  · by_cases hm : IsDay year.value first.value second.value
    · rw [if_neg hd, if_neg hd, if_pos hm]
    · rw [if_neg hd, if_neg hd, if_neg hm]

theorem readMoment?_dashed (year : Digits 4) (month day : Digits 2) :
    readMoment? (dashed year month day) = if IsDay year.value month.value day.value then
      some (midnight year.value month.value day.value) else none := by
  have hlayouts : layouts.findSome? (readWith? · (dashed year month day)) = none :=
    List.findSome?_eq_none_iff.mpr fun layout hlayout =>
      readWith?_eq_none fun _ => readLayout_dashed_eq_nil layout hlayout
  rw [readMoment?, Iso.readMoment?_dashed, hlayouts]
  by_cases hday : IsDay year.value month.value day.value
  · rw [if_pos hday]
  · rw [if_neg hday]

/-! ### Dates and numbers -/

variable {n rest : Text} {c : Char}

theorem plain_of_isDigit_or_mem (h : c.isDigit ∨ c ∈ ['-', '/']) :
    c.toNat < 128 ∧ isAsciiBlank c = false ∧ isBlank c = false := by
  obtain h | h := h
  · obtain ⟨hlow, hhigh⟩ := toNat_of_isDigit h
    have hspace : c ≠ ' ' := by
      rintro rfl
      exact absurd hlow (by decide)
    refine ⟨by omega, ?_, isBlank_of_isDigit h⟩
    simp [isAsciiBlank, hspace]
    omega
  · have hall : ∀ c ∈ ['-', '/'], c.toNat < 128 ∧ isAsciiBlank c = false ∧ isBlank c = false := by
      decide
    exact hall c h

theorem readNumber?_eq_none (hn : ∀ d ∈ n, d.isDigit) (hne : n ≠ []) (hc : c ∈ ['-', '/'])
    (hplain : ∀ d ∈ n ++ c :: rest, d.isDigit ∨ d ∈ ['-', '/']) :
    readNumber? (n ++ c :: rest) = none := by
  obtain ⟨hdigit, hpoint, hpower⟩ :
      c.isDigit = false ∧ c ≠ '.' ∧ readPower? (c :: rest) = none := by
    have hall : ∀ c ∈ ['-', '/'], c.isDigit = false ∧ c ≠ '.' ∧ (c == 'e' || c == 'E') = false := by
      decide
    obtain ⟨hdigit, hpoint, hpower⟩ := hall c hc
    exact ⟨hdigit, hpoint, by simp [readPower?, hpower]⟩
  have hsign : readSign (n ++ c :: rest) = (false, n ++ c :: rest) := by
    obtain ⟨d, n, rfl⟩ := List.exists_cons_of_ne_nil hne
    exact readSign_of_isDigit (hn d List.mem_cons_self)
  have htake : (n ++ c :: rest).takeWhile Char.isDigit = n := by
    rw [List.takeWhile_append_of_pos hn, List.takeWhile_cons_of_neg (by simp [hdigit]),
      List.append_nil]
  have hdrop : (n ++ c :: rest).dropWhile Char.isDigit = c :: rest := by
    rw [List.dropWhile_append_of_pos hn, List.dropWhile_cons_of_neg (by simp [hdigit])]
  have hnumeral : readNumeral? (n ++ c :: rest) = none := by
    simp [readNumeral?, hsign, htake, hdrop, hpoint, hpower, hne]
  rw [readNumber?, asciiNumeral?_eq_some fun d hd => (plain_of_isDigit_or_mem (hplain d hd)).1,
    Option.bind_eq_bind, Option.bind_some,
    trimAscii_eq_self fun d hd => (plain_of_isDigit_or_mem (hplain d hd)).2.1, hnumeral]
  rfl

/-- A text that begins like a date of numbers is a date if and only if it spells a moment. -/
theorem spellsDate_of_beginsLikeDate (hn : ∀ d ∈ n, d.isDigit) (hne : n ≠ []) (hc : c ∈ ['-', '/'])
    (hrest : ∀ d ∈ rest, d.isDigit ∨ d ∈ ['-', '/'])
    (hbegins : Value.beginsLikeDate (n ++ c :: rest) = true) :
    Value.spellsDate (n ++ c :: rest) = (readMoment? (n ++ c :: rest)).isSome := by
  have hplain : ∀ d ∈ n ++ c :: rest, d.isDigit ∨ d ∈ ['-', '/'] := by
    rw [List.forall_mem_append, List.forall_mem_cons]
    exact ⟨fun d hd => .inl (hn d hd), .inr hc, hrest⟩
  have htrim : trim (n ++ c :: rest) = n ++ c :: rest :=
    trim_of_trimmed (trimmed_of_forall fun d hd => (plain_of_isDigit_or_mem (hplain d hd)).2.2)
  simp [Value.spellsDate, htrim, readNumber?_eq_none hn hne hc hplain, hbegins]

theorem isDate_dashed (year : Digits 4) (month day : Digits 2) :
    (Value.text (dashed year month day)).isDate = true ↔
      IsDay year.value month.value day.value := by
  have hbegins : Value.beginsLikeDate (dashed year month day) = true := by
    obtain ⟨a, b, c, d, hyear, ha, hb, hc, hd⟩ := year.four
    obtain ⟨e, f, hmonth, he, hf⟩ := month.two
    obtain ⟨g, h, hday, hg, -⟩ := day.two
    have hhyphen : isDecimalDigit '-' = false := by decide
    simp [Value.beginsLikeDate, dashed, hyear, hmonth, hday, isDecimalDigit_of_isDigit, hhyphen,
      ha, hb, hc, hd, he, hf, hg]
  have hrest : ∀ d ∈ month.chars ++ '-' :: day.chars, d.isDigit ∨ d ∈ ['-', '/'] := by
    rw [List.forall_mem_append, List.forall_mem_cons]
    exact ⟨fun d hd => .inl (month.isDigit d hd), .inr (by decide),
      fun d hd => .inl (day.isDigit d hd)⟩
  have hyear : year.chars ≠ [] := List.ne_nil_of_length_pos (by simp [year.length])
  have hspells : Value.spellsDate (dashed year month day) =
      (readMoment? (dashed year month day)).isSome :=
    spellsDate_of_beginsLikeDate year.isDigit hyear (by decide) hrest hbegins
  rw [Value.isDate, hspells, readMoment?_dashed]
  split <;> simp [*]

theorem isDate_slashed (first second : Digits 2) (year : Digits 4) :
    (Value.text (slashed first second year)).isDate = true ↔
      IsDay year.value second.value first.value ∨ IsDay year.value first.value second.value := by
  have hbegins : Value.beginsLikeDate (slashed first second year) = true := by
    obtain ⟨a, b, hfirst, ha, hb⟩ := first.two
    obtain ⟨c, d, hsecond, hc, hd⟩ := second.two
    obtain ⟨e, f, g, h, hyear, he, -⟩ := year.four
    have hslash : isDecimalDigit '/' = false := by decide
    simp [Value.beginsLikeDate, slashed, hfirst, hsecond, hyear, isDecimalDigit_of_isDigit, hslash,
      ha, hb, hc, hd, he]
  have hrest : ∀ d ∈ second.chars ++ '/' :: year.chars, d.isDigit ∨ d ∈ ['-', '/'] := by
    rw [List.forall_mem_append, List.forall_mem_cons]
    exact ⟨fun d hd => .inl (second.isDigit d hd), .inr (by decide),
      fun d hd => .inl (year.isDigit d hd)⟩
  have hfirst : first.chars ≠ [] := List.ne_nil_of_length_pos (by simp [first.length])
  have hspells : Value.spellsDate (slashed first second year) =
      (readMoment? (slashed first second year)).isSome :=
    spellsDate_of_beginsLikeDate first.isDigit hfirst (by decide) hrest hbegins
  rw [Value.isDate, hspells, readMoment?_slashed]
  split
  · simp [*]
  · split <;> simp [*]

/-- Exactly the days of the calendar are dates: year, month and day with hyphens between them, and
numbers with slashes of which the first or else the second is the day. Each spells the start of its
day, no layout fits numbers with hyphens, and a layout that fits numbers with slashes gives one of
the two days. -/
theorem isDate_dashed_and_slashed :
    (∀ (year : Digits 4) (month day : Digits 2),
      ((Value.text (dashed year month day)).isDate = true ↔
        IsDay year.value month.value day.value) ∧
      (readMoment? (dashed year month day) =
        if IsDay year.value month.value day.value then
          some (midnight year.value month.value day.value)
        else none) ∧
      ∀ layout ∈ layouts, readWith? layout (dashed year month day) = none) ∧
    ∀ (first second : Digits 2) (year : Digits 4),
      ((Value.text (slashed first second year)).isDate = true ↔
        IsDay year.value second.value first.value ∨ IsDay year.value first.value second.value) ∧
      (readMoment? (slashed first second year) =
        if IsDay year.value second.value first.value then
          some (midnight year.value second.value first.value)
        else if IsDay year.value first.value second.value then
          some (midnight year.value first.value second.value)
        else none) ∧
      Iso.readMoment? (slashed first second year) = none ∧
      ∀ layout ∈ layouts, ∀ m, readWith? layout (slashed first second year) = some m →
        (IsDay year.value second.value first.value ∧
          m = midnight year.value second.value first.value) ∨
        (IsDay year.value first.value second.value ∧
          m = midnight year.value first.value second.value) := by
  constructor
  · intro year month day
    exact ⟨isDate_dashed year month day, readMoment?_dashed year month day,
      fun layout hlayout => readWith?_eq_none fun _ => readLayout_dashed_eq_nil layout hlayout⟩
  · intro first second year
    exact ⟨isDate_slashed first second year, readMoment?_slashed first second year,
      Iso.readMoment?_slashed, fun layout hlayout m => readWith?_slashed_cases hlayout⟩

/-- There is a 29th of February in 2024 and none in 2023; of two small numbers the first is the
day. -/
theorem isDate_dashed_and_slashed_leapDay :
    (Value.text "2024-02-29".toList).isDate = true ∧
    (Value.text "2023-02-29".toList).isDate = false ∧
    readMoment? "03/04/2026".toList = some (midnight 2026 4 3) ∧
    readMoment? "03/30/2026".toList = some (midnight 2026 3 30) := by
  obtain ⟨hdashed, hslashed⟩ := isDate_dashed_and_slashed
  have hleap := (hdashed ⟨"2024".toList, rfl, by decide⟩ ⟨"02".toList, rfl, by decide⟩
    ⟨"29".toList, rfl, by decide⟩).1
  have hcommon := (hdashed ⟨"2023".toList, rfl, by decide⟩ ⟨"02".toList, rfl, by decide⟩
    ⟨"29".toList, rfl, by decide⟩).1
  have hsmall := (hslashed ⟨"03".toList, rfl, by decide⟩ ⟨"04".toList, rfl, by decide⟩
    ⟨"2026".toList, rfl, by decide⟩).2.1
  have hlarge := (hslashed ⟨"03".toList, rfl, by decide⟩ ⟨"30".toList, rfl, by decide⟩
    ⟨"2026".toList, rfl, by decide⟩).2.1
  refine ⟨hleap.mpr (by decide), ?_, ?_, ?_⟩
  · exact Bool.eq_false_iff.mpr fun h => absurd (hcommon.mp h) (by decide)
  · exact hsmall.trans (if_pos (by decide))
  · exact hlarge.trans ((if_neg (by decide)).trans (if_pos (by decide)))

end Dates

end SchemaMill
