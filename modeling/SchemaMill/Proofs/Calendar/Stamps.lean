import Mathlib
import SchemaMill.Conversion.Document
import SchemaMill.Proofs.Calendar.Years
import SchemaMill.Proofs.Text.Numerals

/-!
# The order of time stamps

A time stamp is a row of numerals of fixed widths with a sign behind each (`numerals`), so that the
texts are in the order of the rows of numbers (`numerals_append_lt_iff`). The numbers are those of
the moment in Coordinated Universal Time at the instant that is stamped (`Moment.of_ofInstant?`),
and these are in the order of the instants, a thousandth of a second at a time
(`Moment.IsUniversal.fields_lt_fields_iff`). In the name of a file other signs stand behind the
numerals, which does not matter for the order.
-/

namespace SchemaMill

/-! ### Numerals of one width -/

section Padded

variable {a a' b b' : Text} {w m n : Nat}

/-- Texts of one length decide before what follows them. -/
theorem append_lt_append_iff (h : a.length = a'.length) :
    a ++ b < a' ++ b' ↔ a < a' ∨ a = a' ∧ b < b' := by
  induction a generalizing a' with
  | nil =>
    obtain rfl := List.length_eq_zero_iff.mp h.symm
    simp
  | cons c a ih =>
    obtain ⟨c', a', rfl⟩ := List.exists_cons_of_length_eq_add_one h.symm
    have hlength : a.length = a'.length := Nat.succ.inj h
    rw [List.cons_append, List.cons_append, List.cons_lt_cons_iff, List.cons_lt_cons_iff,
      ih hlength, List.cons.injEq, and_or_left, or_assoc, and_assoc]

theorem digitsValue_decimalPadded (w n : Nat) : digitsValue (decimalPadded w n) = n := by
  have hzeros : ∀ k, digitsValue (List.replicate k '0' ++ decimal n) = digitsValue (decimal n) := by
    intro k
    induction k with
    | zero => rfl
    | succ k ih => exact ih
  rw [decimalPadded, hzeros, digitsValue_decimal]

theorem decimalPadded_inj : decimalPadded w m = decimalPadded w n ↔ m = n :=
  ⟨fun h => by rw [← digitsValue_decimalPadded w m, h, digitsValue_decimalPadded], congrArg _⟩

theorem decimalPadded_one (h : n < 10) : decimalPadded 1 n = [n.digitChar] := by
  rw [decimalPadded, decimal_of_lt h]
  rfl

/-- Behind the first digit each further one stands for a tenth of what is left. -/
theorem decimalPadded_succ (hw : 0 < w) :
    decimalPadded (w + 1) n = decimalPadded w (n / 10) ++ [(n % 10).digitChar] := by
  unfold decimalPadded
  rcases Nat.lt_or_ge n 10 with hn | hn
  · obtain ⟨v, rfl⟩ := Nat.exists_eq_add_of_le' hw
    rw [Nat.div_eq_of_lt hn, Nat.mod_eq_of_lt hn, decimal_of_lt hn, decimal_of_lt (by decide)]
    simp [List.replicate_succ']
  · rw [decimal_of_le hn, List.length_append, List.length_singleton, Nat.add_sub_add_right,
      List.append_assoc]

theorem length_decimalPadded (hw : 0 < w) (h : n < 10 ^ w) : (decimalPadded w n).length = w := by
  induction w, hw using Nat.le_induction generalizing n with
  | base => rw [decimalPadded_one (by simpa using h), List.length_singleton]
  | succ w hw ih =>
    rw [decimalPadded_succ hw, List.length_append, List.length_singleton, ih (by omega)]

theorem digitChar_lt_digitChar_iff (hm : m < 10) (hn : n < 10) :
    m.digitChar < n.digitChar ↔ m < n := by
  have hall : ∀ m < 10, ∀ n < 10, Nat.digitChar m < Nat.digitChar n ↔ m < n := by decide
  exact hall m hm n hn

theorem decimalPadded_lt_decimalPadded_iff (hw : 0 < w) (hm : m < 10 ^ w) (hn : n < 10 ^ w) :
    decimalPadded w m < decimalPadded w n ↔ m < n := by
  induction w, hw using Nat.le_induction generalizing m n with
  | base =>
    have hm' : m < 10 := by simpa using hm
    have hn' : n < 10 := by simpa using hn
    rw [decimalPadded_one hm', decimalPadded_one hn', List.cons_lt_cons_iff,
      digitChar_lt_digitChar_iff hm' hn']
    simp
  | succ w hw ih =>
    have hm' : m / 10 < 10 ^ w := by omega
    have hn' : n / 10 < 10 ^ w := by omega
    have hlength : (decimalPadded w (m / 10)).length = (decimalPadded w (n / 10)).length := by
      rw [length_decimalPadded hw hm', length_decimalPadded hw hn']
    rw [decimalPadded_succ hw, decimalPadded_succ hw, append_lt_append_iff hlength, ih hm' hn',
      decimalPadded_inj, List.cons_lt_cons_iff, digitChar_lt_digitChar_iff (by omega) (by omega)]
    simp only [List.not_lt_nil, and_false, or_false]
    omega

end Padded

/-! ### Rows of numerals -/

/-- A row of numerals of given widths, with a sign behind each of them. -/
def numerals : List (Nat × Char) → List Nat → Text
  | (w, c) :: layout, n :: ns => decimalPadded w n ++ c :: numerals layout ns
  | _, _ => []

/-- Numbers that can be written in the widths of a layout. -/
def Fits (layout : List (Nat × Char)) (ns : List Nat) : Prop :=
  List.Forall₂ (fun f n => 0 < f.1 ∧ n < 10 ^ f.1) layout ns

section Rows

variable {layout : List (Nat × Char)} {ns ns' : List Nat} {x x' : Text}

/-- Rows of one layout are in the order of their numbers, before what stands behind them. -/
theorem numerals_append_lt_iff (h : Fits layout ns) (h' : Fits layout ns') :
    numerals layout ns ++ x < numerals layout ns' ++ x' ↔ ns < ns' ∨ ns = ns' ∧ x < x' := by
  induction layout generalizing ns ns' with
  | nil =>
    cases h
    cases h'
    simp [numerals]
  | cons f layout ih =>
    obtain ⟨w, c⟩ := f
    obtain ⟨n, ns, ⟨hw, hn⟩, hns, rfl⟩ := List.forall₂_cons_left_iff.mp h
    obtain ⟨n', ns', ⟨-, hn'⟩, hns', rfl⟩ := List.forall₂_cons_left_iff.mp h'
    have hlength : (decimalPadded w n).length = (decimalPadded w n').length := by
      rw [length_decimalPadded hw hn, length_decimalPadded hw hn']
    rw [numerals, numerals, List.append_assoc, List.append_assoc, append_lt_append_iff hlength,
      decimalPadded_lt_decimalPadded_iff hw hn hn', decimalPadded_inj, List.cons_append,
      List.cons_append, List.cons_lt_cons_iff, ih hns hns', List.cons_lt_cons_iff, List.cons.injEq]
    simp [and_or_left, or_assoc, and_assoc]

theorem numerals_lt_iff (h : Fits layout ns) (h' : Fits layout ns') :
    numerals layout ns < numerals layout ns' ↔ ns < ns' := by
  have hnil : ns < ns' ∨ ns = ns' ∧ ([] : Text) < [] ↔ ns < ns' := by simp
  rw [← hnil, ← numerals_append_lt_iff h h', List.append_nil, List.append_nil]

theorem numerals_inj (h : Fits layout ns) (h' : Fits layout ns') :
    numerals layout ns = numerals layout ns' ↔ ns = ns' := by
  refine ⟨fun heq => ?_, congrArg _⟩
  rcases lt_trichotomy ns ns' with hlt | hns | hgt
  · exact absurd heq (ne_of_lt ((numerals_lt_iff h h').mpr hlt))
  · exact hns
  · exact absurd heq (ne_of_gt ((numerals_lt_iff h' h).mpr hgt))

theorem map_numerals {f : Char → Char} (hf : ∀ c, c.isDigit → f c = c) :
    (numerals layout ns).map f = numerals (layout.map fun (w, c) => (w, f c)) ns := by
  have hdigits : ∀ w n, (decimalPadded w n).map f = decimalPadded w n := by
    intro w n
    refine (List.map_congr_left fun c hc => hf c ?_).trans (List.map_id _)
    rcases List.mem_append.mp hc with hc | hc
    · rw [(List.mem_replicate.mp hc).2]
      rfl
    · exact isDigit_of_mem_decimal hc
  induction layout generalizing ns with
  | nil => rfl
  | cons g layout ih =>
    cases ns with
    | nil => rfl
    | cons n ns =>
      show (decimalPadded g.1 n ++ g.2 :: numerals layout ns).map f = _
      rw [List.map_append, List.map_cons, hdigits, ih]
      rfl

end Rows

/-! ### Moments in Coordinated Universal Time -/

namespace Moment

variable {u u' m m' : Moment} {i : Int}

/-- The instant of a moment lies in the years 1 to 9999. -/
def InCalendar (m : Moment) : Prop :=
  0 ≤ m.instant ∧ m.instant < (daysBeforeYear 10000 * microsecondsPerDay : Nat)

instance (m : Moment) : Decidable m.InCalendar := inferInstanceAs (Decidable (_ ∧ _))

/-- The thousandth of a second that a moment falls in, from the start of year 1. -/
def millisecond (m : Moment) : Int := m.instant / 1000

/-- What the clock and the calendar show, down to thousandths of a second. -/
def fields (m : Moment) : List Nat :=
  [m.date.year, m.date.month, m.date.day, m.hour, m.minute, m.second, m.microsecond / 1000]

/-- A moment on a clock that shows Coordinated Universal Time. -/
structure IsUniversal (u : Moment) : Prop where
  valid : u.isValid
  offset : u.offset = some 0

theorem isValid_iff_date : u.isValid = true ↔ u.date.isValid = true ∧ u.hour < 24 ∧ u.minute < 60 ∧
    u.second < 60 ∧ u.microsecond < 1000000 ∧
    u.offset.all (fun o => o.natAbs < microsecondsPerDay) = true := by
  simp only [isValid, Bool.and_eq_true, decide_eq_true_eq, and_assoc]

/-- The moment at an instant has this instant, whatever offset the instant was told with. -/
theorem of_ofInstant? (h : ofInstant? i = some u) : u.IsUniversal ∧ u.instant = i := by
  cases i with
  | negSucc n => cases h
  | ofNat n =>
    simp only [ofInstant?] at h
    split at h
    · next hyear =>
      obtain rfl := Option.some.inj h
      obtain ⟨-, -, hlate⟩ := Date.yearOf_spec (n / microsecondsPerDay)
      have hday : n / microsecondsPerDay < daysBeforeYear 10000 :=
        Nat.lt_of_lt_of_le hlate (daysBeforeYear_mono (Nat.succ_le_succ hyear))
      refine ⟨⟨isValid_iff_date.mpr ⟨Date.isValid_ofDayNumber hday, ?_⟩, rfl⟩, ?_⟩
      · simp only [microsecondsPerDay]
        refine ⟨?_, ?_, ?_, ?_, rfl⟩ <;> omega
      · simp only [instant, timeOfDay, Date.dayNumber_ofDayNumber, microsecondsPerDay]
        simp
        omega
    · cases h

theorem exists_ofInstant? (h : m.InCalendar) : ∃ u, ofInstant? m.instant = some u := by
  obtain ⟨hlow, hhigh⟩ := h
  obtain ⟨n, hn⟩ := Int.eq_ofNat_of_zero_le hlow
  rw [hn] at hhigh ⊢
  have hday : n / microsecondsPerDay < daysBeforeYear 10000 :=
    Nat.div_lt_of_lt_mul (by rw [Nat.mul_comm]; exact Int.ofNat_lt.mp hhigh)
  simp only [ofInstant?, if_pos (Date.year_ofDayNumber_le hday)]
  exact ⟨_, rfl⟩

/-- The thousandths of a second of a moment in Coordinated Universal Time. -/
theorem IsUniversal.millisecond_eq (h : u.IsUniversal) :
    u.millisecond = (u.date.dayNumber * 86400000 +
      (((u.hour * 60 + u.minute) * 60 + u.second) * 1000 + u.microsecond / 1000) : Nat) := by
  simp only [millisecond, instant, h.offset, timeOfDay, microsecondsPerDay, Option.getD_some]
  omega

namespace IsUniversal

theorem millisecond_lt (h : u.IsUniversal) (h' : u'.IsUniversal) (hlt : u.fields < u'.fields) :
    u.millisecond < u'.millisecond := by
  obtain ⟨hdate, hhour, hminute, hsecond, hmicro, -⟩ := isValid_iff_date.mp h.valid
  obtain ⟨hdate', hhour', hminute', hsecond', hmicro', -⟩ := isValid_iff_date.mp h'.valid
  rw [h.millisecond_eq, h'.millisecond_eq, Int.ofNat_lt]
  simp only [fields, List.cons_lt_cons_iff, List.not_lt_nil, and_false, or_false] at hlt
  rcases hlt with hyear | ⟨hyear, hmonth | ⟨hmonth, hday | ⟨hday, htime⟩⟩⟩
  · have hdays := Date.dayNumber_lt_dayNumber hdate hdate' (.inl hyear)
    omega
  · have hdays := Date.dayNumber_lt_dayNumber hdate hdate' (.inr ⟨hyear, .inl hmonth⟩)
    omega
  · have hdays := Date.dayNumber_lt_dayNumber hdate hdate' (.inr ⟨hyear, .inr ⟨hmonth, hday⟩⟩)
    omega
  · have hdays : u.date.dayNumber = u'.date.dayNumber := by
      rw [Date.dayNumber, Date.dayNumber, hyear, hmonth, hday]
    omega

theorem millisecond_congr (h : u.IsUniversal) (h' : u'.IsUniversal) (heq : u.fields = u'.fields) :
    u.millisecond = u'.millisecond := by
  simp only [fields, List.cons.injEq, and_true] at heq
  obtain ⟨hyear, hmonth, hday, hhour, hminute, hsecond, hmilli⟩ := heq
  rw [h.millisecond_eq, h'.millisecond_eq, Date.dayNumber, Date.dayNumber, hyear, hmonth, hday,
    hhour, hminute, hsecond, hmilli]

/-- What is shown is in the order of time. -/
theorem fields_lt_fields_iff (h : u.IsUniversal) (h' : u'.IsUniversal) :
    u.fields < u'.fields ↔ u.millisecond < u'.millisecond := by
  refine ⟨h.millisecond_lt h', fun hlt => ?_⟩
  rcases lt_trichotomy u.fields u'.fields with hfields | hfields | hfields
  · exact hfields
  · exact absurd (h.millisecond_congr h' hfields) (Int.ne_of_lt hlt)
  · exact absurd (h'.millisecond_lt h hfields) (Int.not_lt.mpr (Int.le_of_lt hlt))

theorem fields_eq_fields_iff (h : u.IsUniversal) (h' : u'.IsUniversal) :
    u.fields = u'.fields ↔ u.millisecond = u'.millisecond := by
  refine ⟨h.millisecond_congr h', fun heq => ?_⟩
  rcases lt_trichotomy u.fields u'.fields with hfields | hfields | hfields
  · exact absurd heq (Int.ne_of_lt (h.millisecond_lt h' hfields))
  · exact hfields
  · exact absurd heq (Int.ne_of_gt (h'.millisecond_lt h hfields))

end IsUniversal

/-! ### Time stamps and their files -/

/-- The widths of the numerals of a time stamp, and the signs behind them. -/
def stampLayout : List (Nat × Char) :=
  [(4, '-'), (2, '-'), (2, 'T'), (2, ':'), (2, ':'), (2, '.'), (3, 'Z')]

/-- The same in the name of a file. -/
def fileLayout : List (Nat × Char) :=
  [(4, '-'), (2, '-'), (2, 'T'), (2, '-'), (2, '-'), (2, '-'), (3, 'Z')]

theorem IsUniversal.fits (h : u.IsUniversal) :
    Fits stampLayout u.fields ∧ Fits fileLayout u.fields := by
  obtain ⟨hdate, hhour, hminute, hsecond, hmicro, -⟩ := isValid_iff_date.mp h.valid
  obtain ⟨-, hyear, -, hmonth, -, hday⟩ := Date.isValid_iff.mp hdate
  have hlong : daysInMonth u.date.year u.date.month ≤ 31 := by
    unfold daysInMonth
    split <;> (try split) <;> decide
  simp only [Fits, stampLayout, fileLayout, fields, List.forall₂_cons, List.forall₂_nil_left_iff,
    and_true]
  omega

theorem timestamp?_eq (h : ofInstant? m.instant = some u) :
    m.timestamp? = some (numerals stampLayout u.fields) := by
  rw [timestamp?, h]
  simp [dateText, clockText, numerals, stampLayout, fields]

end Moment

open Conversion in
theorem stampName_numerals (ns : List Nat) :
    stampName (numerals Moment.stampLayout ns) = numerals Moment.fileLayout ns := by
  rw [stampName, map_numerals]
  · rfl
  · intro c hc
    have hsigns : c ≠ ':' ∧ c ≠ '.' := by
      constructor <;> (rintro rfl; cases hc)
    simp [hsigns]

open Conversion in
theorem name_outputPath (folder source : Path) (extension stamp : Text) :
    (outputPath folder source extension stamp).name =
      (source.stem ++ "_converted_".toList) ++ (stampName stamp ++ extension) := by
  simp [outputPath, Path.child, Path.name]

open Conversion in
/-- Two instants in the years 1 to 9999 have time stamps, whatever offsets they are told with. The
time stamps are equal exactly if the instants fall in the same thousandth of a second, and they are
ordered as the thousandths of a second are. So an instant has one time stamp for all offsets. And
documents of one stem have the names of their files in this order, wherever they are written; only
names of the same thousandth of a second are ordered by what stands behind it. -/
theorem timestamp?_order {m m' : Moment} (h : m.InCalendar) (h' : m'.InCalendar) :
    ∃ stamp stamp', m.timestamp? = some stamp ∧ m'.timestamp? = some stamp' ∧
      (stamp = stamp' ↔ m.millisecond = m'.millisecond) ∧
      (stamp < stamp' ↔ m.millisecond < m'.millisecond) ∧
      (m.instant ≤ m'.instant → stamp ≤ stamp') ∧
      (m.instant = m'.instant → stamp = stamp') ∧
      ∀ (folder folder' source source' : Path) (extension extension' : Text),
        source.stem = source'.stem →
        ((outputPath folder source extension stamp).name <
            (outputPath folder' source' extension' stamp').name ↔
          m.millisecond < m'.millisecond ∨
            m.millisecond = m'.millisecond ∧ extension < extension') := by
  obtain ⟨u, hu⟩ := Moment.exists_ofInstant? h
  obtain ⟨u', hu'⟩ := Moment.exists_ofInstant? h'
  obtain ⟨huniversal, hinstant⟩ := Moment.of_ofInstant? hu
  obtain ⟨huniversal', hinstant'⟩ := Moment.of_ofInstant? hu'
  have hmilli : m.millisecond = u.millisecond := by rw [Moment.millisecond, ← hinstant]; rfl
  have hmilli' : m'.millisecond = u'.millisecond := by rw [Moment.millisecond, ← hinstant']; rfl
  obtain ⟨hfits, hfile⟩ := huniversal.fits
  obtain ⟨hfits', hfile'⟩ := huniversal'.fits
  have hlt : u.fields < u'.fields ↔ m.millisecond < m'.millisecond := by
    rw [hmilli, hmilli', huniversal.fields_lt_fields_iff huniversal']
  have heq : u.fields = u'.fields ↔ m.millisecond = m'.millisecond := by
    rw [hmilli, hmilli', huniversal.fields_eq_fields_iff huniversal']
  have hstamps := (numerals_lt_iff hfits hfits').trans hlt
  have hsame := (numerals_inj hfits hfits').trans heq
  refine ⟨_, _, Moment.timestamp?_eq hu, Moment.timestamp?_eq hu', hsame, hstamps, fun hle => ?_,
    fun hinstants => hsame.mpr (congrArg (· / 1000) hinstants),
    fun folder folder' source source' extension extension' hstem => ?_⟩
  · have hmillis : m.millisecond ≤ m'.millisecond := Int.ediv_le_ediv (by decide) hle
    exact (lt_or_eq_of_le hmillis).elim (fun hbefore => le_of_lt (hstamps.mpr hbefore))
      fun hboth => le_of_eq (hsame.mpr hboth)
  · rw [name_outputPath, name_outputPath, hstem, stampName_numerals, stampName_numerals,
      append_lt_append_iff rfl, numerals_append_lt_iff hfile hfile', hlt, heq]
    simp only [lt_self_iff_false, true_and, false_or]

/-- The end of a leap day where the clock is half an hour behind. -/
def leapDayEnd : Moment := ⟨⟨2024, 2, 29⟩, 23, 59, 59, 999900, some (-1800000000)⟩

/-- A little later, on the next day, where the clock is five and a half hours ahead. -/
def nextMorning : Moment := ⟨⟨2024, 3, 1⟩, 5, 59, 59, 999999, some 19800000000⟩

/-- The microsecond after that. -/
def halfPastMidnight : Moment := ⟨⟨2024, 3, 1⟩, 0, 30, 0, 0, some 0⟩

open Conversion in
/-- The first two have one time stamp, and the files of the third come behind theirs. -/
theorem timestamp?_order_leapDayEnd :
    (∃ stamp, leapDayEnd.timestamp? = some stamp ∧ nextMorning.timestamp? = some stamp) ∧
    ∃ stamp later, nextMorning.timestamp? = some stamp ∧ halfPastMidnight.timestamp? = some later ∧
      stamp < later ∧
      (outputPath ⟨.here, ["out".toList]⟩ ⟨.here, ["a.csv".toList]⟩ ".sql".toList stamp).name <
        (outputPath ⟨.here, ["out".toList]⟩ ⟨.here, ["a.csv".toList]⟩ ".sql".toList
          later).name := by
  have hend : leapDayEnd.InCalendar := by decide
  have hnext : nextMorning.InCalendar := by decide
  have hhalf : halfPastMidnight.InCalendar := by decide
  obtain ⟨stamp, stamp', hstamp, hstamp', hsame, -⟩ := timestamp?_order hend hnext
  obtain ⟨before, after, hbefore, hafter, -, hlt, -, -, hnames⟩ := timestamp?_order hnext hhalf
  obtain rfl := hsame.mpr (by decide)
  exact ⟨⟨stamp, hstamp, hstamp'⟩, before, after, hbefore, hafter, hlt.mpr (by decide),
    (hnames _ _ _ _ _ _ rfl).mpr (.inl (by decide))⟩

end SchemaMill
