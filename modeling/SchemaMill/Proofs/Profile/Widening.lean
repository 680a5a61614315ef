import SchemaMill.Proofs.Decimal.Padded
import SchemaMill.Proofs.Profile.Types

/-!
# Wider types

Types are ordered by what they hold: the numbers from the smallest integers to decimals, above them
and above dates the texts by their lengths, then long texts and nested values. More values of a
column never call for a narrower type (`resolve_ofValues_mono`), so a column that is observed
further keeps its type or gets a wider one (`resolve_le_resolve_foldl`).

It matters that a date is no number (`number?_of_isDate`): a column that was one of dates has seen
something that is no number, though nothing but the dates may have been observed.
-/

namespace SchemaMill

namespace ColumnType

/-- The steps from a type to the next wider ones. -/
inductive Widens : ColumnType → ColumnType → Prop where
  | tinyint : Widens .tinyint .smallint
  | smallint : Widens .smallint .int
  | int : Widens .int .bigint
  | bigint (precision scale : Int) : Widens .bigint (.decimal precision scale)
  | decimal (precision scale n : Int) : Widens (.decimal precision scale) (.varchar n)
  | datetime (n : Int) : Widens .datetime (.varchar n)
  | varchar {m n : Int} (h : m ≤ n) : Widens (.varchar m) (.varchar n)
  | long (n : Int) : Widens (.varchar n) .text
  | text : Widens .text .json

/-- How many steps lead up to a type, those between lengths apart. -/
def stage : ColumnType → Nat
  | tinyint => 0
  | smallint => 1
  | int => 2
  | bigint => 3
  | decimal _ _ => 4
  | datetime => 4
  | varchar _ => 5
  | text => 6
  | json => 7

/-- Whether a type is one of numbers. -/
def isNumeric : ColumnType → Bool
  | tinyint | smallint | int | bigint | decimal _ _ => true
  | _ => false

variable {a b : ColumnType}

theorem cases_of_widens (h : Relation.ReflTransGen Widens a b) :
    a = b ∨ a.stage < b.stage ∨ ∃ m n, a = .varchar m ∧ b = .varchar n ∧ m ≤ n := by
  induction h with
  | refl => exact .inl rfl
  | @tail b c _ hstep ih =>
    rcases ih with rfl | hlt | ⟨m, n, rfl, rfl, hle⟩
    · cases hstep with
      | varchar h => exact .inr (.inr ⟨_, _, rfl, rfl, h⟩)
      | _ => exact .inr (.inl (by simp [stage]))
    · have : b.stage ≤ c.stage := by cases hstep <;> simp [stage]
      exact .inr (.inl (by omega))
    · cases hstep with
      | varchar h => exact .inr (.inr ⟨_, _, rfl, rfl, by omega⟩)
      | long => exact .inr (.inl (by simp [stage]))

/-- A type is at most as wide as another if steps to wider types lead from it to the other. -/
instance : PartialOrder ColumnType where
  le := Relation.ReflTransGen Widens
  le_refl _ := .refl
  le_trans _ _ _ := .trans
  le_antisymm a b hab hba := by
    rcases cases_of_widens hab with rfl | hlt | ⟨m, n, rfl, rfl, hle⟩
    · rfl
    · rcases cases_of_widens hba with rfl | hlt' | ⟨m, n, rfl, rfl, -⟩
      · rfl
      · omega
      · simp [stage] at hlt
    · rcases cases_of_widens hba with heq | hlt | ⟨m', n', heq, heq', hle'⟩
      · exact heq.symm
      · simp [stage] at hlt
      · cases heq
        cases heq'
        rw [Int.le_antisymm hle hle']

theorem Widens.le (h : Widens a b) : a ≤ b := Relation.ReflTransGen.single h

/-- The type of whole numbers whose texts have up to `n` characters. -/
def ofWidth (n : Nat) : ColumnType :=
  if n ≤ 3 then tinyint else if n ≤ 5 then smallint else if n ≤ 10 then int else bigint

theorem ofWidth_mono {m n : Nat} (h : m ≤ n) : ofWidth m ≤ ofWidth n := by
  have htinyint : tinyint ≤ smallint := Widens.tinyint.le
  have hsmallint : smallint ≤ int := Widens.smallint.le
  have hint : int ≤ bigint := Widens.int.le
  unfold ofWidth
  -- where the lengths do not contradict each other, the types stand in the chain
  split_ifs <;> first | omega | order

theorem ofWidth_le_decimal (n : Nat) (precision scale : Int) :
    ofWidth n ≤ decimal precision scale := by
  have hlong : ofWidth (n + 11) = bigint := by
    unfold ofWidth
    split_ifs <;> first | omega | rfl
  calc ofWidth n ≤ ofWidth (n + 11) := ofWidth_mono (by omega)
    _ = bigint := hlong
    _ ≤ decimal precision scale := (Widens.bigint precision scale).le

theorem le_json (a : ColumnType) : a ≤ json := by
  have htext : text ≤ json := Widens.text.le
  have hvarchar (n : Int) : varchar n ≤ json := (Widens.long n).le.trans htext
  have hdecimal (p s : Int) : decimal p s ≤ json := (Widens.decimal p s 0).le.trans (hvarchar 0)
  have hwhole (n : Nat) : ofWidth n ≤ json := (ofWidth_le_decimal n 0 0).trans (hdecimal 0 0)
  cases a with
  | json => exact le_refl json
  | text => exact htext
  | varchar n => exact hvarchar n
  | datetime => exact (Widens.datetime 0).le.trans (hvarchar 0)
  | decimal p s => exact hdecimal p s
  | bigint => exact hwhole 11
  | int => exact hwhole 10
  | smallint => exact hwhole 5
  | tinyint => exact hwhole 3

/-- The types of numbers and the type of dates cannot be compared. -/
theorem not_le_datetime_of_isNumeric (h : a.isNumeric) : ¬a ≤ datetime ∧ ¬datetime ≤ a := by
  constructor <;> intro hle
  · cases hle with
    | refl => cases h
    | tail _ hstep => cases hstep
  · rcases cases_of_widens hle with rfl | hlt | ⟨m, n, heq, -⟩
    · cases h
    · cases a <;> simp [stage] at hlt <;> cases h
    · cases heq

end ColumnType

/-! ### Dates -/

/-- A date is no number, whatever blanks stand around it. -/
theorem Value.number?_of_isDate {v : Value} (h : v.isDate) : v.number? = none := by
  cases v with
  | text t =>
    simp only [isDate, spellsDate, Bool.and_eq_true, Option.isNone_iff_eq_none] at h
    obtain ⟨⟨⟨-, htrim⟩, -⟩, -⟩ := h
    cases hnumber : readNumber? t with
    | none => exact hnumber
    | some n => rw [readNumber?_trim hnumber] at htrim; cases htrim
  | _ => cases h

/-! ### More values -/

namespace Profile

variable {vs ws : List Value}

theorem longest_mono (h : vs ⊆ ws) : longest vs ≤ longest ws :=
  longest_le_iff.mpr fun _ hv => length_render_le_longest (h hv)

theorem resolve_le_of_numbers (hsub : vs ⊆ ws) (hvs : AreNumbers vs) (hws : AreNumbers ws) :
    (ofValues vs).resolve ≤ (ofValues ws).resolve := by
  have hwhole (us : List Value) : (if longest us ≤ 3 then ColumnType.tinyint
      else if longest us ≤ 5 then .smallint else if longest us ≤ 10 then .int else .bigint) =
        ColumnType.ofWidth (longest us) := rfl
  rw [resolve_of_numbers hvs, resolve_of_numbers hws, hwhole, hwhole]
  by_cases hmore : ∃ v ∈ ws, v.hasFraction
  · rw [if_pos hmore]
    split
    · exact le_refl _
    · exact ColumnType.ofWidth_le_decimal _ 10 2
  · have hfew : ¬∃ v ∈ vs, v.hasFraction := by
      rintro ⟨v, hv, hfraction⟩
      exact hmore ⟨v, hsub hv, hfraction⟩
    rw [if_neg hfew, if_neg hmore]
    exact ColumnType.ofWidth_mono (longest_mono hsub)

theorem resolve_le_of_texts (hvs : AreNumbers vs ∨ (ofValues vs).resolve = .datetime)
    (hws : AreTexts ws) : (ofValues vs).resolve ≤ (ofValues ws).resolve := by
  have hvarchar (n : Int) : (ofValues vs).resolve ≤ .varchar n := by
    rcases hvs with hnumbers | hdates
    · refine le_trans ?_ (ColumnType.Widens.decimal 10 2 n).le
      rw [resolve_of_numbers hnumbers]
      split
      · exact le_refl _
      · exact ColumnType.ofWidth_le_decimal (longest vs) 10 2
    · rw [hdates]
      exact (ColumnType.Widens.datetime n).le
  rw [resolve_of_texts hws]
  split
  · exact hvarchar _
  · exact (hvarchar 0).trans (ColumnType.Widens.long 0).le

theorem resolve_mono_of_texts (hsub : vs ⊆ ws) (hvs : AreTexts vs) (hws : AreTexts ws) :
    (ofValues vs).resolve ≤ (ofValues ws).resolve := by
  have hlongest := longest_mono hsub
  rw [resolve_of_texts hvs, resolve_of_texts hws]
  split_ifs with hshort hlong hlong
  · exact (ColumnType.Widens.varchar (by omega)).le
  · exact (ColumnType.Widens.long _).le
  · omega
  · exact le_refl _

/-- More values call for no narrower type, once there is one. -/
theorem resolve_ofValues_mono (hne : vs ≠ []) (hsub : vs ⊆ ws) :
    (ofValues vs).resolve ≤ (ofValues ws).resolve := by
  obtain ⟨v, hv⟩ := List.exists_mem_of_ne_nil vs hne
  rcases kinds ws with hnested | ⟨hplain, hdates⟩ | hnumbers | htexts
  · rw [resolve_of_structured hnested]
    exact ColumnType.le_json _
  · rw [resolve_of_dates hplain hdates,
      resolve_of_dates (fun u hu => hplain u (hsub hu)) fun u hu => hdates u (hsub hu)]
  · rcases kinds vs with ⟨u, hu, hnested⟩ | ⟨-, hdates⟩ | hfew | ⟨-, -, u, hu, hnone⟩
    · rw [hnumbers.plain u (hsub hu)] at hnested
      cases hnested
    · have hsome := hnumbers.numbers v (hsub hv)
      rw [Value.number?_of_isDate (hdates v hv)] at hsome
      cases hsome
    · exact resolve_le_of_numbers hsub hfew hnumbers
    · have hsome := hnumbers.numbers u (hsub hu)
      rw [hnone] at hsome
      cases hsome
  · rcases kinds vs with ⟨u, hu, hnested⟩ | ⟨hplain, hdates⟩ | hfew | hfew
    · rw [htexts.plain u (hsub hu)] at hnested
      cases hnested
    · exact resolve_le_of_texts (.inr (resolve_of_dates hplain hdates)) htexts
    · exact resolve_le_of_texts (.inl hfew) htexts
    · exact resolve_mono_of_texts hsub hfew htexts

theorem allDates_observe {p : Profile} (h : p.allDates = false) (v : Value) :
    (p.observe v).allDates = false := by
  simp only [observe]
  split
  · exact h
  · split
    · rfl
    · split
      · simp [h]
      · split <;> simp [h]

theorem allDates_foldl {p : Profile} (h : p.allDates = false) (ws : List Value) :
    (ws.foldl observe p).allDates = false := by
  induction ws generalizing p with
  | nil => exact h
  | cons w ws ih => exact ih (allDates_observe h w)

/-- What is observed further, after a value that was not empty, never makes the type of a column
narrower. In particular a column of dates never becomes one of numbers, and a column that was not
all dates never becomes one. -/
theorem resolve_le_resolve_foldl (h : ∃ v ∈ vs, v.isEmpty = false) (ws : List Value) :
    let p := vs.foldl observe {}
    let q := ws.foldl observe p
    p.resolve ≤ q.resolve ∧ (p.resolve = .datetime → q.resolve.isNumeric = false) ∧
      (p.allDates = false → q.allDates = false) := by
  intro p q
  have hle : p.resolve ≤ q.resolve := by
    have hq : q = (vs ++ ws).foldl observe {} := (List.foldl_append ..).symm
    rw [hq, foldl_observe, show p = _ from foldl_observe vs]
    refine resolve_ofValues_mono ?_ ?_
    · obtain ⟨v, hv, hfull⟩ := h
      exact List.ne_nil_of_mem (List.mem_filter.mpr ⟨hv, by simp [hfull]⟩)
    · rw [List.filter_append]
      exact List.subset_append_left _ _
  refine ⟨hle, fun hdates => ?_, fun hflag => allDates_foldl hflag ws⟩
  rw [hdates] at hle
  rw [Bool.eq_false_iff]
  intro hnumeric
  exact (ColumnType.not_le_datetime_of_isNumeric hnumeric).2 hle

/-- Values of a column of dates. -/
def datedValues : List Value := [.null, .text "2024-01-02", .text " 30/03/2026"]

/-- Values of the column that are no dates, with a number among them. -/
def undatedValues : List Value := [.text "7", .text "", .text "2024-01-02", .text "someday"]

theorem resolve_le_resolve_foldl_datedValues :
    (∃ v ∈ datedValues, v.isEmpty = false) ∧
      (datedValues.foldl observe {}).resolve = .datetime ∧
      let q := undatedValues.foldl observe (datedValues.foldl observe {})
      .datetime ≤ q.resolve ∧ q.resolve.isNumeric = false ∧ q.resolve = .varchar 11 := by
  have hfull : ∃ v ∈ datedValues, v.isEmpty = false :=
    ⟨.text "2024-01-02", List.mem_cons_of_mem _ List.mem_cons_self, rfl⟩
  have hdates : (datedValues.foldl observe {}).resolve = .datetime := by decide +kernel
  obtain ⟨hle, hnumeric, -⟩ := resolve_le_resolve_foldl hfull undatedValues
  rw [hdates] at hle
  exact ⟨hfull, hdates, hle, hnumeric hdates, by decide +kernel⟩

end Profile

end SchemaMill
