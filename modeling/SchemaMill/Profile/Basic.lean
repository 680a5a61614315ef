import SchemaMill.Profile.ColumnType
import SchemaMill.Value.Basic
import SchemaMill.Value.Evidence

/-!
# Profiles of columns

A profile collects the evidence that the values of a column give, one value after the other, and
resolves to the narrowest type that holds them all. Empty values change nothing.
-/

namespace SchemaMill

/-- The evidence about a column. -/
structure Profile where
  /-- The length of the longest text of a value. -/
  maxLength : Nat := 0
  /-- A value is a number with a fraction. -/
  hasDecimal : Bool := false
  /-- A value is no number. -/
  hasNonNumeric : Bool := false
  /-- All values are dates. -/
  allDates : Bool := true
  /-- A value is nested. -/
  hasStructured : Bool := false
  /-- The number of values that are not empty. -/
  observed : Nat := 0
  deriving DecidableEq, Repr

namespace Profile

/-- The profile after one more value. A nested value settles the type, so nothing else is asked
about it. -/
def observe (p : Profile) (v : Value) : Profile :=
  if v.isEmpty then p
  else
    let p := { p with observed := p.observed + 1, maxLength := max p.maxLength v.render.length }
    if v.isStructured then
      { p with hasStructured := true, allDates := false, hasNonNumeric := true }
    else
      let p := { p with allDates := p.allDates && v.isDate }
      match v.number? with
      | none => { p with hasNonNumeric := true }
      | some n => if n.isIntegral then p else { p with hasDecimal := true }

/-- The type that holds the values of a profile. Whole numbers are told apart by the length of the
longest one, texts up to 255 characters have a length of their own. -/
def resolve (p : Profile) : ColumnType :=
  if p.hasStructured then .json
  else if p.allDates then .datetime
  else if !p.hasNonNumeric then
    if p.hasDecimal then .decimal 10 2
    else if p.maxLength ≤ 3 then .tinyint
    else if p.maxLength ≤ 5 then .smallint
    else if p.maxLength ≤ 10 then .int
    else .bigint
  else if p.maxLength ≤ 255 then .varchar p.maxLength
  else .text

end Profile

/-- The profiles after one more field of a record; a new column comes last. -/
def observeField (profiles : List (Text × Profile)) (field : Text × Value) :
    List (Text × Profile) :=
  setField field.1 (((profiles.lookup field.1).getD {}).observe field.2) profiles

/-- The profiles of all columns, in the order in which they first come. -/
def profiles (records : List Record) : List (Text × Profile) :=
  records.flatten.foldl observeField []

/-- The types of all columns, in the order in which they first come. -/
def columnTypes (records : List Record) : List (Text × ColumnType) :=
  (profiles records).map fun (column, profile) => (column, profile.resolve)

theorem map_fst_foldl_observeField {ps : List (Text × Profile)} {names : List (Text × Unit)}
    (h : ps.map Prod.fst = names.map Prod.fst) (fields : List (Text × Value)) :
    (fields.foldl observeField ps).map Prod.fst =
      (setFields (fields.map fun f => (f.1, ())) names).map Prod.fst := by
  induction fields generalizing ps names with
  | nil => exact h
  | cons f fields ih =>
    rw [List.foldl_cons, List.map_cons, setFields, List.foldl_cons]
    exact ih (by rw [observeField, map_fst_setField, map_fst_setField, h])

/-- The columns that get types are the columns of the records. -/
theorem map_fst_columnTypes (records : List Record) :
    (columnTypes records).map Prod.fst = recordColumns records := by
  rw [columnTypes, List.map_map]
  exact map_fst_foldl_observeField rfl records.flatten

end SchemaMill
