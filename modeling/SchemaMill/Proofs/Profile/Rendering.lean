import SchemaMill.Profile.Basic
import SchemaMill.Proofs.Charset.Lowering
import SchemaMill.Proofs.Decimal.Integers
import SchemaMill.Proofs.Json.Values

/-!
# Values and their texts

A value leaves the same trace in a profile whether it comes as it is or as its text
(`observe_render`): the two answer all questions alike (`Value.SameEvidence`). For an integer they
do because its text spells the number that the integer is rounded to, and because digits alone,
without marks between them and without letters, are no date (`spellsDate_decimalInt`). An array or
an object is nested, and nothing else is asked about it; its text spells something nested since it
reads as the value (`spellsNested_print`).
-/

namespace SchemaMill

namespace Value

/-- Whether two values are evidence of the same: they are both empty or both not, have one text, and
answer the questions that are asked of values alike. Nested values are not asked whether they are
dates or numbers. -/
structure SameEvidence (v w : Value) : Prop where
  empty : v.isEmpty = w.isEmpty
  text : v.render = w.render
  structured : v.isStructured = w.isStructured
  date : w.isStructured = false → v.isDate = w.isDate
  number : w.isStructured = false → v.number? = w.number?

end Value

open Value in
/-- Values that are evidence of the same take a profile to the same one. -/
theorem Profile.observe_congr {v w : Value} (h : SameEvidence v w) (p : Profile) :
    p.observe v = p.observe w := by
  unfold observe
  rw [h.empty, h.text, h.structured]
  cases hplain : w.isStructured with
  | true => rfl
  | false => rw [h.date hplain, h.number hplain]

namespace Value

/-! ### Integers -/

theorem holdsName_eq_false {t : Text} (h : ∀ c ∈ t, c.isAlpha = false) : holdsName t = false := by
  induction t with
  | nil => rfl
  | cons c t ih =>
    rw [List.forall_mem_cons] at h
    rw [holdsName, ih h.2]
    simp [h.1]

theorem trim_decimalInt (n : Int) : trim (decimalInt n) = decimalInt n := by
  refine trim_of_trimmed (trimmed_of_forall fun c hc => ?_)
  obtain hdigit | rfl := mem_decimalInt hc
  · exact isBlank_of_isDigit hdigit
  · decide

theorem beginsLikeDate_decimalInt (n : Int) : beginsLikeDate (decimalInt n) = false := by
  have hdigits (m : Nat) : ∀ c ∈ decimal m, isDecimalDigit c = true := fun c hc =>
    isDecimalDigit_of_mem_decimal hc
  have hdrop (m : Nat) : (decimal m).dropWhile isDecimalDigit = [] :=
    List.dropWhile_eq_nil_iff.mpr (hdigits m)
  have hminus : isDecimalDigit '-' = false := by decide
  cases n with
  | ofNat m => simp [beginsLikeDate, decimalInt, hdrop]
  | negSucc m => simp [beginsLikeDate, decimalInt, hminus]

theorem spellsDate_decimalInt (n : Int) : spellsDate (decimalInt n) = false := by
  have hname : holdsName (decimalInt n) = false := holdsName_eq_false fun c hc => by
    obtain hdigit | rfl := mem_decimalInt hc
    · exact isAlpha_of_isDigit hdigit
    · decide
  unfold spellsDate
  dsimp only
  rw [trim_decimalInt, beginsLikeDate_decimalInt, hname]
  simp

theorem spellsNested_decimalInt (n : Int) : spellsNested (decimalInt n) = false := by
  have hhead : ∀ c ∈ (decimalInt n).head?, c ≠ '[' ∧ c ≠ '\x7b' := by
    intro c hc
    obtain hdigit | rfl := mem_decimalInt (List.mem_of_mem_head? hc)
    · constructor <;> rintro rfl <;> exact absurd hdigit (by decide)
    · decide
  unfold spellsNested
  dsimp only
  rw [trim_decimalInt]
  cases hfirst : (decimalInt n).head? with
  | none => rfl
  | some c => simp [hhead c hfirst]

theorem sameEvidence_decimalInt (n : Int) : SameEvidence (text (decimalInt n)) (int n) where
  empty := by
    cases n with
    | ofNat m =>
      obtain ⟨c, rest, hm, -⟩ := decimal_eq_cons m
      rw [decimalInt, hm]
      rfl
    | negSucc m => rfl
  text := rfl
  structured := spellsNested_decimalInt n
  date _ := spellsDate_decimalInt n
  number _ := readNumber?_decimalInt n

/-! ### Arrays and objects -/

theorem spellsNested_of_readsAs {opening closing : Char} {inner : Text} {v : Value}
    (h : Json.ReadsAs (opening :: inner ++ [closing]) v) (hv : v.isNested = true)
    (hends : opening = '[' ∧ closing = ']' ∨ opening = '\x7b' ∧ closing = '\x7d') :
    spellsNested (opening :: inner ++ [closing]) = true := by
  have htrim : trim (opening :: inner ++ [closing]) = opening :: inner ++ [closing] := by
    refine trim_of_trimmed ⟨fun c hc => ?_, fun c hc => ?_⟩
    · cases hc
      rcases hends with ⟨rfl, -⟩ | ⟨rfl, -⟩ <;> decide
    · rw [List.getLast?_append] at hc
      cases hc
      rcases hends with ⟨-, rfl⟩ | ⟨-, rfl⟩ <;> decide
  have hread : Json.read (opening :: inner ++ [closing]) = .ok v := by
    have := h.read_append Json.areSpaces_nil
    rwa [List.append_nil] at this
  unfold spellsNested
  dsimp only
  rw [htrim, hread]
  rcases hends with ⟨rfl, -⟩ | ⟨rfl, -⟩ <;> simp [hv]

/-- The text of an array or an object spells something nested. -/
theorem spellsNested_print {v : Value} (h : Json.Everywhere Json.IsPlain v)
    (hv : v.isNested = true) : spellsNested (Json.print Json.tight v) = true := by
  have hread := Json.readsAs_print Json.areSigns_tight v h
  cases v with
  | array items => exact spellsNested_of_readsAs hread hv (.inl ⟨rfl, rfl⟩)
  | object fields => exact spellsNested_of_readsAs hread hv (.inr ⟨rfl, rfl⟩)
  | _ => cases hv

/-! ### All values -/

theorem sameEvidence_bool (b : Bool) : SameEvidence (text (bool b).render) (bool b) := by
  cases b with
  | true => exact ⟨rfl, rfl, by decide +kernel, fun _ => by decide +kernel,
      fun _ => by decide +kernel⟩
  | false => exact ⟨rfl, rfl, by decide +kernel, fun _ => by decide +kernel,
      fun _ => by decide +kernel⟩

/-- A value that is not null is evidence of the same as its text. -/
theorem sameEvidence_render {v : Value} (h : Json.Everywhere Json.IsPlain v) (hnull : v ≠ null) :
    SameEvidence (text v.render) v := by
  cases v with
  | null => exact absurd rfl hnull
  | bool b => exact sameEvidence_bool b
  | int n => exact sameEvidence_decimalInt n
  | double d => exact absurd h.1 not_false
  | text t => exact ⟨rfl, rfl, rfl, fun _ => rfl, fun _ => rfl⟩
  | array items => exact ⟨rfl, rfl, spellsNested_print h rfl, nofun, nofun⟩
  | object fields => exact ⟨rfl, rfl, spellsNested_print h rfl, nofun, nofun⟩

end Value

/-- A value leaves the same trace in a profile as its text, if it is not null, no double is in it,
its integers are not too long and its objects have distinct keys. In particular the text of an array
or an object spells something nested, and an integer that is out of reach of double precision is no
number, nor does its text spell one. -/
theorem observe_render (p : Profile) {v : Value} (h : Json.Everywhere Json.IsPlain v)
    (hnull : v ≠ .null) :
    p.observe (.text v.render) = p.observe v ∧
      (v.isNested = true → (Value.text v.render).isStructured = true) ∧
      ∀ n, v = .int n → Double.limit ≤ n.natAbs →
        v.number? = none ∧ (Value.text v.render).number? = none := by
  have hsame := Value.sameEvidence_render h hnull
  refine ⟨Profile.observe_congr hsame p, fun hnested => ?_, ?_⟩
  · rw [hsame.structured]
    cases v <;> first | exact hnested | cases hnested
  · rintro n rfl hlimit
    have hnumber : (Value.int n).number? = none := by
      have hfinite : ¬(Double.ofInt n).isFinite = true := fun hfinite =>
        Nat.not_lt.mpr hlimit (Double.isFinite_ofInt_iff.mp hfinite)
      exact if_neg hfinite
    exact ⟨hnumber, (hsame.number rfl).trans hnumber⟩

/-- An object with an array in it, and with a text that has to be escaped. -/
def nestedObject : Value :=
  .object [("ids".toList, .array [.int (-7), .null, .bool true]), ("note".toList, .text "\"\n")]

/-- The least integer that is out of reach. -/
def farInteger : Value := .int (2 ^ 1024 - 2 ^ 970)

theorem observe_render_nestedObject_and_farInteger :
    (Json.Everywhere Json.IsPlain nestedObject ∧ nestedObject ≠ .null ∧
      ∀ p : Profile, p.observe (.text nestedObject.render) = p.observe nestedObject ∧
        (Value.text nestedObject.render).isStructured = true) ∧
    Json.Everywhere Json.IsPlain farInteger ∧ farInteger ≠ .null ∧
      ∀ p : Profile, p.observe (.text farInteger.render) = p.observe farInteger ∧
        farInteger.number? = none ∧ (Value.text farInteger.render).number? = none := by
  have hobject : Json.Everywhere Json.IsPlain nestedObject := by
    have hseven : Json.IsShort (.int (-7)) := by decide
    have hkeys : Json.HasDistinctKeys nestedObject :=
      show ["ids".toList, "note".toList].Nodup by decide
    exact ⟨⟨trivial, hkeys⟩,
      ⟨⟨trivial, trivial⟩, ⟨hseven, trivial⟩, ⟨trivial, trivial⟩, ⟨trivial, trivial⟩, trivial⟩,
      ⟨trivial, trivial⟩, trivial⟩
  have hinteger : Json.Everywhere Json.IsPlain farInteger :=
    ⟨Json.isShort_int_iff.mpr (by decide +kernel), trivial⟩
  have hnull : nestedObject ≠ .null := nofun
  have hnull' : farInteger ≠ .null := nofun
  refine ⟨⟨hobject, hnull, fun p => ?_⟩, hinteger, hnull', fun p => ?_⟩
  · obtain ⟨hobserve, hnested, -⟩ := observe_render p hobject hnull
    exact ⟨hobserve, hnested rfl⟩
  · obtain ⟨hobserve, -, hfar⟩ := observe_render p hinteger hnull'
    exact ⟨hobserve, hfar _ rfl (by decide +kernel)⟩

end SchemaMill
