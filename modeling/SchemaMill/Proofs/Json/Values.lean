import SchemaMill.Proofs.Json.Scalars
import SchemaMill.Proofs.Record.Fields

/-!
# Reading values back

A text reads as a value if it is read as it before anything that does not go on with a number, by
every call that has more fuel than the text has characters (`ReadsAs`). Items that read as values
make an array that reads as these, whatever blanks stand between them, and fields make an object
(`readsAs_array`, `readsAs_object`). So the text of a value without doubles, whose integers are not
too long and whose objects have distinct keys, reads as the value, be it indented or on one line
(`readsAs_printIndented`, `readsAs_print`).
-/

namespace SchemaMill.Json

/-! ### Blanks -/

/-- Whether a text consists of JSON blanks. -/
def AreSpaces (blanks : Text) : Prop := ∀ c ∈ blanks, isSpace c = true

section Spaces

variable {blanks rest : Text} {c : Char}

theorem AreSpaces.skipSpace_append (h : AreSpaces blanks) (rest : Text) :
    skipSpace (blanks ++ rest) = skipSpace rest :=
  List.dropWhile_append_of_pos h

theorem skipSpace_cons (h : isSpace c = false) (rest : Text) :
    skipSpace (c :: rest) = c :: rest := by
  rw [skipSpace, List.dropWhile_cons_of_neg (by simp [h])]

theorem endsNumber_cons (hdigit : c.isDigit = false) (hsign : c ≠ '.' ∧ c ≠ 'e' ∧ c ≠ 'E')
    (rest : Text) : EndsNumber (c :: rest) := by
  intro d hd
  cases hd
  exact ⟨hdigit, hsign⟩

theorem AreSpaces.endsNumber (h : AreSpaces blanks) (hrest : EndsNumber rest) :
    EndsNumber (blanks ++ rest) := by
  cases blanks with
  | nil => exact hrest
  | cons b blanks =>
    have hb := h b List.mem_cons_self
    simp only [isSpace, Bool.or_eq_true, beq_iff_eq] at hb
    rcases hb with ((rfl | rfl) | rfl) | rfl <;> exact endsNumber_cons (by decide) (by decide) _

end Spaces

/-! ### Texts that read as values -/

/-- Whether a text is read as a value, whatever stands behind it. -/
structure ReadsAs (t : Text) (v : Value) : Prop where
  begins : ∃ c rest, t = c :: rest ∧ c.toNat < 128 ∧ isSpace c = false ∧ c ≠ ']'
  reads : ∀ fuel rest, t.length < fuel → EndsNumber rest →
    readValue fuel (t ++ rest) = .ok (v, rest)

/-- Whether a text is a key and a text that reads as a value. -/
def ReadsAsField (t : Text) (f : Text × Value) : Prop :=
  ∃ blanks u, AreSpaces blanks ∧ t = quoted f.1 ++ ':' :: blanks ++ u ∧ ReadsAs u f.2

/-- A call with no fuel reads no text, so only the others have to be looked at. -/
theorem ReadsAs.of_succ {t : Text} {v : Value}
    (hbegins : ∃ c rest, t = c :: rest ∧ c.toNat < 128 ∧ isSpace c = false ∧ c ≠ ']')
    (hreads : ∀ fuel rest, t.length ≤ fuel → EndsNumber rest →
      readValue (fuel + 1) (t ++ rest) = .ok (v, rest)) : ReadsAs t v where
  begins := hbegins
  reads := by
    intro fuel rest hfuel hrest
    obtain ⟨fuel, rfl⟩ : ∃ n, fuel = n + 1 := ⟨fuel - 1, by omega⟩
    exact hreads fuel rest (by omega) hrest

theorem ReadsAs.skipSpace_append {t : Text} {v : Value} (h : ReadsAs t v) (rest : Text) :
    skipSpace (t ++ rest) = t ++ rest := by
  obtain ⟨c, t, rfl, -, hspace, -⟩ := h.begins
  exact skipSpace_cons hspace _

theorem ReadsAs.length_pos {t : Text} {v : Value} (h : ReadsAs t v) : 0 < t.length := by
  obtain ⟨c, t, rfl, -⟩ := h.begins
  exact Nat.succ_pos _

/-! ### Scalars -/

/-- What begins neither a text nor an array nor an object is a word or a number. -/
theorem readValue_of_scalar {c : Char} (hquote : c ≠ '"') (hbracket : c ≠ '[') (hbrace : c ≠ '\x7b')
    (fuel : Nat) (t : Text) : readValue (fuel + 1) (c :: t) =
      ((readConstant? (c :: t)).map .ok).getD (readNumber (c :: t)) := by
  rw [readValue.eq_def]
  dsimp only
  split
  · next heq => cases heq; exact absurd rfl hquote
  · next heq => cases heq; exact absurd rfl hbracket
  · next heq => cases heq; exact absurd rfl hbrace
  · cases readConstant? (c :: t) <;> rfl

theorem quoted_append (t rest : Text) :
    quoted t ++ rest = '"' :: (t.flatMap escaped ++ '"' :: rest) := by
  simp [quoted]

theorem readsAs_quoted (t : Text) : ReadsAs (quoted t) (.text t) := by
  refine .of_succ ⟨'"', _, rfl, by decide, by decide, by decide⟩ fun fuel rest _ _ => ?_
  rw [quoted_append, readValue, readQuoted_flatMap]
  rfl

theorem readsAs_scalar {t : Text} {v : Value} (c : Char) (more : Text) (ht : t = c :: more)
    (hc : c.toNat < 128 ∧ c ≠ '"' ∧ c ≠ '[' ∧ c ≠ '\x7b' ∧ c ≠ ']' ∧ isSpace c = false)
    (hread : ∀ rest, EndsNumber rest → readConstant? (t ++ rest) = some (v, rest) ∨
      readConstant? (t ++ rest) = none ∧ readNumber (t ++ rest) = .ok (v, rest)) :
    ReadsAs t v := by
  obtain ⟨hascii, hquote, hbracket, hbrace, hclose, hspace⟩ := hc
  refine .of_succ ⟨c, more, ht, hascii, hspace, hclose⟩ fun fuel rest _ hrest => ?_
  have hcons : t ++ rest = c :: (more ++ rest) := by rw [ht]; rfl
  have hvalue := readValue_of_scalar hquote hbracket hbrace fuel (more ++ rest)
  rw [← hcons] at hvalue
  rcases hread rest hrest with hfound | ⟨hnone, hnumber⟩
  · rw [hvalue, hfound, Option.map_some, Option.getD_some]
  · rw [hvalue, hnone, Option.map_none, Option.getD_none, hnumber]

theorem readsAs_null : ReadsAs "null" .null :=
  readsAs_scalar 'n' _ rfl (by decide) fun rest _ => .inl rfl

theorem readsAs_bool (b : Bool) : ReadsAs (if b then "true" else "false") (.bool b) := by
  cases b with
  | true => exact readsAs_scalar 't' _ rfl (by decide) fun rest _ => .inl rfl
  | false => exact readsAs_scalar 'f' _ rfl (by decide) fun rest _ => .inl rfl

theorem ne_of_isDigit {c d : Char} (hc : c.isDigit = true) (hd : d.isDigit = false) : d ≠ c := by
  rintro rfl
  rw [hd] at hc
  cases hc

theorem readConstant?_of_isDigit {c : Char} (hc : c.isDigit = true) (t : Text) :
    readConstant? (c :: t) = none := by
  simp [readConstant?, constants, dropPrefix?, ne_of_isDigit hc]

theorem readConstant?_of_minus {d : Char} (hd : d.isDigit = true) (t : Text) :
    readConstant? ('-' :: d :: t) = none := by
  simp [readConstant?, constants, dropPrefix?, ne_of_isDigit hd]

theorem ascii_of_isDigit {c : Char} (hc : c.isDigit = true) :
    c.toNat < 128 ∧ isSpace c = false := by
  obtain ⟨hlow, hhigh⟩ := toNat_of_isDigit hc
  refine ⟨by omega, ?_⟩
  simp only [isSpace, Bool.or_eq_false_iff, beq_eq_false_iff_ne]
  refine ⟨⟨⟨?_, ?_⟩, ?_⟩, ?_⟩ <;> rintro rfl <;> exact absurd hlow (by decide)

theorem readsAs_int {n : Int} (hn : (decimal n.natAbs).length ≤ integerLimit) :
    ReadsAs (decimalInt n) (.int n) := by
  have hnumber : ∀ rest, EndsNumber rest →
      readNumber (decimalInt n ++ rest) = .ok (.int n, rest) := fun rest hrest =>
    readNumber_decimalInt hn hrest
  cases n with
  | ofNat m =>
    obtain ⟨c, more, hm, hc⟩ := decimal_eq_cons m
    obtain ⟨hascii, hspace⟩ := ascii_of_isDigit hc
    refine readsAs_scalar c more hm ⟨hascii, ?_, ?_, ?_, ?_, hspace⟩ fun rest hrest =>
      .inr ⟨?_, hnumber rest hrest⟩
    iterate 4 exact (ne_of_isDigit hc (by decide)).symm
    rw [decimalInt, hm]
    exact readConstant?_of_isDigit hc _
  | negSucc m =>
    obtain ⟨d, more, hm, hd⟩ := decimal_eq_cons (m + 1)
    refine readsAs_scalar '-' _ rfl (by decide) fun rest hrest => .inr ⟨?_, hnumber rest hrest⟩
    rw [decimalInt, hm]
    exact readConstant?_of_minus hd _

/-! ### Arrays -/

section Containers

variable {t blanks before after : Text} {v : Value} {fuel : Nat}

theorem ReadsAs.readItems_last (h : ReadsAs t v) (hafter : AreSpaces after)
    (hfuel : t.length < fuel) (taken : List Value) (rest : Text) :
    readItems (fuel + 1) taken (t ++ (after ++ ']' :: rest)) =
      .ok (.array (v :: taken).reverse, rest) := by
  have hend : EndsNumber (after ++ ']' :: rest) :=
    hafter.endsNumber (endsNumber_cons (by decide) (by decide) rest)
  rw [readItems, h.reads fuel _ hfuel hend]
  dsimp only
  rw [hafter.skipSpace_append, skipSpace_cons (by decide)]
  rfl

theorem ReadsAs.readItems_more (h : ReadsAs t v) (hblanks : AreSpaces blanks)
    (hfuel : t.length < fuel) (taken : List Value) (more : Text) :
    readItems (fuel + 1) taken (t ++ (',' :: blanks ++ more)) =
      readItems fuel (v :: taken) (skipSpace more) := by
  rw [readItems, List.cons_append, h.reads fuel _ hfuel (endsNumber_cons (by decide) (by decide) _)]
  dsimp only
  rw [skipSpace_cons (by decide)]
  show readItems fuel (v :: taken) (skipSpace (blanks ++ more)) = _
  rw [hblanks.skipSpace_append]

theorem readItems_joinWith {texts : List Text} {values : List Value}
    (h : List.Forall₂ ReadsAs texts values) (hne : texts ≠ []) (hblanks : AreSpaces blanks)
    (hafter : AreSpaces after) (hfuel : (joinWith (',' :: blanks) texts).length + 1 < fuel)
    (taken : List Value) (rest : Text) :
    readItems fuel taken (joinWith (',' :: blanks) texts ++ (after ++ ']' :: rest)) =
      .ok (.array (taken.reverse ++ values), rest) := by
  induction h generalizing fuel taken with
  | nil => exact absurd rfl hne
  | @cons t v texts values ht htexts ih =>
    obtain ⟨fuel, rfl⟩ : ∃ n, fuel = n + 1 := ⟨fuel - 1, by omega⟩
    cases htexts with
    | nil =>
      rw [joinWith] at hfuel ⊢
      rw [ht.readItems_last hafter (by omega), List.reverse_cons]
    | @cons t' v' texts values ht' htexts =>
      have hjoin : joinWith (',' :: blanks) (t :: t' :: texts) =
          t ++ (',' :: blanks) ++ joinWith (',' :: blanks) (t' :: texts) := rfl
      have hnext : skipSpace (joinWith (',' :: blanks) (t' :: texts) ++ (after ++ ']' :: rest)) =
          joinWith (',' :: blanks) (t' :: texts) ++ (after ++ ']' :: rest) := by
        obtain ⟨c, t', rfl, -, hspace, -⟩ := ht'.begins
        cases texts <;> exact skipSpace_cons hspace _
      have hpos := ht.length_pos
      rw [hjoin] at hfuel ⊢
      simp only [List.length_append, List.length_cons] at hfuel
      rw [List.append_assoc, List.append_assoc, ht.readItems_more hblanks (by omega), hnext,
        ih (List.cons_ne_nil _ _) (by omega), List.reverse_cons, List.append_assoc,
        List.singleton_append]

/-- Items between brackets, with any blanks in between, read as an array. -/
theorem readsAs_array {texts : List Text} {values : List Value}
    (h : List.Forall₂ ReadsAs texts values) (hne : texts ≠ []) (hbefore : AreSpaces before)
    (hblanks : AreSpaces blanks) (hafter : AreSpaces after) :
    ReadsAs ('[' :: before ++ joinWith (',' :: blanks) texts ++ after ++ [']'])
      (.array values) := by
  refine .of_succ ⟨'[', _, rfl, by decide, by decide, by decide⟩ fun fuel rest hfuel _ => ?_
  simp only [List.length_append, List.length_cons, List.length_nil] at hfuel
  obtain ⟨c, more, hmore, hspace, hclose⟩ : ∃ c more, joinWith (',' :: blanks) texts =
      c :: more ∧ isSpace c = false ∧ c ≠ ']' := by
    cases h with
    | nil => exact absurd rfl hne
    | @cons t v texts values ht htexts =>
      obtain ⟨c, t, rfl, -, hspace, hclose⟩ := ht.begins
      cases texts <;> exact ⟨c, _, rfl, hspace, hclose⟩
  have hread := readItems_joinWith h hne hblanks hafter
    (show (joinWith (',' :: blanks) texts).length + 1 < fuel by omega) [] rest
  have hsplit : '[' :: before ++ joinWith (',' :: blanks) texts ++ after ++ [']'] ++ rest =
      '[' :: (before ++ (joinWith (',' :: blanks) texts ++ (after ++ ']' :: rest))) := by simp
  rw [hsplit, readValue, hbefore.skipSpace_append]
  rw [hmore] at hread ⊢
  rw [List.cons_append, skipSpace_cons hspace]
  split
  · next heq => cases heq; exact absurd rfl hclose
  · exact hread

/-! ### Objects -/

variable {f : Text × Value}

theorem ReadsAsField.begins (h : ReadsAsField t f) : ∃ rest, t = '"' :: rest := by
  obtain ⟨blanks, u, -, rfl, -⟩ := h
  exact ⟨_, rfl⟩

theorem ReadsAsField.readFields_last (h : ReadsAsField t f) (hafter : AreSpaces after)
    (hfuel : t.length < fuel) (there : List (Text × Value)) (rest : Text) :
    readFields (fuel + 1) there (t ++ (after ++ '\x7d' :: rest)) =
      .ok (.object (setField f.1 f.2 there), rest) := by
  obtain ⟨blanks, u, hblanks, rfl, hu⟩ := h
  simp only [List.length_append] at hfuel
  have hend : EndsNumber (after ++ '\x7d' :: rest) :=
    hafter.endsNumber (endsNumber_cons (by decide) (by decide) rest)
  have hcolon := skipSpace_cons (c := ':') (by decide)
  have hbrace := skipSpace_cons (c := '\x7d') (by decide)
  rw [List.append_assoc, List.append_assoc, quoted_append, readFields, readQuoted_flatMap]
  simp only [List.cons_append, hcolon, hblanks.skipSpace_append, hu.skipSpace_append,
    hu.reads fuel _ (by omega) hend, hafter.skipSpace_append, hbrace]

theorem ReadsAsField.readFields_more (h : ReadsAsField t f) (hblanks : AreSpaces blanks)
    (hfuel : t.length < fuel) (there : List (Text × Value)) (more : Text) :
    readFields (fuel + 1) there (t ++ (',' :: blanks ++ more)) =
      readFields fuel (setField f.1 f.2 there) (skipSpace more) := by
  obtain ⟨space, u, hspace, rfl, hu⟩ := h
  simp only [List.length_append] at hfuel
  have hend : EndsNumber (',' :: (blanks ++ more)) :=
    endsNumber_cons (by decide) (by decide) _
  have hcolon := skipSpace_cons (c := ':') (by decide)
  have hcomma := skipSpace_cons (c := ',') (by decide)
  rw [List.append_assoc, List.append_assoc, quoted_append, readFields, readQuoted_flatMap]
  simp only [List.cons_append, hcolon, hspace.skipSpace_append, hu.skipSpace_append,
    hu.reads fuel _ (by omega) hend, hcomma, hblanks.skipSpace_append]

theorem readFields_joinWith {texts : List Text} {fields : List (Text × Value)}
    (h : List.Forall₂ ReadsAsField texts fields) (hne : texts ≠ []) (hblanks : AreSpaces blanks)
    (hafter : AreSpaces after) (hfuel : (joinWith (',' :: blanks) texts).length + 1 < fuel)
    (there : List (Text × Value)) (rest : Text) :
    readFields fuel there (joinWith (',' :: blanks) texts ++ (after ++ '\x7d' :: rest)) =
      .ok (.object (setFields fields there), rest) := by
  induction h generalizing fuel there with
  | nil => exact absurd rfl hne
  | @cons t f texts fields ht htexts ih =>
    obtain ⟨fuel, rfl⟩ : ∃ n, fuel = n + 1 := ⟨fuel - 1, by omega⟩
    cases htexts with
    | nil =>
      rw [joinWith] at hfuel ⊢
      exact ht.readFields_last hafter (by omega) there rest
    | @cons t' f' texts fields ht' htexts =>
      have hjoin : joinWith (',' :: blanks) (t :: t' :: texts) =
          t ++ (',' :: blanks) ++ joinWith (',' :: blanks) (t' :: texts) := rfl
      have hnext : skipSpace (joinWith (',' :: blanks) (t' :: texts) ++ (after ++ '\x7d' :: rest)) =
          joinWith (',' :: blanks) (t' :: texts) ++ (after ++ '\x7d' :: rest) := by
        obtain ⟨t', rfl⟩ := ht'.begins
        cases texts <;> exact skipSpace_cons (by decide) _
      have hpos : 0 < t.length := by
        obtain ⟨t, rfl⟩ := ht.begins
        exact Nat.succ_pos _
      rw [hjoin] at hfuel ⊢
      simp only [List.length_append, List.length_cons] at hfuel
      rw [List.append_assoc, List.append_assoc, ht.readFields_more hblanks (by omega), hnext,
        ih (List.cons_ne_nil _ _) (by omega)]
      rfl

/-- Fields between braces, with any blanks in between, read as an object. -/
theorem readsAs_object {texts : List Text} {fields : List (Text × Value)}
    (h : List.Forall₂ ReadsAsField texts fields) (hne : texts ≠ []) (hbefore : AreSpaces before)
    (hblanks : AreSpaces blanks) (hafter : AreSpaces after) :
    ReadsAs ('\x7b' :: before ++ joinWith (',' :: blanks) texts ++ after ++ ['\x7d'])
      (.object (fieldsOf fields)) := by
  refine .of_succ ⟨'\x7b', _, rfl, by decide, by decide, by decide⟩ fun fuel rest hfuel _ => ?_
  simp only [List.length_append, List.length_cons, List.length_nil] at hfuel
  obtain ⟨more, hmore⟩ : ∃ more, joinWith (',' :: blanks) texts = '"' :: more := by
    cases h with
    | nil => exact absurd rfl hne
    | @cons t f texts fields ht htexts =>
      obtain ⟨t, rfl⟩ := ht.begins
      cases texts <;> exact ⟨_, rfl⟩
  have hread := readFields_joinWith h hne hblanks hafter
    (show (joinWith (',' :: blanks) texts).length + 1 < fuel by omega) [] rest
  have hsplit : '\x7b' :: before ++ joinWith (',' :: blanks) texts ++ after ++ ['\x7d'] ++ rest =
      '\x7b' :: (before ++ (joinWith (',' :: blanks) texts ++ (after ++ '\x7d' :: rest))) := by
    simp
  rw [hsplit, readValue, hbefore.skipSpace_append]
  rw [hmore] at hread ⊢
  rw [List.cons_append, skipSpace_cons (by decide)]
  exact hread

end Containers

/-! ### Indented text -/

theorem areSpaces_newline (depth : Nat) : AreSpaces (newline depth) := by
  intro c hc
  rcases List.mem_cons.mp hc with rfl | hc
  · rfl
  · rw [List.eq_of_mem_replicate hc]
    rfl

theorem readsAs_block_array {texts : List Text} {values : List Value}
    (h : List.Forall₂ ReadsAs texts values) (depth : Nat) :
    ReadsAs (block depth '[' ']' texts) (.array values) := by
  unfold block
  split
  · next hnone =>
    obtain rfl := List.isEmpty_iff.mp hnone
    cases h
    exact .of_succ ⟨'[', _, rfl, by decide, by decide, by decide⟩ fun _ _ _ _ => rfl
  · next hsome =>
    exact readsAs_array h (fun hnil => hsome (by rw [hnil]; rfl)) (areSpaces_newline _)
      (areSpaces_newline _) (areSpaces_newline _)

theorem readsAs_block_object {texts : List Text} {fields : List (Text × Value)}
    (h : List.Forall₂ ReadsAsField texts fields) (depth : Nat) :
    ReadsAs (block depth '\x7b' '\x7d' texts) (.object (fieldsOf fields)) := by
  unfold block
  split
  · next hnone =>
    obtain rfl := List.isEmpty_iff.mp hnone
    cases h
    exact .of_succ ⟨'\x7b', _, rfl, by decide, by decide, by decide⟩ fun _ _ _ _ => rfl
  · next hsome =>
    exact readsAs_object h (fun hnil => hsome (by rw [hnil]; rfl)) (areSpaces_newline _)
      (areSpaces_newline _) (areSpaces_newline _)

/-! ### Values that are read back -/

mutual

/-- Whether something holds of a value and of all values inside it. -/
def Everywhere (p : Value → Prop) : Value → Prop
  | .array items => p (.array items) ∧ EverywhereInItems p items
  | .object fields => p (.object fields) ∧ EverywhereInFields p fields
  | v => p v

/-- The same of several values. -/
def EverywhereInItems (p : Value → Prop) : List Value → Prop
  | [] => True
  | v :: rest => Everywhere p v ∧ EverywhereInItems p rest

/-- The same of the values of several fields. -/
def EverywhereInFields (p : Value → Prop) : List (Text × Value) → Prop
  | [] => True
  | (_, v) :: rest => Everywhere p v ∧ EverywhereInFields p rest

end

/-- Whether a value, if it is a number, is an integer that is not too long to be read. -/
def IsShort : Value → Prop
  | .int n => (decimal n.natAbs).length ≤ integerLimit
  | .double _ => False
  | _ => True

instance : DecidablePred IsShort
  | .int n => inferInstanceAs (Decidable ((decimal n.natAbs).length ≤ integerLimit))
  | .double _ => isFalse not_false
  | .null => isTrue trivial
  | .bool _ => isTrue trivial
  | .text _ => isTrue trivial
  | .array _ => isTrue trivial
  | .object _ => isTrue trivial

theorem isShort_int_iff {n : Int} : IsShort (.int n) ↔ n.natAbs < 10 ^ integerLimit :=
  Nat.length_toDigits_le_iff (by decide) (by decide)

/-- Whether a value, if it is an object, has distinct keys. -/
def HasDistinctKeys : Value → Prop
  | .object fields => (fields.map Prod.fst).Nodup
  | _ => True

/-- Whether a value is read back from its text as far as the values inside it are. -/
def IsPlain (v : Value) : Prop := IsShort v ∧ HasDistinctKeys v

mutual

/-- The indented text of a value reads as it. -/
theorem readsAs_printIndented (depth : Nat) :
    ∀ v, Everywhere IsPlain v → ReadsAs (printIndented depth v) v
  | .null, _ => readsAs_null
  | .bool b, _ => readsAs_bool b
  | .int _, h => readsAs_int h.1
  | .double _, h => absurd h.1 not_false
  | .text t, _ => readsAs_quoted t
  | .array items, h => readsAs_block_array (readsAs_printItemsIndented (depth + 1) items h.2) depth
  | .object fields, h => by
    have hread := readsAs_block_object (readsAs_printFieldsIndented (depth + 1) fields h.2) depth
    rwa [fieldsOf_of_nodup h.1.2] at hread

theorem readsAs_printItemsIndented (depth : Nat) : ∀ items, EverywhereInItems IsPlain items →
    List.Forall₂ ReadsAs (printItemsIndented depth items) items
  | [], _ => .nil
  | v :: rest, h =>
    .cons (readsAs_printIndented depth v h.1) (readsAs_printItemsIndented depth rest h.2)

theorem readsAs_printFieldsIndented (depth : Nat) : ∀ fields, EverywhereInFields IsPlain fields →
    List.Forall₂ ReadsAsField (printFieldsIndented depth fields) fields
  | [], _ => .nil
  | (_, v) :: rest, h =>
    .cons ⟨[' '], printIndented depth v, List.forall_mem_singleton.mpr rfl, by simp [quoted],
      readsAs_printIndented depth v h.1⟩ (readsAs_printFieldsIndented depth rest h.2)

end

/-! ### Text on one line -/

/-- A comma and a colon, each with blanks behind it. -/
structure AreSigns (s : Separators) : Prop where
  item : ∃ blanks, AreSpaces blanks ∧ s.item = ',' :: blanks
  key : ∃ blanks, AreSpaces blanks ∧ s.key = ':' :: blanks

theorem areSpaces_nil : AreSpaces [] := List.forall_mem_nil _

theorem areSigns_tight : AreSigns tight :=
  ⟨⟨[], areSpaces_nil, rfl⟩, ⟨[], areSpaces_nil, rfl⟩⟩

section Signs

variable {s : Separators} {texts : List Text}

theorem readsAs_enclosed_array (hs : AreSigns s) {values : List Value}
    (h : List.Forall₂ ReadsAs texts values) :
    ReadsAs (enclosed '[' ']' s.item texts) (.array values) := by
  obtain ⟨blanks, hblanks, hitem⟩ := hs.item
  cases h with
  | nil => exact .of_succ ⟨'[', _, rfl, by decide, by decide, by decide⟩ fun _ _ _ _ => rfl
  | cons ht htexts =>
    have hread := readsAs_array (.cons ht htexts) (List.cons_ne_nil _ _) areSpaces_nil hblanks
      areSpaces_nil
    rwa [List.append_nil, ← hitem] at hread

theorem readsAs_enclosed_object (hs : AreSigns s) {fields : List (Text × Value)}
    (h : List.Forall₂ ReadsAsField texts fields) :
    ReadsAs (enclosed '\x7b' '\x7d' s.item texts) (.object (fieldsOf fields)) := by
  obtain ⟨blanks, hblanks, hitem⟩ := hs.item
  cases h with
  | nil => exact .of_succ ⟨'\x7b', _, rfl, by decide, by decide, by decide⟩ fun _ _ _ _ => rfl
  | cons ht htexts =>
    have hread := readsAs_object (.cons ht htexts) (List.cons_ne_nil _ _) areSpaces_nil hblanks
      areSpaces_nil
    rwa [List.append_nil, ← hitem] at hread

mutual

/-- The text of a value on one line reads as it. -/
theorem readsAs_print (hs : AreSigns s) : ∀ v, Everywhere IsPlain v → ReadsAs (print s v) v
  | .null, _ => readsAs_null
  | .bool b, _ => readsAs_bool b
  | .int _, h => readsAs_int h.1
  | .double _, h => absurd h.1 not_false
  | .text t, _ => readsAs_quoted t
  | .array items, h => readsAs_enclosed_array hs (readsAs_printItems hs items h.2)
  | .object fields, h => by
    have hread := readsAs_enclosed_object hs (readsAs_printFields hs fields h.2)
    rwa [fieldsOf_of_nodup h.1.2] at hread

theorem readsAs_printItems (hs : AreSigns s) : ∀ items, EverywhereInItems IsPlain items →
    List.Forall₂ ReadsAs (printItems s items) items
  | [], _ => .nil
  | v :: rest, h => .cons (readsAs_print hs v h.1) (readsAs_printItems hs rest h.2)

theorem readsAs_printFields (hs : AreSigns s) : ∀ fields, EverywhereInFields IsPlain fields →
    List.Forall₂ ReadsAsField (printFields s fields) fields
  | [], _ => .nil
  | (key, v) :: rest, h => by
    obtain ⟨blanks, hblanks, hkey⟩ := hs.key
    refine .cons ⟨blanks, print s v, hblanks, ?_, readsAs_print hs v h.1⟩
      (readsAs_printFields hs rest h.2)
    rw [hkey, List.append_assoc]

end

end Signs

/-! ### Whole texts -/

theorem ReadsAs.read_append {t : Text} {v : Value} (h : ReadsAs t v) {after : Text}
    (hafter : AreSpaces after) : read (t ++ after) = .ok v := by
  obtain ⟨c, more, hcons, hascii, -⟩ := h.begins
  have hmark : ((t ++ after).head? == some '\uFEFF') = false := by
    rw [hcons, beq_eq_false_iff_ne]
    intro hhead
    cases hhead
    exact absurd hascii (by decide)
  have hend : EndsNumber after := by
    have hnil : EndsNumber [] := fun c hc => by cases hc
    rw [← List.append_nil after]
    exact hafter.endsNumber hnil
  have hnothing : skipSpace after = [] := by
    rw [← List.append_nil after, hafter.skipSpace_append]
    rfl
  have hlength : t.length < 2 * (t ++ after).length + 2 := by
    rw [List.length_append]
    omega
  rw [read, hmark, if_neg Bool.false_ne_true, h.skipSpace_append, h.reads _ _ hlength hend]
  dsimp only
  rw [hnothing]

end SchemaMill.Json
