import Mathlib.Data.Multiset.Basic
import SchemaMill.Proofs.Order.Merge
import SchemaMill.Proofs.Script.Lines

/-!
# Joined dumps

A line feed behind a text ends its last line and nothing else, whatever line break the text ends in
itself: it may make one break with a carriage return, or leave a blank line (`lines_append_break`).
So joined texts have the lines of their parts that belong to statements
(`contentLines_append_feed`), and behind a text that leaves no statement open the next one is cut as
it is cut alone (`ofText_append_feed`).

The conversion goes from statement to statement with the registry, and does not notice where one
text ends and the next one begins. So a merge of several dumps gives what the conversion of the
joined dumps gives (`mergeDumps_eq_convertOne_joinLines`). Only notices can come in another order,
since an unterminated statement is told of before the statements of its own text are converted.
-/

namespace SchemaMill

/-! ### Lines -/

theorem lines_cons_of_break {c : Char} {t : Text} (hc : isLineBreak c)
    (hpair : c = '\r' → t.head? ≠ some '\n') : lines (c :: t) = [] :: lines t := by
  rw [lines, if_pos hc]
  rintro rest rfl rfl
  exact hpair rfl rfl

theorem lines_cons_of_not_break {c : Char} {t : Text} (hc : ¬isLineBreak c) :
    lines (c :: t) = (c :: (lines t).headD []) :: (lines t).tail := by
  rw [lines, if_neg hc]
  · cases lines t <;> rfl
  · rintro rest rfl
    exact absurd (by decide) hc

/-- Behind a text, a line feed ends the last line, makes one break with a carriage return, or ends a
line of its own. -/
theorem lines_append_break (t r : Text) :
    lines (t ++ '\n' :: r) = lines t ++ lines r ∨
      lines (t ++ '\n' :: r) = lines t ++ [] :: lines r := by
  fun_induction lines t with
  | case1 => exact .inr rfl
  | case2 rest ih =>
    have hcons : lines ('\r' :: '\n' :: rest ++ '\n' :: r) = [] :: lines (rest ++ '\n' :: r) := by
      rw [List.cons_append, List.cons_append, lines]
    rw [hcons]
    exact ih.imp (congrArg _) (congrArg _)
  | case3 c rest hpair hc ih =>
    by_cases hreturn : c = '\r' ∧ rest = []
    · obtain ⟨rfl, rfl⟩ := hreturn
      exact .inl rfl
    · rw [List.cons_append, lines_cons_of_break hc]
      · exact ih.imp (congrArg _) (congrArg _)
      · rintro rfl
        cases rest with
        | nil => exact absurd ⟨rfl, rfl⟩ hreturn
        | cons d rest => exact fun hd => hpair rest rfl (by rw [Option.some.inj hd])
  | case4 c rest hpair hc hnil ih =>
    -- the last line has no break
    obtain rfl : rest = [] := by
      by_contra hne
      exact lines_ne_nil hne hnil
    exact .inl (lines_cons_of_not_break hc)
  | case5 c rest hpair hc line more hlines ih =>
    rw [List.cons_append, lines_cons_of_not_break hc]
    rw [hlines] at ih
    rcases ih with ih | ih
    · exact .inl (by rw [ih]; rfl)
    · exact .inr (by rw [ih]; rfl)

end SchemaMill

namespace SchemaMill.Schema

variable {o : Options} {r : Registry} {t : Text}

/-- Joined texts have the lines of both that belong to statements. -/
theorem contentLines_append_feed (t u : Text) :
    contentLines (t ++ '\n' :: u) = contentLines t ++ contentLines u := by
  have hblank : isContent [] = false := rfl
  unfold contentLines
  rcases lines_append_break t u with h | h
  · rw [h, List.filter_append]
  · rw [h, List.filter_append, List.filter_cons_of_neg (by simp [hblank])]

/-! ### Statements -/

/-- Behind lines that leave no statement open, lines are cut as they are cut alone. -/
theorem blocks_append_of_closed {ls : List Text} (h : (blocks ls).2 = []) (rest : List Text) :
    blocks (ls ++ rest) = ((blocks ls).1 ++ (blocks rest).1, (blocks rest).2) := by
  fun_induction blocks ls with
  | case1 => rfl
  | case2 line more hline ih => rw [List.cons_append, blocks, if_pos hline, ih h]; rfl
  | case3 line more hline rest' hmore ih => cases h
  | case4 line more hline block others rest' hmore ih =>
    rw [List.cons_append, blocks, if_neg hline, ih (by rw [hmore]; exact h), hmore]
    rfl

theorem ofText_eq (t : Text) : Script.ofText t =
    ⟨(blocks (contentLines t)).1.map statementText,
      if (blocks (contentLines t)).2 = [] then none
      else some (statementText (blocks (contentLines t)).2)⟩ := by
  unfold Script.ofText
  split
  · next h => simp [h]
  · next rest hrest h => rw [h, if_neg hrest]

/-- Behind a text that leaves no statement open, a text is cut as it is cut alone. -/
theorem ofText_append_feed (h : (Script.ofText t).remainder = none) (u : Text) :
    Script.ofText (t ++ '\n' :: u) =
      ⟨(Script.ofText t).statements ++ (Script.ofText u).statements,
        (Script.ofText u).remainder⟩ := by
  have hclosed : (blocks (contentLines t)).2 = [] := by
    rw [ofText_eq] at h
    by_contra hopen
    simp [hopen] at h
  simp only [ofText_eq, contentLines_append_feed, blocks_append_of_closed hclosed, List.map_append]

theorem splitDump_eq (strict : Bool) (t : Text) : splitDump strict t =
    match (Script.ofText t).remainder with
    | none => .ok ((Script.ofText t).statements, [])
    | some remainder =>
      if strict then .error (.unterminated remainder)
      else .ok ((Script.ofText t).statements, [.unterminated remainder]) :=
  rfl

theorem splitDump_eq_ok_iff {ss : List Text} :
    splitDump true t = .ok (ss, []) ↔ Script.ofText t = ⟨ss, none⟩ := by
  rw [splitDump_eq]
  generalize Script.ofText t = script
  obtain ⟨statements, remainder⟩ := script
  cases remainder <;> simp

theorem exists_splitDump_eq_ok_iff :
    (∃ split, splitDump true t = .ok split) ↔ (Script.ofText t).remainder = none := by
  rw [splitDump_eq]
  cases (Script.ofText t).remainder <;> simp

theorem splitDump_of_closed (h : (Script.ofText t).remainder = none) (strict : Bool) :
    splitDump strict t = .ok ((Script.ofText t).statements, []) := by
  rw [splitDump_eq, h]

theorem splitDump_append_feed (h : (Script.ofText t).remainder = none) (strict : Bool) (u : Text) :
    splitDump strict (t ++ '\n' :: u) =
      (splitDump strict u).map fun split => ((Script.ofText t).statements ++ split.1, split.2) := by
  rw [splitDump_eq, splitDump_eq, ofText_append_feed h]
  cases (Script.ofText u).remainder with
  | none => rfl
  | some remainder => cases strict <;> rfl

/-! ### Conversion -/

theorem convertStatements_append (o : Target) (r : Registry) (xs ys : List Text) :
    convertStatements o r (xs ++ ys) =
      (convertStatements o r xs).andThen fun r => convertStatements o r ys := by
  induction xs generalizing r with
  | nil => rfl
  | cons sql xs ih =>
    simp only [List.cons_append, convertStatements, ih, Outcome.andThen, List.append_assoc]

/-- What an outcome is made of, with its notices in any order. -/
def Outcome.contents (c : Outcome) : List Statement × Registry × Multiset Notice :=
  (c.statements, c.registry, c.notices)

/-- What a result is made of, with its notices in any order. -/
def Result.contents (c : Result) :
    Text × List Statement × Registry × List (Text × Text) × Multiset Notice :=
  (c.document, c.statements, c.registry, c.unresolved, c.notices)

theorem Outcome.contents_andThen (first c : Outcome) :
    (first.andThen fun _ => c).contents =
      (first.statements ++ c.contents.1, c.contents.2.1, first.notices + c.contents.2.2) := rfl

theorem convertDumps_singleton (o : Options) (r : Registry) (t : Text) :
    convertDumps o r [t] = (splitDump o.strictStatements t).map fun split =>
      ⟨(convertStatements o.target r split.1).statements,
        (convertStatements o.target r split.1).registry,
        split.2 ++ (convertStatements o.target r split.1).notices⟩ := by
  rw [convertDumps]
  cases splitDump o.strictStatements t with
  | error e => rfl
  | ok split => simp [convertDumps, Except.map, bind, Except.bind]

/-- Behind a dump that leaves no statement open, dumps are converted from its registry on. -/
theorem convertDumps_cons_of_closed (h : (Script.ofText t).remainder = none) (o : Options)
    (r : Registry) (rest : List Text) :
    convertDumps o r (t :: rest) =
      (convertDumps o (convertStatements o.target r (Script.ofText t).statements).registry
        rest).map fun others =>
          (convertStatements o.target r (Script.ofText t).statements).andThen fun _ => others := by
  rw [convertDumps, splitDump_of_closed h]
  simp only [bind, Except.bind]
  cases convertDumps o (convertStatements o.target r (Script.ofText t).statements).registry rest <;>
    rfl

/-- So is a dump that is joined to it. -/
theorem convertDumps_append_feed (h : (Script.ofText t).remainder = none) (o : Options)
    (r : Registry) (u : Text) :
    (convertDumps o r [t ++ '\n' :: u]).map Outcome.contents =
      (convertDumps o r [t, u]).map Outcome.contents := by
  rw [convertDumps_cons_of_closed h, convertDumps_singleton, convertDumps_singleton,
    splitDump_append_feed h]
  cases splitDump o.strictStatements u with
  | error e => rfl
  | ok split =>
    simp only [Except.map, convertStatements_append, Outcome.contents, Outcome.andThen]
    congr 3
    -- the notices of the first dump come behind those of the cutting
    exact Multiset.coe_eq_coe.mpr (by
      rw [← List.append_assoc, ← List.append_assoc]
      exact List.perm_append_comm.append_right _)

theorem map_andThen_congr {x y : Except Failure Outcome}
    (h : x.map Outcome.contents = y.map Outcome.contents) (first : Outcome) :
    (x.map fun others => first.andThen fun _ => others).map Outcome.contents =
      (y.map fun others => first.andThen fun _ => others).map Outcome.contents := by
  cases x <;> cases y <;> simp_all [Except.map, Outcome.contents_andThen]

/-- Dumps that leave no statement open, and a last one, are converted as the dump that they are when
they are joined. -/
theorem convertDumps_joinLines {rest : List Text}
    (hclosed : ∀ u ∈ (t :: rest).dropLast, (Script.ofText u).remainder = none) (o : Options)
    (r : Registry) :
    (convertDumps o r (t :: rest)).map Outcome.contents =
      (convertDumps o r [joinLines (t :: rest)]).map Outcome.contents := by
  induction rest generalizing t r with
  | nil => rfl
  | cons u rest ih =>
    have ht : (Script.ofText t).remainder = none := hclosed t (by simp)
    have hjoin : joinLines (t :: u :: rest) = t ++ '\n' :: joinLines (u :: rest) := by
      show t ++ ['\n'] ++ joinLines (u :: rest) = _
      simp
    rw [hjoin, convertDumps_append_feed ht, convertDumps_cons_of_closed ht,
      convertDumps_cons_of_closed ht]
    exact map_andThen_congr (ih (fun v hv => hclosed v (List.mem_cons_of_mem t hv)) _) _

/-! ### Documents -/

/-- The result of dumps that were converted. -/
def Outcome.result (o : Options) (now : Moment) (c : Outcome) : Except Failure Result := do
  let arrangement ← arrangeFor o c.statements c.registry
  match now.timestamp? with
  | none => .error .untimely
  | some timestamp =>
    .ok {
      document := document o.target.dialect o.target.charset timestamp
        (arrangement.statements.map (·.text))
      statements := arrangement.statements
      registry := c.registry
      unresolved := arrangement.unresolved
      notices := c.notices ++ arrangement.issues.map Issue.notice }

theorem convert_eq (o : Options) (now : Moment) (texts : List Text) :
    convert o now texts = convertDumps o .empty texts >>= Outcome.result o now := rfl

/-- The order of the notices matters to nothing else in a result. -/
theorem map_contents_result {c c' : Outcome} (h : c.contents = c'.contents) (o : Options)
    (now : Moment) :
    (c.result o now).map Result.contents = (c'.result o now).map Result.contents := by
  obtain ⟨statements, registry, notices⟩ := c
  obtain ⟨statements', registry', notices'⟩ := c'
  simp only [Outcome.contents, Prod.mk.injEq, Multiset.coe_eq_coe] at h
  obtain ⟨rfl, rfl, hnotices⟩ := h
  simp only [Outcome.result, bind, Except.bind]
  cases arrangeFor o statements registry with
  | error e => rfl
  | ok a =>
    cases now.timestamp? with
    | none => rfl
    | some timestamp =>
      simp only [Except.map, Result.contents]
      congr 5
      exact Multiset.coe_eq_coe.mpr (hnotices.append_right _)

theorem map_contents_convert {texts texts' : List Text}
    (h : (convertDumps o .empty texts).map Outcome.contents =
      (convertDumps o .empty texts').map Outcome.contents) (now : Moment) :
    (convert o now texts).map Result.contents = (convert o now texts').map Result.contents := by
  rw [convert_eq, convert_eq]
  cases hx : convertDumps o .empty texts with
  | error e =>
    cases hy : convertDumps o .empty texts' with
    | error e' => simp_all [Except.map, bind, Except.bind]
    | ok c' => simp [hx, hy, Except.map] at h
  | ok c =>
    cases hy : convertDumps o .empty texts' with
    | error e' => simp [hx, hy, Except.map] at h
    | ok c' =>
      rw [hx, hy] at h
      exact map_contents_result (Except.ok.inj h) o now

/-- A merge of dumps, none of which leaves a statement open but the last one, and the conversion of
the dump that they are when they are joined with line feeds, either fail in the same way or give the
same document, statements, registry and unresolved references, and the same notices, maybe in
another order. -/
theorem mergeDumps_eq_convertOne_joinLines (hmerge : o.merge = true) (now : Moment)
    {texts : List Text} (hclosed : ∀ t ∈ texts.dropLast, ∃ split, splitDump true t = .ok split) :
    (mergeDumps o now texts).map Result.contents =
      (convertOne o now (joinLines texts)).map Result.contents := by
  have hoptions : { o with merge := true } = o := by rw [← hmerge]
  rw [mergeDumps, hoptions, convertOne]
  refine map_contents_convert ?_ now
  cases texts with
  | nil => rfl
  | cons t rest =>
    exact convertDumps_joinLines (fun u hu => exists_splitDump_eq_ok_iff.mp (hclosed u hu)) o .empty

/-- Two dumps of which the first one ends in a carriage return and references a table of the second,
which ends inside a statement. -/
def halves : List Text :=
  ["CREATE TABLE b (x INT REFERENCES a(y));\r", "CREATE TABLE a (y INT);\nSELECT 1"]

/-- The merge of the two and the conversion of the whole succeed with the same document. -/
theorem mergeDumps_eq_convertOne_joinLines_halves :
    (∀ t ∈ halves.dropLast, ∃ split, splitDump true t = .ok split) ∧
      ∃ result result', mergeDumps { merge := true } twoDumpsMoment halves = .ok result ∧
        convertOne { merge := true } twoDumpsMoment
          "CREATE TABLE b (x INT REFERENCES a(y));\r\nCREATE TABLE a (y INT);\nSELECT 1" =
            .ok result' ∧
        result.document = result'.document ∧ result.registry = result'.registry := by
  have hfirst : ∀ t ∈ halves.dropLast, (Script.ofText t).remainder = none := by decide +kernel
  have hclosed : ∀ t ∈ halves.dropLast, ∃ split, splitDump true t = .ok split := fun t ht =>
    exists_splitDump_eq_ok_iff.mpr (hfirst t ht)
  obtain ⟨result, hresult⟩ := exists_mergeDumps_eq_ok (o := { merge := true }) rfl rfl
    timestamp?_twoDumpsMoment halves
  have hsame := mergeDumps_eq_convertOne_joinLines (o := { merge := true }) rfl twoDumpsMoment
    hclosed
  rw [hresult] at hsame
  cases hresult' : convertOne { merge := true } twoDumpsMoment (joinLines halves) with
  | error e => rw [hresult'] at hsame; cases hsame
  | ok result' =>
    rw [hresult'] at hsame
    have hcontents := Except.ok.inj hsame
    simp only [Result.contents, Prod.mk.injEq] at hcontents
    obtain ⟨hdocument, -, hregistry, -⟩ := hcontents
    exact ⟨hclosed, result, result', hresult, hresult', hdocument, hregistry⟩

end SchemaMill.Schema
