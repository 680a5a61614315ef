import Mathlib.Data.List.Basic
import SchemaMill.Proofs.Charset.Register
import SchemaMill.Proofs.Moving.Frame

/-!
# Moving a table again

A table that has been moved to a target is not changed by moving it to the target once more, if no
prefix is taken off names and no setting of its options lacks a value (`move_move`).

The options are read anew, and their clauses need not be what they were: in `CHARSET CHARACTER SET`
the second word is taken as a value, and once it is replaced the third is no keyword any more. So
what is shown of the moved tokens is that they have clauses of some kind, all of which have the
values of the target (`IsScan.again`). It matters that no name of a character set or a collation is
part of a keyword (`isQuiet_of_charsetOf`).
-/

namespace SchemaMill.Schema

open Sql

/-! ### Names that are no keywords -/

/-- A name that is no part of the keyword of a setting, and that can be told as a value. -/
def IsQuiet (name : Text) : Prop :=
  name ≠ [] ∧ name ≠ ['='] ∧
    (⟨.name, name, true⟩ : Token).word ∉
      ["CHARACTER", "SET", "CHARSET", "COLLATE"].map String.toList

instance (name : Text) : Decidable (IsQuiet name) := inferInstanceAs (Decidable (_ ∧ _ ∧ _))

/-- The names of the character sets of encodings. -/
def charsetNames : List Text :=
  Charset.serverCodecs.map (·.1.toList) ++ Charset.codecs.map Charset.Codec.charset

theorem mem_charsetNames {given charset : Text} (h : Charset.charsetOf given = .ok charset) :
    charset ∈ charsetNames := by
  rw [Charset.charsetOf_eq] at h
  split at h
  · next hserver =>
    cases h
    obtain ⟨codec, hcodec⟩ := Option.isSome_iff_exists.mp hserver
    obtain ⟨before, after, hsplit, -⟩ := List.lookup_eq_some_iff.mp hcodec
    refine List.mem_append_left _ (List.mem_map.mpr ⟨_, hsplit ▸ List.mem_append_right before
      List.mem_cons_self, String.toList_ofList⟩)
  · cases hcodec : Charset.codecOf (Charset.plainName given) with
    | error e => rw [hcodec] at h; cases h
    | ok c =>
      rw [hcodec] at h
      cases h
      exact List.mem_append_right _ (List.mem_map_of_mem (Charset.mem_codecs_of_codecOf hcodec))

theorem charsetNames_checked :
    (charsetNames.all fun name => IsQuiet name ∧ IsQuiet (collationFor name)) = true := by
  decide +kernel

/-- Names of character sets and their collations are no keywords. -/
theorem isQuiet_of_charsetOf {given charset : Text} (h : Charset.charsetOf given = .ok charset)
    (s : Setting) : IsQuiet (s.name charset) := by
  have hchecked := List.all_eq_true.mp charsetNames_checked charset (mem_charsetNames h)
  rw [decide_eq_true_iff] at hchecked
  cases s with
  | charset => exact hchecked.1
  | collation => exact hchecked.2

section Quiet

variable {name : Text} (h : IsQuiet name) (spaced : Bool)
include h

theorem IsQuiet.word_notMem : (⟨.name, name, spaced⟩ : Token).word ∉
    ["CHARACTER", "SET", "CHARSET", "COLLATE"].map String.toList := h.2.2

theorem IsQuiet.isSign : (⟨.name, name, spaced⟩ : Token).isSign '=' = false :=
  beq_eq_false_iff_ne.mpr h.2.1

theorem IsQuiet.setting? (previous : Text) :
    Schema.setting? previous ⟨.name, name, spaced⟩ = none := by
  have hword := h.word_notMem spaced
  simp only [List.map_cons, List.map_nil, List.mem_cons, not_or] at hword
  rw [Schema.setting?, if_neg, if_neg hword.2.2.2.1]
  rintro (hset | ⟨hset, -⟩)
  · exact hword.2.2.1 hset
  · exact hword.2.1 hset

end Quiet

/-! ### Keywords behind other tokens -/

variable {previous previous' : Text} {t : Token} {s s' : Setting}

theorem setting?_eq_collation (h : setting? previous t = some .collation) (previous' : Text) :
    setting? previous' t = some .collation :=
  setting?_eq_collation_iff.mpr (setting?_eq_collation_iff.mp h)

theorem setting?_inj (h : setting? previous t = some s) (h' : setting? previous' t = some s') :
    s = s' := by
  cases s with
  | collation => exact Option.some.inj ((setting?_eq_collation h previous').symm.trans h')
  | charset =>
    cases s' with
    | charset => rfl
    | collation => exact Option.some.inj (h.symm.trans (setting?_eq_collation h' previous))

theorem setting?_eq_none_of (hprevious : previous' = "CHARACTER".toList →
    previous = "CHARACTER".toList) (h : setting? previous t = none) :
    setting? previous' t = none := by
  rw [Option.eq_none_iff_forall_ne_some] at h ⊢
  intro s hs
  cases s with
  | charset =>
    refine h .charset (setting?_eq_charset_iff.mpr ?_)
    exact (setting?_eq_charset_iff.mp hs).imp_right (And.imp_right hprevious)
  | collation => exact h .collation (setting?_eq_collation hs previous)

/-! ### Moved clauses read again -/

/-- A clause has a value if it needs one. -/
def Clause.HasValue : Clause → Prop
  | plain _ => True
  | setting _ _ _ value => value.isSome

/-- A clause that has the value of the target if it needs one. -/
def Clause.IsMoved (charset : Text) : Clause → Prop
  | plain _ => True
  | setting s _ _ value => ∃ spaced, value = some ⟨.name, s.name charset, spaced⟩

variable {charset : Text} {cs cs' : List Clause}

theorem Clause.IsMoved.moved_eq {c : Clause} (h : c.IsMoved charset) : c.moved charset = c := by
  cases c with
  | plain t => rfl
  | setting s k signs value =>
    obtain ⟨spaced, rfl⟩ := h
    rfl

theorem Clause.IsMoved.hasValue {c : Clause} (h : c.IsMoved charset) : c.HasValue := by
  cases c with
  | plain t => trivial
  | setting s k signs value =>
    obtain ⟨spaced, rfl⟩ := h
    rfl

theorem Clause.isMoved_moved {c : Clause} (h : c.HasValue) : (c.moved charset).IsMoved charset := by
  cases c with
  | plain t => trivial
  | setting s k signs value =>
    obtain ⟨v, rfl⟩ := Option.isSome_iff_exists.mp h
    exact ⟨v.spaced, rfl⟩

theorem Clause.setting?_moved (c : Clause) : (c.moved charset).setting? = c.setting? := by
  cases c <;> rfl

/-- Clauses that need no more tokens can have others behind them. -/
theorem IsScan.append (h : IsScan previous cs) (hvalues : ∀ c ∈ cs, c.HasValue)
    (h' : ∀ previous, IsScan previous cs') : IsScan previous (cs ++ cs') := by
  induction h with
  | nil => exact h' _
  | plain hplain hrest ih => exact .plain hplain (ih fun c hc => hvalues c (.tail _ hc))
  | setting hkeyword hsigns hvalue hrest ih =>
    exact .setting hkeyword hsigns hvalue (ih fun c hc => hvalues c (.tail _ hc))
  | unset => cases hvalues _ List.mem_cons_self

theorem IsScan.signs {signs : List Token} (hsigns : ∀ u ∈ signs, u.isSign '=' = true)
    (h : ∀ previous, IsScan previous cs) (previous : Text) :
    IsScan previous (signs.map .plain ++ cs) := by
  induction signs generalizing previous with
  | nil => exact h previous
  | cons u signs ih =>
    rw [List.forall_mem_cons] at hsigns
    exact .plain (setting?_of_isSign hsigns.1) (ih hsigns.2 u.word)

/-- Clauses `cs'` of the tokens of clauses that were moved: all have the values of the target, none
sets a character set unless one did, and one sets a collation if one did. -/
structure ReadAgain (charset previous : Text) (cs cs' : List Clause) : Prop where
  scan : IsScan previous cs'
  tokens : cs'.flatMap Clause.tokens = cs.flatMap fun c => (c.moved charset).tokens
  moved : ∀ c ∈ cs', c.IsMoved charset
  charset : Sets .charset cs' → Sets .charset cs
  collation : Sets .collation cs → Sets .collation cs'

theorem ReadAgain.cons {c : Clause} (h : ReadAgain charset previous' cs cs') (hvalue : c.HasValue)
    (hscan : IsScan previous (c.moved charset :: cs')) :
    ReadAgain charset previous (c :: cs) (c.moved charset :: cs') where
  scan := hscan
  tokens := by rw [List.flatMap_cons, List.flatMap_cons, h.tokens]
  moved := List.forall_mem_cons.mpr ⟨Clause.isMoved_moved hvalue, h.moved⟩
  charset := by
    rw [sets_cons, sets_cons, Clause.setting?_moved]
    exact Or.imp_right h.charset
  collation := by
    rw [sets_cons, sets_cons, Clause.setting?_moved]
    exact Or.imp_right h.collation

/-- The tokens of clauses that were moved have clauses that need not be moved. -/
theorem IsScan.again (hquiet : ∀ s : Setting, IsQuiet (s.name charset)) (h : IsScan previous cs)
    (hvalues : ∀ c ∈ cs, c.HasValue)
    (hprevious : previous' = "CHARACTER".toList → previous = "CHARACTER".toList) :
    ∃ cs', ReadAgain charset previous' cs cs' := by
  -- what a clause stands behind can change from `CHARACTER` to a name, but not back
  induction h generalizing previous' with
  | nil => exact ⟨[], .nil, rfl, by simp, id, id⟩
  | @plain previous t cs hplain hrest ih =>
    obtain ⟨cs', h⟩ := ih (fun c hc => hvalues c (.tail _ hc)) id
    exact ⟨_, h.cons (hvalues _ List.mem_cons_self)
      (.plain (setting?_eq_none_of hprevious hplain) h.scan)⟩
  | @setting previous s k signs v cs hkeyword hsigns hvalue hrest ih =>
    have hname := hquiet s
    -- what follows stands behind a name now, which is not `CHARACTER`
    obtain ⟨cs', h⟩ : ∃ cs', ReadAgain charset
        (⟨.name, s.name charset, v.spaced⟩ : Token).word cs cs' :=
      ih (fun c hc => hvalues c (.tail _ hc))
        fun hword => absurd (hword ▸ List.mem_cons_self) (hname.word_notMem v.spaced)
    cases hagain : setting? previous' k with
    | some s' =>
      obtain rfl := setting?_inj hkeyword hagain
      exact ⟨_, h.cons (hvalues _ List.mem_cons_self)
        (.setting hagain hsigns (hname.isSign v.spaced) h.scan)⟩
    | none =>
      -- only `SET` can have lost the word that made it a keyword
      obtain rfl : s = .charset := by
        cases s with
        | charset => rfl
        | collation => rw [setting?_eq_collation hkeyword previous'] at hagain; cases hagain
      refine ⟨.plain k :: (signs.map .plain ++
          .plain ⟨.name, Setting.name charset .charset, v.spaced⟩ :: cs'),
        .plain hagain (.signs hsigns (fun _ => .plain (hname.setting? v.spaced _) h.scan) k.word),
        ?_, ?_, ?_, ?_⟩
      · rw [List.flatMap_cons, List.flatMap_append, List.flatMap_cons, List.flatMap_map,
          List.flatMap_cons, h.tokens]
        simp [Clause.tokens, Clause.moved]
      · simpa [Clause.IsMoved, or_imp, forall_and] using h.moved
      · exact fun _ => sets_cons.mpr (Or.inl rfl)
      · intro hset
        rw [sets_cons] at hset
        have hrest := h.collation (hset.resolve_left (by simp [Clause.setting?]))
        simp [hrest]
  | unset => cases hvalues _ List.mem_cons_self

/-! ### Options moved again -/

/-- Each setting of the table options has a value. -/
def HasValues (ts : List Token) : Prop := ∃ cs, AreClauses ts cs ∧ ∀ c ∈ cs, c.HasValue

theorem flatMap_moved_of_isMoved (h : ∀ c ∈ cs, c.IsMoved charset) :
    cs.flatMap (fun c => (c.moved charset).tokens) = cs.flatMap Clause.tokens :=
  List.flatMap_congr fun c hc => by rw [(h c hc).moved_eq]

theorem moveOptions_of_isMoved {ts : List Token} (hcharset : charset ≠ []) (h : AreClauses ts cs)
    (hmoved : ∀ c ∈ cs, c.IsMoved charset) (hends : Sets .charset cs → Sets .collation cs) :
    Target.moveOptions charset ts = ts := by
  rw [Target.moveOptions_of_areClauses hcharset h, flatMap_moved_of_isMoved hmoved, h.2,
    if_neg fun hset => hset.2 (hends hset.1), List.append_nil]

/-- The clause that names the collation at the end of options. -/
def endClause (charset : Text) : Clause :=
  .setting .collation ⟨.keyword, "COLLATE", true⟩ [⟨.operator, "=", false⟩]
    (some ⟨.name, collationFor charset, false⟩)

theorem isScan_endClause (hquiet : IsQuiet (collationFor charset)) (previous : Text) :
    IsScan previous [endClause charset] :=
  .setting (setting?_eq_collation_iff.mpr (by decide)) (by decide) (hquiet.isSign false) .nil

/-- Table options that were moved are not changed by moving them again. -/
theorem moveOptions_moveOptions (hquiet : ∀ s : Setting, IsQuiet (s.name charset))
    {ts : List Token} (hvalues : HasValues ts) :
    Target.moveOptions charset (Target.moveOptions charset ts) = Target.moveOptions charset ts := by
  have hcharset : charset ≠ [] := (hquiet .charset).1
  obtain ⟨cs, hcs, hvalues⟩ := hvalues
  obtain ⟨cs', hagain⟩ := hcs.1.again hquiet hvalues id
  rw [Target.moveOptions_of_areClauses hcharset hcs, ← hagain.tokens]
  split
  · -- the collation that was put at the end is found there
    have hscan : IsScan [] (cs' ++ [endClause charset]) :=
      hagain.scan.append (fun c hc => (hagain.moved c hc).hasValue)
        (isScan_endClause (hquiet .collation))
    have htokens : (cs' ++ [endClause charset]).flatMap Clause.tokens =
        cs'.flatMap Clause.tokens ++ Target.collationClause charset := List.flatMap_append
    refine moveOptions_of_isMoved hcharset ⟨hscan, htokens⟩ ?_ fun _ => ?_
    · simpa [or_imp, forall_and] using ⟨hagain.moved, ⟨false, rfl⟩⟩
    · exact sets_append.mpr (Or.inr (sets_cons.mpr (Or.inl rfl)))
  · next hends =>
    rw [List.append_nil]
    refine moveOptions_of_isMoved hcharset ⟨hagain.scan, rfl⟩ hagain.moved fun hset => ?_
    by_contra hnone
    exact hends ⟨hagain.charset hset, mt hagain.collation hnone⟩

/-! ### Columns moved again -/

variable {o : Target}

theorem boundType_encodeColumn_boundType (c : Column) :
    Target.boundType (o.encodeColumn (Target.boundType c)) =
      o.encodeColumn (Target.boundType c) := by
  have htype : (Target.boundType c).dataType ≠ "TINYTEXT".toList := by
    rw [Target.boundType]
    split
    · exact (by decide : "VARCHAR".toList ≠ "TINYTEXT".toList)
    · next htype => exact fun h => htype (beq_iff_eq.mpr h)
  rw [Target.boundType, encodeColumn_dataType, if_neg (mt beq_iff_eq.mp htype)]

theorem encodeColumn_encodeColumn (c : Column) :
    o.encodeColumn (o.encodeColumn c) = o.encodeColumn c := by
  unfold Target.encodeColumn
  split_ifs <;> rfl

theorem bareName_of_empty {strip : Option Text} (h : strip.getD [] = []) (name : Text) :
    Target.bareName strip name = name := by
  cases strip with
  | none => rfl
  | some p =>
    rw [Option.getD_some] at h
    subst h
    cases name <;> rfl

theorem mapName_of_empty {strip : Option Text} (h : strip.getD [] = []) (p : Part) :
    p.mapName (Target.bareName strip) = p := by
  cases p with
  | token t => rfl
  | name q => rw [Part.mapName, bareName_of_empty h]; rfl

theorem map_mapName_of_empty {strip : Option Text} (h : strip.getD [] = []) (ps : List Part) :
    ps.map (Part.mapName (Target.bareName strip)) = ps :=
  (List.map_congr_left fun p _ => mapName_of_empty h p).trans (List.map_id ps)

theorem moveColumn_of_empty (hstrip : o.strip.getD [] = []) (c : Column) :
    o.moveColumn c = o.encodeColumn (Target.boundType c) := by
  have hoptions : c.options = (o.encodeColumn (Target.boundType c)).options := by simp
  rw [Target.moveColumn, map_mapName_of_empty hstrip, hoptions]

theorem moveElement_moveElement (hstrip : o.strip.getD [] = []) (e : Element) :
    o.moveElement (o.moveElement e) = o.moveElement e := by
  cases e with
  | column c =>
    simp only [Target.moveElement, moveColumn_of_empty hstrip, boundType_encodeColumn_boundType,
      encodeColumn_encodeColumn]
  | constraint c => simp only [Target.moveElement, map_mapName_of_empty hstrip]

/-- Moving a table to a target a second time changes nothing. -/
theorem move_move (o : Target) (given : Text) (hcharset : Charset.charsetOf given = .ok o.charset)
    (hstrip : o.strip.getD [] = []) (t : Table) (hvalues : HasValues t.options) :
    o.move (o.move t) = o.move t := by
  have helements : ∀ es : List Element, (es.map o.moveElement).map o.moveElement =
      es.map o.moveElement := fun es => by
    rw [List.map_map]
    exact List.map_congr_left fun e _ => moveElement_moveElement hstrip e
  have hoptions := moveOptions_moveOptions (isQuiet_of_charsetOf hcharset) hvalues
  simp only [Target.move, bareName_of_empty hstrip, Option.map_map, Function.comp_def, helements]
  cases o.dialect.hasColumnCharsets with
  | true => simp only [if_true, hoptions]; rfl
  | false => rfl

/-- In these options `SET` is the end of a keyword when they are moved, and no keyword when they are
moved again. -/
theorem move_move_characterSet :
    let o : Target := { strip := some [] }
    let t : Table := {
      head := [⟨.keyword, "CREATE", false⟩, ⟨.keyword, "TABLE", true⟩]
      name := ⟨[], ⟨"notes", false⟩, true⟩
      elements := some [.column { name := ⟨"body", false⟩, dataType := "TINYTEXT" }]
      options := [⟨.keyword, "CHARSET", true⟩, ⟨.operator, "=", true⟩,
        ⟨.keyword, "CHARACTER", true⟩, ⟨.keyword, "SET", true⟩, ⟨.name, "latin1", true⟩] }
    (o.move t).render .mysql = ("CREATE TABLE notes (\n" ++
      "  body VARCHAR(255) CHARACTER SET utf8mb4 COLLATE utf8mb4_unicode_ci\n" ++
      ") CHARSET = utf8mb4 SET utf8mb4 COLLATE=utf8mb4_unicode_ci").toList ∧
      o.move (o.move t) = o.move t := by
  intro o t
  have hclauses : AreClauses t.options
      [.setting .charset ⟨.keyword, "CHARSET", true⟩ [⟨.operator, "=", true⟩]
        (some ⟨.keyword, "CHARACTER", true⟩),
        .setting .charset ⟨.keyword, "SET", true⟩ [] (some ⟨.name, "latin1", true⟩)] :=
    ⟨.setting (by decide) (by decide) (by decide)
      (.setting (by decide) (by decide) (by decide) .nil), rfl⟩
  have hcharset : Charset.charsetOf " UTF-8" = .ok o.charset := by rfl
  exact ⟨by decide +kernel, move_move o " UTF-8" hcharset rfl t
    ⟨_, hclauses, by simp [Clause.HasValue]⟩⟩

end SchemaMill.Schema
