import Mathlib.Data.List.Perm.Subperm
import SchemaMill.Proofs.Order.Success

/-!
# What a redefinition removes

A merge keeps the tables whose name no later table has (`lastOf`), and the name is the one without
qualifiers: of `shop.t` and `crm.t` only the later one is kept. `mergeDumps_definitions` says
exactly which definitions are kept, and that those whose dotted name is not defined again are all
among them just if a table name is taken over only where the dotted name is.
-/

namespace SchemaMill.Schema

/-! ### The last members of their keys -/

section LastOf

variable {α β κ κ' : Type} [DecidableEq κ] [DecidableEq κ'] {key : α → κ} {key' : α → κ'}
  {as : List α} {a : α}

/-- The members whose key no later member has. -/
def lastOf (key : α → κ) : List α → List α
  | [] => []
  | a :: as => if key a ∈ as.map key then lastOf key as else a :: lastOf key as

theorem lastOf_sublist (key : α → κ) : ∀ as : List α, (lastOf key as).Sublist as
  | [] => .slnil
  | a :: as => by
    rw [lastOf]
    split
    · exact (lastOf_sublist key as).cons a
    · exact (lastOf_sublist key as).cons_cons a

theorem nodup_map_lastOf (key : α → κ) (as : List α) : ((lastOf key as).map key).Nodup := by
  induction as with
  | nil => exact List.nodup_nil
  | cons a as ih =>
    rw [lastOf]
    split
    · exact ih
    · next h =>
      exact List.nodup_cons.mpr ⟨fun hmem => h (((lastOf_sublist key as).map key).subset hmem), ih⟩

theorem mem_lastOf :
    a ∈ lastOf key as ↔ ∃ later, a :: later <:+ as ∧ key a ∉ later.map key := by
  induction as with
  | nil => simp [lastOf]
  | cons b as ih =>
    have hsuffix : (∃ later, a :: later <:+ b :: as ∧ key a ∉ later.map key) ↔
        (a = b ∧ key b ∉ as.map key) ∨ a ∈ lastOf key as := by
      rw [ih]
      constructor
      · rintro ⟨later, hsuffix, hlater⟩
        rcases List.suffix_cons_iff.mp hsuffix with heq | hsuffix
        · obtain ⟨rfl, rfl⟩ := List.cons.inj heq
          exact .inl ⟨rfl, hlater⟩
        · exact .inr ⟨later, hsuffix, hlater⟩
      · rintro (⟨rfl, hlater⟩ | ⟨later, hsuffix, hlater⟩)
        · exact ⟨as, List.suffix_rfl, hlater⟩
        · exact ⟨later, hsuffix.trans (List.suffix_cons b as), hlater⟩
    rw [hsuffix, lastOf]
    split
    · next h => exact ⟨.inr, fun hor => hor.resolve_left fun hb => hb.2 h⟩
    · next h =>
      rw [List.mem_cons]
      exact or_congr_left ⟨fun hb => ⟨hb, h⟩, fun hb => hb.1⟩

theorem lastOf_map (f : β → α) (bs : List β) :
    lastOf key (bs.map f) = (lastOf (fun b => key (f b)) bs).map f := by
  induction bs with
  | nil => rfl
  | cons b bs ih =>
    have hmap : (bs.map f).map key = bs.map fun b => key (f b) := List.map_map
    rw [List.map_cons, lastOf, lastOf, hmap, ih]
    split
    · rfl
    · rfl

/-- A finer key has the last members of a coarser one among its own. -/
theorem lastOf_sublist_lastOf (h : ∀ a b, key' a = key' b → key a = key b) (as : List α) :
    (lastOf key as).Sublist (lastOf key' as) := by
  induction as with
  | nil => exact .slnil
  | cons a as ih =>
    rw [lastOf, lastOf]
    by_cases hfine : key' a ∈ as.map key'
    · have hcoarse : key a ∈ as.map key := by
        obtain ⟨b, hb, hkey⟩ := List.mem_map.mp hfine
        exact List.mem_map.mpr ⟨b, hb, h b a hkey⟩
      rw [if_pos hfine, if_pos hcoarse]
      exact ih
    · rw [if_neg hfine]
      split
      · exact ih.cons a
      · exact ih.cons_cons a

/-- A finer key has the same last members exactly if a member that is overtaken by its coarser key
is overtaken by its finer key too. -/
theorem lastOf_eq_lastOf_iff (h : ∀ a b, key' a = key' b → key a = key b) :
    lastOf key as = lastOf key' as ↔
      ∀ a later, a :: later <:+ as → key a ∈ later.map key → key' a ∈ later.map key' := by
  induction as with
  | nil => simp [lastOf]
  | cons b as ih =>
    have hsuffix : (∀ a later, a :: later <:+ b :: as →
          key a ∈ later.map key → key' a ∈ later.map key') ↔
        (key b ∈ as.map key → key' b ∈ as.map key') ∧ lastOf key as = lastOf key' as := by
      rw [ih]
      constructor
      · intro hall
        exact ⟨hall b as List.suffix_rfl, fun a later hsuffix =>
          hall a later (hsuffix.trans (List.suffix_cons b as))⟩
      · rintro ⟨hb, hrest⟩ a later hsuffix
        rcases List.suffix_cons_iff.mp hsuffix with heq | hsuffix
        · obtain ⟨rfl, rfl⟩ := List.cons.inj heq
          exact hb
        · exact hrest a later hsuffix
    rw [hsuffix, lastOf, lastOf]
    by_cases hfine : key' b ∈ as.map key'
    · have hcoarse : key b ∈ as.map key := by
        obtain ⟨c, hc, hkey⟩ := List.mem_map.mp hfine
        exact List.mem_map.mpr ⟨c, hc, h c b hkey⟩
      simp [hfine, hcoarse]
    · by_cases hcoarse : key b ∈ as.map key
      · -- the member is kept by its finer key only, so that one list is longer than the other
        have hlength := (lastOf_sublist_lastOf h as).length_le
        simp only [hcoarse, hfine, if_true, if_false, forall_const, false_and, iff_false]
        intro heq
        rw [heq, List.length_cons] at hlength
        omega
      · simp [hfine, hcoarse]

end LastOf

/-! ### The definitions of an arrangement -/

variable {o : Options} {statements : List Statement} {r : Registry}

theorem definition?_filter (statements : List Statement) (t : Text) :
    definition? (statements.filter (·.table.isSome)) t = definition? statements t := by
  rw [definition?, definition?, ← List.filter_reverse, List.find?_filter]
  refine congrArg (List.find? · statements.reverse) (funext fun s => ?_)
  cases h : s.table == some t
  · simp
  · simp [beq_iff_eq.mp h]

theorem filter_statements_arrange (statements : List Statement) (r : Registry) :
    (arrange statements r).statements.filter (·.table.isSome) =
      (arrange statements r).tables.filterMap (definition? statements) := by
  have hdefinitions : ∀ s ∈ (finalProgress statements r.outline).emitted.filterMap
      (definition? statements), s.table.isSome = true := by
    intro s hs
    obtain ⟨t, -, hst⟩ := List.mem_filterMap.mp hs
    rw [table_of_definition? hst, Option.isSome_some]
  have hothers : (statements.filter (·.table.isNone)).filter (·.table.isSome) = [] := by
    rw [List.filter_filter, List.filter_eq_nil_iff]
    intro s _
    cases s.table <;> simp
  rw [tables_arrange]
  change ((finalProgress statements r.outline).emitted.filterMap (definition? statements) ++
    statements.filter (·.table.isNone)).filter (·.table.isSome) = _
  rw [List.filter_append, List.filter_eq_self.mpr hdefinitions, hothers, List.append_nil]

theorem isLastDefinition_iff_mem_lastOf {t : Text} {s : Statement} :
    IsLastDefinition statements t s ↔ s.table = some t ∧ s ∈ lastOf (·.table) statements := by
  rw [mem_lastOf]
  constructor
  · rintro ⟨before, after, hsplit, ht, hafter⟩
    refine ⟨ht, after, ⟨before, hsplit.symm⟩, fun hmem => ?_⟩
    obtain ⟨s', hs', htable⟩ := List.mem_map.mp hmem
    exact hafter s' hs' (htable.trans ht)
  · rintro ⟨ht, after, ⟨before, hsplit⟩, hafter⟩
    exact ⟨before, after, hsplit.symm, ht, fun s' hs' htable =>
      hafter (List.mem_map.mpr ⟨s', hs', htable.trans ht.symm⟩)⟩

/-- Where all defined tables are registered, an arrangement has the last definition of each. -/
theorem filter_statements_arrange_perm (h : ∀ t ∈ definedTables statements, t ∈ r.names) :
    ((arrange statements r).statements.filter (·.table.isSome)).Perm
      (lastOf (·.table) (statements.filter (·.table.isSome))) := by
  have hnodup : ((arrange statements r).tables.filterMap (definition? statements)).Nodup := by
    refine (nodup_tables_arrange statements r).filterMap fun t u s hst hsu => ?_
    rw [Option.mem_def] at hst hsu
    exact Option.some.inj ((table_of_definition? hst).symm.trans (table_of_definition? hsu))
  rw [filter_statements_arrange]
  refine (List.perm_ext_iff_of_nodup hnodup (nodup_map_lastOf (·.table) _).of_map).mpr fun s => ?_
  have hlast : ∀ t, definition? statements t = some s ↔
      s.table = some t ∧ s ∈ lastOf (·.table) (statements.filter (·.table.isSome)) := fun t => by
    rw [← definition?_filter, ← isLastDefinition_iff, isLastDefinition_iff_mem_lastOf]
  rw [List.mem_filterMap]
  constructor
  · rintro ⟨t, -, hst⟩
    exact ((hlast t).mp hst).2
  · intro hs
    obtain ⟨hmem, htag⟩ := List.mem_filter.mp ((lastOf_sublist _ _).subset hs)
    obtain ⟨t, ht⟩ := Option.isSome_iff_exists.mp htag
    have hdefined : ∃ s ∈ statements, s.table = some t := ⟨s, hmem, ht⟩
    exact ⟨t, mem_tables_arrange (h t (mem_definedTables.mpr hdefined)) hdefined,
      (hlast t).mpr ⟨ht, hs⟩⟩

/-! ### The definitions of a merge -/

/-- The name of a table that is moved to a target, without its qualifiers. -/
def Target.tableName (o : Target) (t : Sql.Table) : Text := (o.move t).name.name

/-- All parts of the name of a table that is moved to a target. -/
def Target.dottedName (o : Target) (t : Sql.Table) : List Text := (o.move t).name.parts.map (·.name)

theorem Target.tableName_eq_of_dottedName_eq {o : Target} {t u : Sql.Table}
    (h : o.dottedName t = o.dottedName u) : o.tableName t = o.tableName u := by
  have hlast : ∀ t, (o.dottedName t).getLast? = some (o.tableName t) := fun t => by
    simp [dottedName, tableName, Sql.QualifiedName.parts, Sql.QualifiedName.name]
  exact Option.some.inj (by rw [← hlast, ← hlast, h])

/-- A merge keeps the tables whose name, without qualifiers, no later table has. The tables whose
dotted name no later table has are all among them exactly if a table whose name is defined again has
its dotted name defined again. -/
theorem mergeDumps_definitions {now : Moment} {texts : List Text} {result : Result}
    (h : mergeDumps o now texts = .ok result) :
    (result.statements.filter (·.table.isSome)).Perm
        ((lastOf o.target.tableName (tablesOf texts)).map o.target.statement) ∧
      (((lastOf o.target.dottedName (tablesOf texts)).map o.target.statement).Subperm
          (result.statements.filter (·.table.isSome)) ↔
        ∀ t later, t :: later <:+ tablesOf texts →
          o.target.tableName t ∈ later.map o.target.tableName →
          o.target.dottedName t ∈ later.map o.target.dottedName) := by
  have hfiner : ∀ t u, o.target.dottedName t = o.target.dottedName u →
      o.target.tableName t = o.target.tableName u := fun t u => Target.tableName_eq_of_dottedName_eq
  have hperm : (result.statements.filter (·.table.isSome)).Perm
      ((lastOf o.target.tableName (tablesOf texts)).map o.target.statement) := by
    obtain ⟨r, hregs, hstatements⟩ := mergeDumps_eq_ok h
    have hregistered : ∀ t ∈ definedTables (rawStatements o.target texts), t ∈ r.names := by
      intro t ht
      obtain ⟨s, hs, hst⟩ := mem_definedTables.mp ht
      exact hregs.defines s hs t hst
    have hkey : lastOf (fun t => (o.target.statement t).table) (tablesOf texts) =
        lastOf o.target.tableName (tablesOf texts) :=
      (lastOf_sublist_lastOf (fun _ _ heq => congrArg some heq) _).antisymm
        (lastOf_sublist_lastOf (fun _ _ heq => Option.some.inj heq) _)
    rw [hstatements, ← hkey, ← lastOf_map, ← filter_rawStatements]
    exact filter_statements_arrange_perm hregistered
  refine ⟨hperm, ?_⟩
  rw [hperm.subperm_left, ← lastOf_eq_lastOf_iff hfiner]
  constructor
  · intro hsub
    have hlength := hsub.length_le
    rw [List.length_map, List.length_map] at hlength
    exact (lastOf_sublist_lastOf hfiner _).eq_of_length_le hlength
  · intro heq
    rw [heq]

/-- Two dumps that define tables of one name in two schemas. -/
def twoSchemas : List Text := ["CREATE TABLE shop.t (id INT);", "CREATE TABLE crm.t (n INT);"]

/-- The merge keeps the table of the second schema alone. -/
theorem mergeDumps_definitions_twoSchemas :
    ∃ result, mergeDumps {} twoDumpsMoment twoSchemas = .ok result ∧
      result.statements.filter (·.table.isSome) =
        [⟨"CREATE TABLE crm.t (\n  n INT\n)", some "t".toList⟩] ∧
      ¬ ((lastOf ({} : Target).dottedName (tablesOf twoSchemas)).map
        ({} : Target).statement).Subperm (result.statements.filter (·.table.isSome)) := by
  have hlast : (lastOf ({} : Target).tableName (tablesOf twoSchemas)).map ({} : Target).statement =
      [⟨"CREATE TABLE crm.t (\n  n INT\n)", some "t".toList⟩] := by decide +kernel
  have hdotted : (lastOf ({} : Target).dottedName (tablesOf twoSchemas)).length = 2 := by
    decide +kernel
  obtain ⟨result, h⟩ :=
    exists_mergeDumps_eq_ok (o := {}) rfl rfl timestamp?_twoDumpsMoment twoSchemas
  obtain ⟨hperm, -⟩ := mergeDumps_definitions h
  rw [hlast, List.perm_singleton] at hperm
  refine ⟨result, h, hperm, fun hsub => ?_⟩
  have hlength := hsub.length_le
  rw [hperm, List.length_map, hdotted] at hlength
  exact absurd hlength (by decide)

end SchemaMill.Schema
