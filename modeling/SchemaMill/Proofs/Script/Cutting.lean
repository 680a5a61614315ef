import SchemaMill.Proofs.Calendar.Years
import SchemaMill.Proofs.Script.Documents
import SchemaMill.Proofs.Script.Joining

/-!
# Cutting a script

The lines of a script that belong to statements make up blocks, each of which ends with the first
line that ends a statement, and lines that are left open. There is one such cut and no other
(`isCut_iff`), so that what a script gives can be told by the cut alone: its statements are the
texts of the blocks, and it is refused exactly if a line is left open.

The statements that were cut out have the form of statements, and such texts on lines of their own
are cut into themselves: `splitDump_cut` says so of the statements of every script.

They keep that form when their semicolons are taken off and a single one is put back. So the
document that is made of them is cut into its settings and these statements again
(`splitDump_document_statements`), however many semicolons a statement had, and even if they stood
on lines of their own. What was nothing but semicolons is gone.
-/

namespace SchemaMill.Schema

open Sql

variable {ls : List Text} {bs : List (List Text)} {rest : List Text}

/-! ### Cuts -/

/-- Lines are blocks, each of which ends with its only line that ends a statement, and further lines
of which none does. -/
structure IsCut (ls : List Text) (bs : List (List Text)) (rest : List Text) : Prop where
  /-- No line is lost and none is moved. -/
  flatten : bs.flatten ++ rest = ls
  /-- Only the last line of a block ends a statement. -/
  isBlock : ∀ b ∈ bs, IsBlock b
  /-- No line that is left ends a statement. -/
  leftOpen : ∀ l ∈ rest, endsStatement l = false

theorem blocks_of_leftOpen (h : ∀ l ∈ rest, endsStatement l = false) :
    blocks rest = ([], rest) := by
  induction rest with
  | nil => rfl
  | cons l rest ih =>
    obtain ⟨hl, hrest⟩ := List.forall_mem_cons.mp h
    rw [blocks, if_neg (by simp [hl]), ih hrest]

theorem leftOpen_blocks (ls : List Text) : ∀ l ∈ (blocks ls).2, endsStatement l = false := by
  fun_induction blocks ls with
  | case1 => simp
  | case2 line more hline ih => exact ih
  | case3 line more hline rest hmore ih =>
    rw [hmore] at ih
    exact List.forall_mem_cons.mpr ⟨by simpa using hline, ih⟩
  | case4 line more hline block others rest hmore ih =>
    rw [hmore] at ih
    exact ih

theorem isCut_blocks (ls : List Text) : IsCut ls (blocks ls).1 (blocks ls).2 where
  flatten := flatten_blocks ls
  isBlock _ hb := (isBlock_of_mem_blocks hb).1
  leftOpen := leftOpen_blocks ls

theorem IsCut.blocks_eq (h : IsCut ls bs rest) : blocks ls = (bs, rest) := by
  obtain ⟨rfl, hblocks, hopen⟩ := h
  induction bs with
  | nil => exact blocks_of_leftOpen hopen
  | cons b bs ih =>
    obtain ⟨hb, hbs⟩ := List.forall_mem_cons.mp hblocks
    rw [List.flatten_cons, List.append_assoc, blocks_append hb, ih hbs]

/-- Lines have one cut. -/
theorem isCut_iff : IsCut ls bs rest ↔ bs = (blocks ls).1 ∧ rest = (blocks ls).2 := by
  constructor
  · intro h
    rw [h.blocks_eq]
    exact ⟨rfl, rfl⟩
  · rintro ⟨rfl, rfl⟩
    exact isCut_blocks ls

/-! ### Statements on lines of their own -/

theorem contentLines_of_isStatement {s : Text} (h : IsStatement s) : contentLines s = lines s :=
  List.filter_eq_self.mpr h.isContent

theorem contentLines_joinLines {ss : List Text} (h : ∀ s ∈ ss, IsStatement s) :
    contentLines (joinLines ss) = ss.flatMap lines := by
  induction ss with
  | nil => rfl
  | cons s ss ih =>
    obtain ⟨hs, hss⟩ := List.forall_mem_cons.mp h
    cases ss with
    | nil =>
      rw [List.flatMap_singleton]
      exact contentLines_of_isStatement hs
    | cons s' ss =>
      have hjoin : joinLines (s :: s' :: ss) = s ++ '\n' :: joinLines (s' :: ss) := by
        simp [joinLines, joinWith]
      rw [hjoin, contentLines_append_feed, contentLines_of_isStatement hs, ih hss]
      exact List.flatMap_cons.symm

theorem ofText_joinLines {ss : List Text} (h : ∀ s ∈ ss, IsStatement s) :
    Script.ofText (joinLines ss) = ⟨ss, none⟩ :=
  ofText_of_contentLines (contentLines_joinLines h) h

/-! ### What a script gives -/

/-- The lines of a text that belong to statements have exactly one cut. The text is split into the
statements of the blocks; lines that are left open are told of, or refused where they are an error.
The statements on lines of their own are split into the same statements, with nothing left. -/
theorem splitDump_cut (t : Text) :
    ∃ bs rest, (∀ bs' rest', IsCut (contentLines t) bs' rest' ↔ bs' = bs ∧ rest' = rest) ∧
      splitDump false t = .ok (bs.map statementText,
        if rest = [] then [] else [.unterminated (statementText rest)]) ∧
      splitDump true t = (if rest = [] then splitDump false t
        else .error (.unterminated (statementText rest))) ∧
      ∀ strict, splitDump strict (joinLines (bs.map statementText)) =
        .ok (bs.map statementText, []) := by
  have hscript := ofText_eq t
  refine ⟨(blocks (contentLines t)).1, (blocks (contentLines t)).2, fun bs' rest' => isCut_iff,
    ?_, ?_, fun strict => ?_⟩
  · rw [splitDump_eq, hscript]
    split <;> simp_all
  · rw [splitDump_eq, splitDump_eq, hscript]
    split <;> simp_all
  · have hstatements : ∀ s ∈ (blocks (contentLines t)).1.map statementText, IsStatement s :=
      fun s hs => isStatement_of_mem_statements (t := t) (by rwa [hscript])
    have hagain := ofText_joinLines hstatements
    rw [splitDump_of_closed (by rw [hagain]), hagain]

/-- A statement over two lines with a comment and a blank line in it, one that is nothing but a
semicolon, and one that is left open. -/
example :
    splitDump false "SELECT 1\n-- one;\x0b  # two\r\n  \x1fFROM t ; \n;\nSELECT" =
      .ok (["SELECT 1\n  \x1fFROM t ;", ";"].map String.toList, [.unterminated "SELECT"]) := by
  decide +kernel

/-! ### Documents of what was cut -/

/-- A text is cut into statements. A document of these statements, which can be made at every
present moment, is cut into its first settings, the statements with a single semicolon each in place
of all that they had at their end, except those of which nothing else is left, and its last
settings. -/
theorem splitDump_document_statements (d : Dialect) {charset : Text} (hcharset : Unbroken charset)
    (t : Text) :
    ∃ statements notices, splitDump false t = .ok (statements, notices) ∧
      (∀ now : Moment, now.isValid → now.offset = some 0 →
        ∃ timestamp, now.timestamp? = some timestamp) ∧
      (∀ (now : Moment) (timestamp : Text), now.timestamp? = some timestamp →
        splitDump true (document d charset timestamp statements) =
          .ok ((d.headerPragmas charset).map (· ++ [';']) ++
            ((statements.map dropTerminator).filter (!·.isEmpty)).map (· ++ [';']) ++
            d.footerPragmas.map (· ++ [';']), [])) ∧
      ∀ s ∈ statements, ∀ c ∈ (dropTerminator s).getLast?, isBlank c = false ∧ c ≠ ';' := by
  obtain ⟨notices, hsplit⟩ := exists_splitDump_eq_ok t
  refine ⟨(Script.ofText t).statements, notices, hsplit, fun now => Moment.exists_timestamp, ?_, ?_⟩
  · intro now timestamp hnow
    have hforms : ∀ s ∈ (Script.ofText t).statements, dropTerminator s ≠ [] →
        IsStatement (dropTerminator s ++ [';']) := fun s hs hne =>
      (isStatement_of_mem_statements hs).toLeads.dropTerminator hne
    rw [splitDump_eq_ok_iff,
      (ofText_document_iff (unbroken_timestamp hnow) hcharset).mpr hforms]
    simp only [documentStatements, List.map_append]
  · intro s hs
    obtain ⟨trail, -, hlast⟩ := exists_dropTerminator s
    exact hlast

/-- A script with a statement that ends in two semicolons, one over lines of which the last holds
semicolons only, one that is nothing but a semicolon, and one that is left open. -/
def looseScript : Text := "SET @a = 1;;\n# c;\nSELECT\x0b 2\n ; ;\n;\nSELECT"

/-- Two statements of the script are left in its document, with one semicolon each. -/
theorem splitDump_document_statements_looseScript :
    Unbroken "latin1".toList ∧ (Script.ofText looseScript).statements =
        ["SET @a = 1;;".toList, "SELECT\n 2\n ; ;".toList, ";".toList] ∧
      ∃ timestamp, twoDumpsMoment.timestamp? = some timestamp ∧
        splitDump true (document .postgres "latin1" timestamp
          ["SET @a = 1;;".toList, "SELECT\n 2\n ; ;".toList, ";".toList]) =
          .ok (["SET client_encoding = 'WIN1252';".toList,
            "SET session_replication_role = 'replica';".toList, "SET @a = 1;".toList,
            "SELECT\n 2;".toList, "SET session_replication_role = 'origin';".toList], []) := by
  have hcharset : Unbroken "latin1".toList := by decide
  have hscript : (Script.ofText looseScript).statements =
      ["SET @a = 1;;".toList, "SELECT\n 2\n ; ;".toList, ";".toList] := by decide +kernel
  obtain ⟨statements, notices, hsplit, hpresent, hdocument, -⟩ :=
    splitDump_document_statements .postgres hcharset looseScript
  obtain rfl := statements_of_splitDump hsplit
  obtain ⟨timestamp, hnow⟩ := hpresent twoDumpsMoment (by decide) rfl
  have hread := hdocument twoDumpsMoment timestamp hnow
  rw [hscript] at hread
  refine ⟨hcharset, hscript, timestamp, hnow, hread.trans ?_⟩
  decide +kernel

end SchemaMill.Schema
