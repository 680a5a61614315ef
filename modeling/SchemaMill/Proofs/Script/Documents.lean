import SchemaMill.Calendar.Moment
import SchemaMill.Proofs.Lexing.Numbers
import SchemaMill.Proofs.Lexing.Spacing
import SchemaMill.Proofs.Script.Statements
import SchemaMill.Schema.Document

/-!
# Documents as scripts

The statements that a document is meant to hold are its settings and its statements, each with one
semicolon at its end (`documentStatements`). The settings are always cut out again, and so is a
statement if it is one of its own: a document is a script of what it is meant to hold exactly if
each statement, with its semicolon, has the form of one (`ofText_document_iff`).

What a script gives has this form already, and keeps it when its semicolons are taken off and one is
put back (`Leads.dropTerminator`).
-/

namespace SchemaMill.Schema

open Sql

variable {d : Dialect} {charset timestamp t : Text}

/-! ### One semicolon at the end -/

/-- What is taken off a text at its end are blanks and semicolons, and what is left ends in
neither. -/
theorem exists_dropTerminator (t : Text) : ∃ trail, t = dropTerminator t ++ trail ∧
    ∀ c ∈ (dropTerminator t).getLast?, isBlank c = false ∧ c ≠ ';' := by
  refine ⟨(t.reverse.takeWhile fun c => isBlank c || c == ';').reverse, ?_, fun c hc => ?_⟩
  · rw [dropTerminator, ← List.reverse_append, List.takeWhile_append_dropWhile,
      List.reverse_reverse]
  · rw [dropTerminator, List.getLast?_reverse] at hc
    have hhead := List.head?_dropWhile_not (fun c => isBlank c || c == ';') t.reverse
    rw [hc] at hhead
    simpa using hhead

/-- A text that begins a statement is one when it has a single semicolon at its end. -/
theorem Leads.dropTerminator (h : Leads t) (hne : dropTerminator t ≠ []) :
    IsStatement (dropTerminator t ++ [';']) := by
  obtain ⟨hhead, hstarts, hsteady, hopen⟩ := h
  obtain ⟨trail, htrail, hlast⟩ := exists_dropTerminator t
  generalize Schema.dropTerminator t = u at *
  subst htrail
  obtain ⟨c, hc⟩ := Option.ne_none_iff_exists'.mp (mt List.getLast?_eq_none_iff.mp hne)
  have hsolid := (hlast c hc).1
  refine ⟨⟨?_, ?_, ?_, ?_⟩, by simp⟩
  · cases u with
    | nil => exact absurd rfl hne
    | cons e u => simpa using hhead
  · exact hstarts.replace ⟨c, List.mem_of_getLast? hc, hsolid⟩ fun _ => ⟨';', rfl, by decide⟩
  · refine steady_append_iff.mpr ⟨?_, steady_of_unbroken (by simp [Unbroken, isLineBreak]) []⟩
    exact (steady_append_iff.mp hsteady).1.replace hc hsolid fun _ => ⟨';', rfl, by decide⟩
  · exact runsOn_append_iff.mpr ⟨(runsOn_append_iff.mp hopen).1,
      runsOn_of_unbroken (by simp [Unbroken, isLineBreak]) _⟩

/-- What stands in front of a character that is neither a blank nor a semicolon is not touched. -/
theorem dropTerminator_append_cons {c : Char} (hc : isBlank c = false) (hne : c ≠ ';')
    (x y : Text) : dropTerminator (x ++ c :: y) = x ++ c :: dropTerminator y := by
  simp only [dropTerminator, List.reverse_append, List.reverse_cons, List.append_assoc,
    List.dropWhile_append]
  split
  · next hall => simp_all
  · simp

/-! ### The statements of a document -/

/-- The statements that a document is meant to hold. -/
def documentStatements (d : Dialect) (charset : Text) (statements : List Text) : List Text :=
  (d.headerPragmas charset ++ (statements.map dropTerminator).filter (!·.isEmpty) ++
    d.footerPragmas).map (· ++ [';'])

theorem contentLines_skip {l : Text} (h : Unbroken l) (hl : isContent l = false) (r : Text) :
    contentLines (l ++ '\n' :: r) = contentLines r := by
  rw [contentLines, lines_append_feed h, List.filter_cons_of_neg (by simp [hl])]
  rfl

theorem contentLines_statement {s : Text} (h : IsStatement s) (r : Text) :
    contentLines (s ++ '\n' :: r) = lines s ++ contentLines r := by
  rw [contentLines, lines_append h.lined h.last (by decide), List.filter_append,
    List.filter_eq_self.mpr h.isContent]
  rfl

/-- Statements that are written one after the other, with what is no statement behind each. -/
theorem contentLines_flatMap {ss : List Text} (h : ∀ s ∈ ss, IsStatement (s ++ [';'])) {gap : Text}
    (hgap : ∀ r, contentLines (gap ++ r) = contentLines r) (r : Text) :
    contentLines (ss.flatMap (fun s => s ++ (";\n".toList ++ gap)) ++ r) =
      (ss.map (· ++ [';'])).flatMap lines ++ contentLines r := by
  induction ss with
  | nil => rfl
  | cons s ss ih =>
    obtain ⟨hs, hss⟩ := List.forall_mem_cons.mp h
    rw [List.flatMap_cons, List.append_assoc, List.append_assoc, List.append_assoc]
    show contentLines (s ++ ([';'] ++ '\n' :: (gap ++ _))) = _
    rw [← List.append_assoc, contentLines_statement hs, hgap, ih hss]
    simp

theorem contentLines_comment {x : Text} (h : Unbroken x) (r : Text) :
    contentLines ('-' :: '-' :: (x ++ '\n' :: r)) = contentLines r := by
  have hunbroken : Unbroken (['-', '-'] ++ x) := unbroken_append_iff.mpr ⟨by decide, h⟩
  refine contentLines_skip hunbroken (Bool.eq_false_iff.mpr fun hcontent => ?_) r
  have hstarts := (startsLine_feed_iff hunbroken r).mpr hcontent
  simp [StartsLine, isBlank] at hstarts

/-- The lines at the top of a document are comments and a blank line. -/
theorem contentLines_banner (ht : Unbroken timestamp) (hc : Unbroken charset) (r : Text) :
    contentLines (banner timestamp charset ++ r) = contentLines r := by
  have hbanner : banner timestamp charset ++ r =
      '-' :: '-' :: (" Generated by DB Blender".toList ++ '\n' ::
        ('-' :: '-' :: ((" Timestamp: ".toList ++ timestamp) ++ '\n' ::
          ('-' :: '-' :: ((" Encoding: ".toList ++ charset) ++ '\n' :: ([] ++ '\n' :: r)))))) := by
    have hfirst : "-- Generated by DB Blender\n-- Timestamp: ".toList =
        '-' :: '-' :: (" Generated by DB Blender".toList ++ '\n' ::
          ('-' :: '-' :: " Timestamp: ".toList)) := rfl
    have hsecond : "\n-- Encoding: ".toList = '\n' :: '-' :: '-' :: " Encoding: ".toList := rfl
    have hlast : "\n\n".toList = ['\n', '\n'] := rfl
    unfold banner
    rw [hfirst, hsecond, hlast]
    generalize " Generated by DB Blender".toList = a, " Timestamp: ".toList = b,
      " Encoding: ".toList = c
    simp
  rw [hbanner, contentLines_comment (by decide),
    contentLines_comment (unbroken_append_iff.mpr ⟨by decide, ht⟩),
    contentLines_comment (unbroken_append_iff.mpr ⟨by decide, hc⟩),
    contentLines_skip (by simp [Unbroken]) rfl]

/-- What a document is meant to hold is read from it if it has the form of statements. -/
theorem ofText_document {ss : List Text} (ht : Unbroken timestamp) (hc : Unbroken charset)
    (hss : ∀ s ∈ documentStatements d charset ss, IsStatement s) :
    Script.ofText (document d charset timestamp ss) = ⟨documentStatements d charset ss, none⟩ := by
  refine ofText_of_contentLines ?_ hss
  simp only [documentStatements, List.map_append, List.forall_mem_append,
    List.forall_mem_map] at hss
  obtain ⟨⟨hheader, hbody⟩, hfooter⟩ := hss
  have hsetting : settingLine = fun s => s ++ (";\n".toList ++ []) := rfl
  have hstatement : statementLines = fun s => s ++ (";\n".toList ++ ['\n']) := rfl
  have hfeed (r : Text) : contentLines (['\n'] ++ r) = contentLines r :=
    contentLines_skip (l := []) (by simp [Unbroken]) rfl r
  simp only [document, List.append_assoc]
  rw [contentLines_banner ht hc, hsetting, contentLines_flatMap hheader fun _ => rfl, hfeed,
    hstatement, contentLines_flatMap hbody hfeed, ← List.append_nil (d.footerPragmas.flatMap _),
    contentLines_flatMap hfooter fun _ => rfl]
  simp [documentStatements, contentLines, lines]

/-! ### Settings -/

theorem unbroken_upperCase (h : Unbroken t) : Unbroken (upperCase t) := by
  intro e he
  obtain ⟨c, hc, hec⟩ := List.mem_flatMap.mp he
  by_cases hblank : isBlank c
  · rw [upperChar_of_isBlank hblank] at hec
    rw [List.mem_singleton.mp hec]
    exact h c hc
  · exact isLineBreak_of_not_isBlank ((isSolid_upperChar (by simpa using hblank)).2 e hec)

theorem unbroken_sessionEncoding (d : Dialect) (h : Unbroken charset) :
    Unbroken (d.sessionEncoding charset) := by
  have hservers : ∀ e ∈ serverEncodings, Unbroken e.2 := by decide
  cases d with
  | mysql => exact h
  | postgres =>
    show Unbroken ((serverEncodings.lookup (lowerCase charset)).getD (upperCase charset))
    cases hlookup : serverEncodings.lookup (lowerCase charset) with
    | none => exact unbroken_upperCase h
    | some encoding =>
      obtain ⟨before, after, heq, -⟩ := List.lookup_eq_some_iff.mp hlookup
      exact hservers (lowerCase charset, encoding) (by simp [heq])

/-- A line that begins with a letter is a statement with a semicolon at its end. -/
theorem isStatement_setting {s : Text} (hs : s.head? = some 'S') (h : Unbroken s) :
    IsStatement (s ++ [';']) := by
  obtain ⟨u, rfl⟩ := List.head?_eq_some_iff.mp hs
  have hunbroken : Unbroken ('S' :: u ++ [';']) := unbroken_append_iff.mpr ⟨h, by decide⟩
  have hstarts : StartsLine ('S' :: u ++ [';']) := by simp [StartsLine, isBlank]
  exact ⟨⟨⟨'S', rfl, by decide⟩, hstarts, steady_of_unbroken hunbroken [],
    runsOn_of_unbroken hunbroken []⟩, by rw [List.getLast?_append]; rfl⟩

theorem isStatement_pragma (d : Dialect) (hc : Unbroken charset) :
    ∀ s ∈ d.headerPragmas charset ++ d.footerPragmas, IsStatement (s ++ [';']) := by
  have hencoding := unbroken_sessionEncoding d hc
  suffices hall : ∀ s ∈ d.headerPragmas charset ++ d.footerPragmas,
      s.head? = some 'S' ∧ Unbroken s from
    fun s hs => isStatement_setting (hall s hs).1 (hall s hs).2
  cases d with
  | mysql =>
    simp only [Dialect.headerPragmas, Dialect.footerPragmas, List.cons_append, List.nil_append,
      List.forall_mem_cons]
    have hnames := unbroken_append_iff.mpr ⟨(by decide : Unbroken "SET NAMES ".toList), hencoding⟩
    exact ⟨⟨rfl, hnames⟩, ⟨rfl, by decide⟩, ⟨rfl, by decide⟩, nofun⟩
  | postgres =>
    simp only [Dialect.headerPragmas, Dialect.footerPragmas, List.cons_append, List.nil_append,
      List.forall_mem_cons]
    have hopen := unbroken_append_iff.mpr
      ⟨(by decide : Unbroken "SET client_encoding = '".toList), hencoding⟩
    have hquoted := unbroken_append_iff.mpr ⟨hopen, (by decide : Unbroken ['\''])⟩
    exact ⟨⟨rfl, hquoted⟩, ⟨rfl, by decide⟩, ⟨rfl, by decide⟩, nofun⟩

theorem unbroken_timestamp {now : Moment} (h : now.timestamp? = some timestamp) :
    Unbroken timestamp := by
  obtain ⟨u, -, rfl⟩ := Option.map_eq_some_iff.mp h
  have hdigits (width n : Nat) : Unbroken (decimalPadded width n) := by
    have hdigit : ∀ c ∈ "0123456789".toList, isLineBreak c = false := by decide
    intro c hc
    rcases List.mem_append.mp hc with hc | hc
    · rw [(List.mem_replicate.mp hc).2]
      decide
    · exact hdigit c (mem_of_isDigit (Nat.isDigit_of_mem_toDigits (by decide) (by decide) hc))
  simp only [Moment.dateText, Moment.clockText, unbroken_append_iff, hdigits, true_and, and_true]
  decide

/-! ### Reading a document -/

/-- A document is a script of what it is meant to hold exactly if each statement has the form of one
when it has a single semicolon at its end. -/
theorem ofText_document_iff {ss : List Text} (ht : Unbroken timestamp) (hc : Unbroken charset) :
    Script.ofText (document d charset timestamp ss) = ⟨documentStatements d charset ss, none⟩ ↔
      ∀ s ∈ ss, dropTerminator s ≠ [] → IsStatement (dropTerminator s ++ [';']) := by
  constructor
  · intro h s hs hne
    refine isStatement_of_mem_statements (t := document d charset timestamp ss) ?_
    rw [h]
    refine List.mem_map_of_mem ?_
    simp only [List.mem_append, List.mem_filter]
    exact .inl (.inr ⟨List.mem_map_of_mem hs, by simpa using hne⟩)
  · intro h
    refine ofText_document ht hc ?_
    intro s hs
    obtain ⟨u, hu, rfl⟩ := List.mem_map.mp hs
    have hpragma := isStatement_pragma d hc u
    simp only [List.mem_append, List.mem_filter, List.mem_map] at hu hpragma
    rcases hu with (hu | ⟨⟨v, hv, rfl⟩, hne⟩) | hu
    · exact hpragma (.inl hu)
    · exact h v hv (by simpa using hne)
    · exact hpragma (.inr hu)

end SchemaMill.Schema
