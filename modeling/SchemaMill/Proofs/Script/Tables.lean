import SchemaMill.Proofs.Reading.Elements
import SchemaMill.Proofs.Script.Pieces
import SchemaMill.Schema.Target

/-!
# Tables that are written again

The pieces of a table that is read from the lines of a statement can be written again on such lines
(`fits_of_readTable`), and so can those of the table that is moved to a target
(`Table.Fits.move`).
-/

namespace SchemaMill.Sql

open Schema

variable {c : Char} {d : Dialect} {t : Text}

/-! ### The pieces of a table -/

/-- A part of a clause that can be written again. -/
def Part.Fits : Part → Prop
  | token u => u.Fits
  | name q => q.Fits

/-- A character set and a collation that can be written again. -/
structure ColumnEncoding.Fits (e : ColumnEncoding) : Prop where
  /-- The character set keeps to the lines of a statement. -/
  charset : ∀ v ∈ e.charset, Steady [] v
  /-- The collation keeps to the lines of a statement. -/
  collation : ∀ v ∈ e.collation, Steady [] v

/-- A column of which everything can be written again. -/
structure Column.Fits (c : Column) : Prop where
  /-- The name can be written in any quotes. -/
  name : c.name.Fits
  /-- Without quotes it is told apart from what stands around it. -/
  firm : c.name.quoted = false → Firm c.name.name
  /-- The type stands on one line. -/
  dataType : Unbroken c.dataType
  /-- The arguments of the type can be written again. -/
  typeArgs : ∀ u ∈ c.typeArgs, u.Fits
  /-- The character set and the collation can be written again. -/
  encoding : ColumnEncoding.Fits ⟨c.charset, c.collation⟩
  /-- All that follows can be written again. -/
  options : ∀ p ∈ c.options, p.Fits

/-- An element of which everything can be written again. -/
def Element.Fits : Element → Prop
  | column c => c.Fits
  | constraint c => ∀ p ∈ c.parts, p.Fits

/-- A table of which everything can be written again. -/
structure Table.Fits (t : Table) : Prop where
  /-- The words up to the table name can be written again. -/
  head : ∀ u ∈ t.head, u.Fits
  /-- The table name can be written in any quotes. -/
  name : t.name.Fits
  /-- The elements can be written again. -/
  elements : ∀ es ∈ t.elements, ∀ e ∈ es, e.Fits
  /-- The table options can stand behind any text. -/
  options : ∀ u ∈ t.options, Settled u.value

theorem Token.fits_of_unbroken {u : Token} (h : Unbroken u.value)
    (hhead : ∃ c, u.value.head? = some c ∧ isBlank c = false ∧ c ≠ '-') : u.Fits := by
  obtain ⟨c, hc, hblank, hminus⟩ := hhead
  refine ⟨⟨⟨c, hc, hblank⟩, fun hfeed => ?_, fun r hr => ?_⟩, steady_of_unbroken h [],
    runsOn_of_unbroken h []⟩
  · exact absurd (h '\n' hfeed) (by decide)
  · rw [hr] at hc
    cases hc
    exact hminus rfl

/-! ### Reading -/

section Reading

variable {ts : List Token}

theorem Token.Fits.identifier {u : Token} (h : u.Fits) : u.identifier.Fits :=
  Identifier.fits_ofText h.steady h.runsOn

theorem unbroken_word (u : Token) : Unbroken u.word := by
  rw [Token.word]
  split
  · simp [Unbroken]
  · exact unbroken_collapseBlanks _

theorem fits_readDotted (h : ∀ u ∈ ts, u.Fits) :
    (∀ i ∈ (readDotted ts).1, i.Fits) ∧ ∀ u ∈ (readDotted ts).2, u.Fits := by
  fun_induction readDotted ts with
  | case1 dot t rest _ ih =>
    obtain ⟨-, h⟩ := List.forall_mem_cons.mp h
    obtain ⟨ht, hrest⟩ := List.forall_mem_cons.mp h
    exact ⟨List.forall_mem_cons.mpr ⟨ht.identifier, (ih hrest).1⟩, (ih hrest).2⟩
  | case2 => exact ⟨by simp, h⟩
  | case3 => exact ⟨by simp, h⟩

theorem fits_of_readName {q : QualifiedName} {rest : List Token} (h : ∀ u ∈ ts, u.Fits)
    (hq : readName ts = some (q, rest)) : q.Fits ∧ ∀ u ∈ rest, u.Fits := by
  cases ts with
  | nil => cases hq
  | cons t ts =>
    rw [readName] at hq
    split at hq
    · cases hq
      obtain ⟨ht, hts⟩ := List.forall_mem_cons.mp h
      obtain ⟨hnames, hrest⟩ := fits_readDotted hts
      refine ⟨?_, hrest⟩
      rw [QualifiedName.Fits, QualifiedName.parts, List.dropLast_concat_getLast]
      exact List.forall_mem_cons.mpr ⟨ht.identifier, hnames⟩
    · cases hq

theorem fits_liftReferences (h : ∀ u ∈ ts, u.Fits) : ∀ p ∈ liftReferences ts, p.Fits := by
  fun_induction liftReferences ts with
  | case1 => simp
  | case2 t rest _ q after hname ih =>
    obtain ⟨ht, hrest⟩ := List.forall_mem_cons.mp h
    obtain ⟨hq, hafter⟩ := fits_of_readName hrest hname
    exact List.forall_mem_cons.mpr ⟨ht, List.forall_mem_cons.mpr ⟨hq, ih hafter⟩⟩
  | case3 t rest _ _ ih | case4 t rest _ ih =>
    obtain ⟨ht, hrest⟩ := List.forall_mem_cons.mp h
    exact List.forall_mem_cons.mpr ⟨ht, ih hrest⟩

theorem subset_of_closeGroup {depth : Nat} {inside after : List Token}
    (h : closeGroup depth ts = some (inside, after)) : inside ⊆ ts ∧ after ⊆ ts := by
  have hcons {t : Token} {ts inside after : List Token} (h : inside ⊆ ts ∧ after ⊆ ts) :
      t :: inside ⊆ t :: ts ∧ after ⊆ t :: ts :=
    ⟨List.cons_subset_cons t h.1, List.subset_cons_of_subset t h.2⟩
  fun_induction closeGroup depth ts generalizing inside after with
  | case1 => cases h
  | case2 depth t rest _ ih | case5 t rest _ _ depth ih | case6 depth t rest _ _ ih =>
    obtain ⟨⟨i, a⟩, hia, h⟩ := Option.map_eq_some_iff.mp h
    cases h
    exact hcons (ih hia)
  | case3 => cases h
  | case4 t rest =>
    cases h
    exact ⟨by simp, List.subset_cons_self t rest⟩

theorem subset_of_mem_splitAtCommas {depth : Int} {chunk : List Token}
    (h : chunk ∈ splitAtCommas depth ts) : chunk ⊆ ts := by
  induction ts generalizing depth chunk with
  | nil => simp_all [splitAtCommas]
  | cons t ts ih =>
    obtain ⟨first, more, hts⟩ :=
      List.exists_cons_of_ne_nil (splitAtCommas_ne_nil (depthAfter depth t) ts)
    by_cases ht : (t.isSign ',' && depth == 0) = true
    · rw [splitAtCommas, if_pos ht] at h
      rcases List.mem_cons.mp h with rfl | h
      · simp
      · exact List.subset_cons_of_subset t (ih h)
    · rw [splitAtCommas_cons (by simpa using ht) hts] at h
      rcases List.mem_cons.mp h with rfl | h
      · exact List.cons_subset_cons t (ih (by rw [hts]; exact List.mem_cons_self))
      · exact List.subset_cons_of_subset t (ih (by rw [hts]; exact List.mem_cons_of_mem _ h))

theorem fits_extractEncoding {found : ColumnEncoding} (h : ∀ u ∈ ts, u.Fits)
    (hfound : found.Fits) :
    (∀ u ∈ (extractEncoding found ts).1, u.Fits) ∧ (extractEncoding found ts).2.Fits := by
  have hcharset {found : ColumnEncoding} (hfound : found.Fits) {u : Token} (hu : u.Fits) :
      ColumnEncoding.Fits { found with charset := some u.value } :=
    ⟨by rintro _ ⟨⟩; exact hu.steady, hfound.collation⟩
  have hcollation {found : ColumnEncoding} (hfound : found.Fits) {u : Token} (hu : u.Fits) :
      ColumnEncoding.Fits { found with collation := some u.value } :=
    ⟨hfound.charset, by rintro _ ⟨⟩; exact hu.steady⟩
  fun_induction extractEncoding found ts with
  | case1 => exact ⟨by simp, hfound⟩
  | case2 => exact ⟨h, hfound⟩
  | case3 found t u => exact ⟨by simp, hcharset hfound (h u (by simp))⟩
  | case4 found t u => exact ⟨by simp, hcollation hfound (h u (by simp))⟩
  | case5 => exact ⟨h, hfound⟩
  | case6 found t u v rest _ ih =>
    exact ih (fun u hu => h u (by simp [hu])) (hcharset hfound (h v (by simp)))
  | case7 found t u v rest _ _ ih =>
    exact ih (fun w hw => h w (by simp_all)) (hcharset hfound (h u (by simp)))
  | case8 found t u v rest _ _ _ ih =>
    exact ih (fun w hw => h w (by simp_all)) (hcollation hfound (h u (by simp)))
  | case9 found t u v rest _ _ _ remaining found' heq ih =>
    obtain ⟨ht, hrest⟩ := List.forall_mem_cons.mp h
    rw [heq] at ih
    obtain ⟨hremaining, hfound'⟩ := ih hrest hfound
    exact ⟨List.forall_mem_cons.mpr ⟨ht, hremaining⟩, hfound'⟩

theorem fits_of_readColumn {name : Token} {col : Column} (hname : name.Fits)
    (h : ∀ u ∈ ts, u.Fits) (hcol : readColumn name ts = .ok col) : col.Fits := by
  -- whatever stands in parentheses behind the type, the rest are options
  have hcolumn (type : Token) {args rest : List Token} (hargs : ∀ u ∈ args, u.Fits)
      (hrest : ∀ u ∈ rest, u.Fits) : Column.Fits {
        name := name.identifier, dataType := type.word, typeArgs := args,
        charset := (extractEncoding {} rest).2.charset,
        collation := (extractEncoding {} rest).2.collation,
        options := liftReferences (extractEncoding {} rest).1 } := by
    have hempty : ColumnEncoding.Fits {} := ⟨by simp, by simp⟩
    obtain ⟨hoptions, hencoding⟩ := fits_extractEncoding hrest hempty
    refine ⟨hname.identifier, fun hquoted => ?_, unbroken_word type, hargs, hencoding,
      fits_liftReferences hoptions⟩
    have hvalue : name.identifier.name = name.value := Identifier.ofText_of_not_quoted hquoted
    rw [hvalue]
    exact hname.firm
  cases ts with
  | nil => cases hcol
  | cons type ts =>
    obtain ⟨-, h⟩ := List.forall_mem_cons.mp h
    cases ts with
    | nil =>
      cases hcol
      exact hcolumn type (by simp) h
    | cons t ts =>
      simp only [readColumn] at hcol
      split at hcol
      · split at hcol
        · cases hcol
        · next args after hclose =>
          cases hcol
          obtain ⟨-, hts⟩ := List.forall_mem_cons.mp h
          obtain ⟨hargs, hafter⟩ := subset_of_closeGroup hclose
          exact hcolumn type (fun u hu => hts u (hargs hu)) fun u hu => hts u (hafter hu)
      · cases hcol
        exact hcolumn type (by simp) h

theorem fits_of_readElement {e : Element} (h : ∀ u ∈ ts, u.Fits) (he : readElement ts = .ok e) :
    e.Fits := by
  cases ts with
  | nil => cases he
  | cons t ts =>
    rw [readElement] at he
    split at he
    · cases he
      exact fits_liftReferences h
    · cases hcol : readColumn t ts with
      | error e => rw [hcol] at he; cases he
      | ok col =>
        rw [hcol] at he
        cases he
        obtain ⟨ht, hts⟩ := List.forall_mem_cons.mp h
        exact fits_of_readColumn ht hts hcol

theorem fits_of_mapM {chunks : List (List Token)} {es : List Element}
    (h : ∀ chunk ∈ chunks, ∀ u ∈ chunk, u.Fits) (hes : chunks.mapM readElement = .ok es) :
    ∀ e ∈ es, e.Fits := by
  induction chunks generalizing es with
  | nil => cases hes; simp
  | cons chunk chunks ih =>
    obtain ⟨hchunk, hchunks⟩ := List.forall_mem_cons.mp h
    rw [List.mapM_cons] at hes
    cases he : readElement chunk with
    | error e => rw [he] at hes; cases hes
    | ok e =>
      cases hes' : chunks.mapM readElement with
      | error e => rw [he, hes'] at hes; cases hes
      | ok es' =>
        rw [he, hes'] at hes
        cases hes
        exact List.forall_mem_cons.mpr ⟨fits_of_readElement hchunk he, ih hchunks hes'⟩

theorem fits_of_readBody {head : List Token} {name : QualifiedName} {t : Table}
    (hhead : ∀ u ∈ head, u.Fits) (hname : name.Fits) (h : ∀ u ∈ ts, u.Fits)
    (ht : readBody head name ts = .ok t) : t.Fits := by
  cases ts with
  | nil =>
    cases ht
    exact ⟨hhead, hname, by simp, by simp⟩
  | cons u us =>
    simp only [readBody] at ht
    split at ht
    · split at ht
      · cases ht
      · next body tail hclose =>
        obtain ⟨hbody, htail⟩ := subset_of_closeGroup hclose
        have hus := (List.forall_mem_cons.mp h).2
        split at ht
        · cases ht
        · cases hes : (splitElements body).mapM readElement with
          | error e => rw [hes] at ht; cases ht
          | ok es =>
            rw [hes] at ht
            simp only [bind, Except.bind] at ht
            split at ht <;> cases ht
            refine ⟨hhead, hname, ?_, fun u hu => (hus u (htail hu)).settled⟩
            rintro _ ⟨⟩
            refine fits_of_mapM (fun chunk hchunk u hu => hus u (hbody ?_)) hes
            exact subset_of_mem_splitAtCommas (List.mem_filter.mp hchunk).1 hu
    · split at ht <;> cases ht
      exact ⟨hhead, hname, by simp, fun u hu => (h u hu).settled⟩

theorem fits_of_readTokens {t : Table} (h : ∀ u ∈ ts, u.Fits) (ht : readTokens ts = .ok t) :
    t.Fits := by
  have hdrop : ∀ u ∈ dropTerminators ts, u.Fits := fun u hu => h u <| by
    have := (List.dropWhile_suffix _).subset (List.mem_reverse.mp hu)
    exact List.mem_reverse.mp this
  simp only [readTokens] at ht
  generalize dropTerminators ts = us at ht hdrop
  split at ht
  · cases ht
  · split at ht
    · cases ht
    · split at ht
      · cases ht
      · next name rest hname =>
        obtain ⟨hname, hrest⟩ := fits_of_readName
          (fun u hu => hdrop u ((List.dropWhile_suffix _).subset hu)) hname
        exact fits_of_readBody
          (fun u hu => hdrop u ((List.takeWhile_prefix _).subset hu)) hname hrest ht

/-- What is read from the lines of a statement can be written again on such lines. -/
theorem fits_of_readTable {sql : Text} {t : Table} (hsteady : Steady [] sql)
    (hopen : RunsOn [] sql) (h : readTable sql = .ok t) : t.Fits := by
  rw [readTable] at h
  split at h
  · cases h
  · next ts hts => exact fits_of_readTokens (fits_of_tokenize hsteady hopen hts) h

end Reading

/-! ### Moving -/

theorem bareName_suffix (strip : Option Text) (name : Text) :
    Target.bareName strip name <:+ name := by
  rw [Target.bareName]
  split
  · next c rest h =>
    obtain ⟨lead, -, hlead⟩ := Option.bind_eq_some_iff.mp h
    exact ⟨lead, (dropPrefix?_eq_some_iff.mp hlead).symm⟩
  · exact List.suffix_rfl

theorem QualifiedName.Fits.rename {q : QualifiedName} (h : q.Fits) {v : Text} (hv : v <:+ q.name) :
    (q.rename v).Fits := by
  intro i hi
  rcases List.mem_append.mp hi with hi | hi
  · exact h i (List.mem_append_left _ hi)
  · rw [List.mem_singleton.mp hi]
    exact (h q.table (List.mem_append_right _ (List.mem_singleton_self _))).suffix hv

theorem Part.Fits.mapName {p : Part} (h : p.Fits) (strip : Option Text) :
    (p.mapName (Target.bareName strip)).Fits := by
  cases p with
  | token u => exact h
  | name q => exact QualifiedName.Fits.rename h (bareName_suffix strip q.name)

theorem Column.Fits.boundType {c : Column} (h : c.Fits) : (Target.boundType c).Fits := by
  rw [Target.boundType]
  split
  · have htype : Unbroken "VARCHAR".toList := by decide
    refine { h with dataType := htype, typeArgs := List.forall_mem_singleton.mpr ?_ }
    have hlength : Unbroken "255".toList := by decide
    exact Token.fits_of_unbroken hlength ⟨'2', rfl, by decide⟩
  · exact h

theorem unbroken_collationFor {charset : Text} (h : Unbroken charset) :
    Unbroken (collationFor charset) :=
  unbroken_append_iff.mpr ⟨h, by decide⟩

theorem Column.Fits.encode {c : Column} (h : c.Fits) {o : Target} (ho : Unbroken o.charset) :
    (o.encodeColumn c).Fits := by
  rw [Target.encodeColumn]
  split
  · exact { h with encoding := ⟨by simp, by simp⟩ }
  · split
    · refine { h with encoding := ⟨?_, ?_⟩ }
      · rintro _ ⟨⟩
        exact steady_of_unbroken ho []
      · rintro _ ⟨⟩
        exact steady_of_unbroken (unbroken_collationFor ho) []
    · exact h

theorem Element.Fits.move {e : Element} (h : e.Fits) {o : Target} (ho : Unbroken o.charset) :
    (o.moveElement e).Fits := by
  have hparts {ps : List Part} (hps : ∀ p ∈ ps, p.Fits) :
      ∀ p ∈ ps.map (Part.mapName (Target.bareName o.strip)), p.Fits :=
    List.forall_mem_map.mpr fun p hp => (hps p hp).mapName o.strip
  cases e with
  | column c =>
    have hencoded := (Column.Fits.boundType h).encode ho
    exact { hencoded with options := hparts (Column.Fits.options h) }
  | constraint c => exact hparts h

theorem settled_moveOptionsFrom {charset previous awaited : Text} {ts : List Token}
    (hcharset : Unbroken charset) (hawaited : Unbroken awaited) (h : ∀ u ∈ ts, Settled u.value) :
    ∀ u ∈ (Target.moveOptionsFrom charset previous awaited ts).tokens, Settled u.value := by
  induction ts generalizing previous awaited with
  | nil => simp [Target.moveOptionsFrom]
  | cons t ts ih =>
    obtain ⟨ht, hts⟩ := List.forall_mem_cons.mp h
    rw [Target.moveOptionsFrom]
    split
    · exact List.forall_mem_cons.mpr
        ⟨settled_of_unbroken hawaited, ih (by simp [Unbroken]) hts⟩
    · refine List.forall_mem_cons.mpr ⟨ht, ih ?_ hts⟩
      split
      · exact hcharset
      · split
        · exact unbroken_collationFor hcharset
        · exact hawaited

theorem settled_moveOptions {charset : Text} {ts : List Token} (hcharset : Unbroken charset)
    (h : ∀ u ∈ ts, Settled u.value) :
    ∀ u ∈ Target.moveOptions charset ts, Settled u.value := by
  have hmoved : ∀ u ∈ (Target.moveOptionsFrom charset [] [] ts).tokens, Settled u.value :=
    settled_moveOptionsFrom hcharset (by simp [Unbroken]) h
  rw [Target.moveOptions]
  split
  · refine List.forall_mem_append.mpr ⟨hmoved, ?_⟩
    have hcollation := settled_of_unbroken (unbroken_collationFor hcharset)
    have hsetting : Settled "COLLATE".toList ∧ Settled "=".toList :=
      ⟨settled_of_unbroken (by decide), settled_of_unbroken (by decide)⟩
    simpa [Target.collationClause] using ⟨hsetting.1, hsetting.2, hcollation⟩
  · exact hmoved

/-- A table that is moved to a target can be written again, too. -/
theorem Table.Fits.move {t : Table} (h : t.Fits) {o : Target} (ho : Unbroken o.charset) :
    (o.move t).Fits := by
  refine ⟨h.head, h.name.rename (bareName_suffix _ _), ?_, ?_⟩
  · intro es hes e he
    obtain ⟨es', hes', rfl⟩ := Option.map_eq_some_iff.mp hes
    obtain ⟨e', he', rfl⟩ := List.mem_map.mp he
    exact (h.elements es' hes' e' he').move ho
  · show ∀ u ∈ if o.dialect.hasColumnCharsets then Target.moveOptions o.charset t.options
      else t.options, Settled u.value
    split
    · exact settled_moveOptions ho h.options
    · exact h.options

end SchemaMill.Sql
