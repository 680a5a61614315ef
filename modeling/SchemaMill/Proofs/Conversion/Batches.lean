import SchemaMill.Proofs.Conversion.Publishing

/-!
# Batches of inputs

The inputs of a conversion are checked before any of them is read, so a refused input is the error
of the whole batch whatever the files hold, and of several refused inputs it is the first one
(`convertFiles_of_refused`). A batch without refused inputs is converted input by input
(`ConvertsEach`), but for several dumps that are merged: one document in front takes their places
(`convertFiles_eq_ok_iff`). Records never see whether dumps are merged, and so their documents are
the same in both cases (`recordDocuments_merge`).
-/

namespace SchemaMill.Conversion

variable {o : Options} {now : Moment} {f : Folder} {p : Path} {paths : List Path}

/-! ### Checks -/

/-- The error of several outcomes is that of the first that fails. -/
theorem mapM_eq_error {α β ε : Type} {g : α → Except ε β} {l : List α} {e : ε} :
    l.mapM g = .error e ↔ ∃ before a after, l = before ++ a :: after ∧
      (∀ b ∈ before, ¬Fails (g b)) ∧ g a = .error e := by
  induction l with
  | nil => simp [pure, Except.pure]
  | cons a rest ih =>
    rw [List.mapM_cons, bind_eq_error]
    constructor
    · rintro (h | ⟨b, hb, h⟩)
      · exact ⟨[], a, rest, rfl, by simp, h⟩
      obtain h | ⟨_, -, h⟩ := bind_eq_error.mp h
      · obtain ⟨before, a', after, rfl, hbefore, ha'⟩ := ih.mp h
        refine ⟨a :: before, a', after, rfl, List.forall_mem_cons.mpr ⟨?_, hbefore⟩, ha'⟩
        rw [hb]
        exact not_fails_ok b
      · cases h
    · rintro ⟨_ | ⟨x, before⟩, a', after, hl, hbefore, ha'⟩
      · obtain ⟨rfl, rfl⟩ := List.cons.inj hl
        exact .inl ha'
      · obtain ⟨rfl, rfl⟩ := List.cons.inj hl
        obtain ⟨hx, hbefore⟩ := List.forall_mem_cons.mp hbefore
        cases hga : g a with
        | error e' => exact absurd ⟨e', hga⟩ hx
        | ok b =>
          refine .inr ⟨b, rfl, bind_eq_error.mpr (.inl (ih.mpr ?_))⟩
          exact ⟨before, a', after, rfl, hbefore, ha'⟩

/-- A batch with refused inputs ends with the error of the first of them. -/
theorem convertFiles_of_refused (h : ∃ p ∈ paths, Fails (checkInput o p)) :
    ∃ before p after e, paths = before ++ p :: after ∧ (∀ q ∈ before, ¬Fails (checkInput o q)) ∧
      checkInput o p = .error e ∧ ∀ now f, convertFiles o now f paths = .error e := by
  obtain ⟨e, he⟩ := fails_mapM.mpr h
  obtain ⟨before, p, after, hpaths, hbefore, hp⟩ := mapM_eq_error.mp he
  exact ⟨before, p, after, e, hpaths, hbefore, hp, fun now f => bind_eq_error.mpr (.inl he)⟩

/-! ### Accepted inputs -/

/-- Whether inputs are converted into documents one by one, in their order. -/
def ConvertsEach (o : Options) (now : Moment) (f : Folder) (paths : List Path)
    (ds : Noted (List Document)) : Prop :=
  ∃ each, List.Forall₂ (fun p n => convertFile o now f p = .ok n) paths each ∧
    ds = ⟨each.map Noted.value, each.flatMap Noted.notices⟩

theorem convertEach_eq_ok_iff {ds : Noted (List Document)} :
    convertEach o now f paths = .ok ds ↔ ConvertsEach o now f paths ds := by
  induction paths generalizing ds with
  | nil => simp [convertEach, ConvertsEach, eq_comm]
  | cons p rest ih =>
    constructor
    · intro h
      obtain ⟨first, hfirst, h⟩ := bind_eq_ok.mp h
      obtain ⟨others, hothers, h⟩ := bind_eq_ok.mp h
      obtain rfl := Except.ok.inj h
      obtain ⟨each, heach, rfl⟩ := ih.mp hothers
      exact ⟨first :: each, .cons hfirst heach, rfl⟩
    · rintro ⟨_, hall, rfl⟩
      obtain ⟨first, each, hfirst, heach, rfl⟩ := List.forall₂_cons_left_iff.mp hall
      exact bind_eq_ok.mpr ⟨first, hfirst, bind_eq_ok.mpr ⟨_, ih.mpr ⟨each, heach, rfl⟩, rfl⟩⟩

/-- What a batch without refused inputs is converted to. -/
theorem convertFiles_eq_ok_iff (hchecks : ∀ p ∈ paths, ¬Fails (checkInput o p))
    {ds : Noted (List Document)} :
    convertFiles o now f paths = .ok ds ↔
      if mergesDumps o paths then
        ∃ merged others, convertMerged o now f (paths.filter isDump) = .ok merged ∧
          ConvertsEach o now f (paths.filter (!isDump ·)) others ∧
          ds = ⟨merged.value :: others.value, merged.notices ++ others.notices⟩
      else ConvertsEach o now f paths ds := by
  have hpass : ∃ kinds, paths.mapM (checkInput o) = .ok kinds := by
    cases h : paths.mapM (checkInput o) with
    | ok kinds => exact ⟨kinds, rfl⟩
    | error e =>
      obtain ⟨p, hp, hfails⟩ := fails_mapM.mp ⟨e, h⟩
      exact absurd hfails (hchecks p hp)
  obtain ⟨kinds, hkinds⟩ := hpass
  unfold convertFiles mergesDumps
  rw [hkinds]
  change (if _ then _ else _) = _ ↔ _
  split
  · simp only [bind_eq_ok, convertEach_eq_ok_iff, Except.ok.injEq, eq_comm (b := ds)]
    constructor
    · rintro ⟨merged, hmerged, others, hothers, h⟩
      exact ⟨merged, others, hmerged, hothers, h⟩
    · rintro ⟨merged, others, hmerged, hothers, h⟩
      exact ⟨merged, hmerged, others, hothers, h⟩
  · exact convertEach_eq_ok_iff

/-! ### Records -/

/-- Whether a path is that of records. -/
def isRecords (p : Path) : Bool := (kindOf? p).any (· != .dump)

theorem not_isDump_of_isRecords (h : isRecords p = true) : isDump p = false := by
  obtain ⟨kind, hkind, hne⟩ := (Option.any_eq_true _ _).mp h
  rw [isDump, hkind]
  simpa using hne

/-- The documents of records among those of a batch. -/
def recordDocuments (ds : List Document) : List Document := ds.filter fun d => isRecords d.source

/-- The documents of records are what the inputs that hold records are converted to. -/
theorem recordDocuments_of_convertEach {ds : Noted (List Document)}
    (h : convertEach o now f paths = .ok ds) : ∃ notices,
    convertEach o now f (paths.filter isRecords) = .ok ⟨recordDocuments ds.value, notices⟩ := by
  induction paths generalizing ds with
  | nil =>
    obtain rfl := Except.ok.inj h
    exact ⟨[], rfl⟩
  | cons p rest ih =>
    obtain ⟨first, hfirst, h⟩ := bind_eq_ok.mp h
    obtain ⟨others, hothers, h⟩ := bind_eq_ok.mp h
    obtain rfl := Except.ok.inj h
    obtain ⟨hsource, -⟩ := convertFile_eq_ok hfirst
    obtain ⟨notices, hrecords⟩ := ih hothers
    rw [List.filter_cons, recordDocuments, List.filter_cons, hsource]
    split
    · exact ⟨_, bind_eq_ok.mpr ⟨first, hfirst, bind_eq_ok.mpr ⟨_, hrecords, rfl⟩⟩⟩
    · exact ⟨notices, hrecords⟩

theorem recordDocuments_of_convertFiles {ds : Noted (List Document)}
    (h : convertFiles o now f paths = .ok ds) : ∃ notices,
    convertEach o now f (paths.filter isRecords) = .ok ⟨recordDocuments ds.value, notices⟩ := by
  obtain ⟨_, -, h⟩ := bind_eq_ok.mp h
  dsimp only at h
  split at h
  · obtain ⟨merged, hmerged, h⟩ := bind_eq_ok.mp h
    obtain ⟨others, hothers, h⟩ := bind_eq_ok.mp h
    obtain rfl := Except.ok.inj h
    have hkept : (paths.filter (!isDump ·)).filter isRecords = paths.filter isRecords := by
      rw [List.filter_filter]
      refine List.filter_congr fun p _ => ?_
      cases hp : isRecords p with
      | false => rfl
      | true => simp [not_isDump_of_isRecords hp]
    obtain ⟨_, -, hmerged⟩ := bind_eq_ok.mp hmerged
    obtain ⟨_, -, hmerged⟩ := bind_eq_ok.mp hmerged
    have hsource : isRecords merged.value.source = false := by
      rw [(encodeDocument_eq_ok hmerged).1]
      decide
    rw [← hkept, recordDocuments, List.filter_cons_of_neg (by simp [hsource])]
    exact recordDocuments_of_convertEach hothers
  · exact recordDocuments_of_convertEach h

theorem convertFile_merge (hp : isDump p = false) (merge : Bool) :
    convertFile { o with merge } now f p = convertFile o now f p := by
  have hkind : ∀ kind, checkInput o p = .ok kind → kind ≠ .dump := by
    rintro _ hcheck rfl
    unfold checkInput at hcheck
    split at hcheck
    · cases hcheck
    · next hdump => simp [isDump, hdump] at hp
    · next hother _ => cases hcheck; exact absurd rfl hother
  have hcheck : checkInput { o with merge } p = checkInput o p := rfl
  rw [convertFile, convertFile, hcheck]
  cases hresult : checkInput o p with
  | error e => rfl
  | ok kind =>
    have htext : convertText { o with merge } now p kind = convertText o now p kind := by
      funext t
      rw [convertText_of_ne_dump (hkind kind hresult), convertText_of_ne_dump (hkind kind hresult)]
      rfl
    change (_ >>= fun t => convertText { o with merge } now p kind t >>= _) = _
    rw [htext]
    rfl

theorem convertEach_merge (hpaths : ∀ p ∈ paths, isDump p = false) (merge : Bool) :
    convertEach { o with merge } now f paths = convertEach o now f paths := by
  induction paths with
  | nil => rfl
  | cons p rest ih =>
    obtain ⟨hp, hrest⟩ := List.forall_mem_cons.mp hpaths
    rw [convertEach, convertEach, convertFile_merge hp, ih hrest]

/-- The documents of records are the same whether dumps are merged or not. -/
theorem recordDocuments_merge {on off : Noted (List Document)}
    (hon : convertFiles { o with merge := true } now f paths = .ok on)
    (hoff : convertFiles { o with merge := false } now f paths = .ok off) :
    recordDocuments on.value = recordDocuments off.value := by
  have hpaths : ∀ p ∈ paths.filter isRecords, isDump p = false := fun p hp =>
    not_isDump_of_isRecords (List.mem_filter.mp hp).2
  obtain ⟨_, hon⟩ := recordDocuments_of_convertFiles hon
  obtain ⟨_, hoff⟩ := recordDocuments_of_convertFiles hoff
  rw [convertEach_merge hpaths] at hon hoff
  exact congrArg Noted.value (Except.ok.inj (hon.symm.trans hoff))

/-! ### Whole batches -/

/-- If an input of a batch is refused, then the error of the first such input is that of the batch,
whatever the files hold. Otherwise the batch ends with the documents of its inputs in their order,
or, where dumps are merged and there are two or more, with the document of all dumps and those of
the other inputs in their order, or it does not end with documents. No input but a dump is converted
otherwise where dumps are merged, and of two batches that end with documents, one with merged dumps
and one without, the documents of records are the same. -/
theorem convertFiles_batch (o : Options) (paths : List Path) :
    ((∃ p ∈ paths, Fails (checkInput o p)) →
        ∃ before p after e, paths = before ++ p :: after ∧
          (∀ q ∈ before, ¬Fails (checkInput o q)) ∧ checkInput o p = .error e ∧
          ∀ now f, convertFiles o now f paths = .error e) ∧
      ((∀ p ∈ paths, ¬Fails (checkInput o p)) → ∀ now f ds,
        convertFiles o now f paths = .ok ds ↔
          if mergesDumps o paths then
            ∃ merged others, convertMerged o now f (paths.filter isDump) = .ok merged ∧
              ConvertsEach o now f (paths.filter (!isDump ·)) others ∧
              ds = ⟨merged.value :: others.value, merged.notices ++ others.notices⟩
          else ConvertsEach o now f paths ds) ∧
      (∀ p, isDump p = false → ∀ merge now f,
        convertFile { o with merge } now f p = convertFile o now f p) ∧
      ∀ now f on off, convertFiles { o with merge := true } now f paths = .ok on →
        convertFiles { o with merge := false } now f paths = .ok off →
          recordDocuments on.value = recordDocuments off.value :=
  ⟨convertFiles_of_refused, fun hchecks _ _ _ => convertFiles_eq_ok_iff hchecks,
    fun _ hp merge _ _ => convertFile_merge hp merge, fun _ _ _ _ => recordDocuments_merge⟩

/-- Two empty dumps, and records. -/
def mixedFiles : Folder :=
  { nodes := [(["a.sql".toList], .file []), (["b.sql".toList], .file []),
      (["feed.csv".toList], .file ("a,b\n1,2".toList.flatMap String.utf8EncodeChar))] }

/-- The paths of these files, the records between the dumps. -/
def mixedPaths : List Path := [.ofText "a.sql", .ofText "feed.csv", .ofText "b.sql"]

/-- With a note behind them the inputs are refused, whatever files there are. Without it the dumps
are converted into two documents, or into one where they are merged, and the document of the records
is the same. -/
theorem convertFiles_batch_mixedPaths :
    (∀ now f, convertFiles plainOptions now f (mixedPaths ++ [.ofText "notes.txt"]) =
        .error (.unsupported (.ofText "notes.txt"))) ∧
      convertFile { plainOptions with merge := true } plainMoment mixedFiles (.ofText "feed.csv") =
        convertFile plainOptions plainMoment mixedFiles (.ofText "feed.csv") ∧
      ∃ on off,
        convertFiles { plainOptions with merge := true } plainMoment mixedFiles mixedPaths =
          .ok on ∧
        on.value.map Document.source = [mergedSource, .ofText "feed.csv"] ∧
        convertFiles plainOptions plainMoment mixedFiles mixedPaths = .ok off ∧
        off.value.map Document.source = mixedPaths ∧
        ConvertsEach plainOptions plainMoment mixedFiles mixedPaths off ∧
        recordDocuments on.value = recordDocuments off.value := by
  obtain ⟨hrefused, -⟩ :=
    convertFiles_batch plainOptions (mixedPaths ++ [.ofText "notes.txt"])
  obtain ⟨-, haccepted, halone, hrecords⟩ := convertFiles_batch plainOptions mixedPaths
  have hkinds : mixedPaths.mapM (checkInput plainOptions) = .ok [.dump, .csv, .dump] := by decide
  have hchecks : ∀ p ∈ mixedPaths, ¬Fails (checkInput plainOptions p) := fun p hp h =>
    not_fails_ok _ (hkinds ▸ fails_mapM.mpr ⟨p, hp, h⟩)
  have hnote : checkInput plainOptions (.ofText "notes.txt") =
      .error (.unsupported (.ofText "notes.txt")) := by decide
  have hconvert : ∀ merge, ∃ ds, convertFiles { plainOptions with merge } plainMoment mixedFiles
      mixedPaths = .ok ds := fun merge => by
    have hok : ∀ merge, (convertFiles { plainOptions with merge } plainMoment mixedFiles
        mixedPaths).isOk = true := by decide +kernel
    specialize hok merge
    cases h : convertFiles { plainOptions with merge } plainMoment mixedFiles mixedPaths with
    | ok ds => exact ⟨ds, rfl⟩
    | error e => rw [h] at hok; cases hok
  obtain ⟨on, hon⟩ := hconvert true
  obtain ⟨off, hoff⟩ := hconvert false
  refine ⟨fun now f => ?_, halone _ (by decide) true _ _, on, off, hon, ?_, hoff, ?_,
    (haccepted hchecks _ _ _).mp hoff, hrecords _ _ _ _ hon hoff⟩
  · obtain ⟨before, p, after, e, -, -, -, herror⟩ :=
      hrefused ⟨.ofText "notes.txt", by simp, _, hnote⟩
    rw [herror]
    exact (herror plainMoment {}).symm.trans (by decide)
  · rw [(convertFiles_eq_ok hon).1]
    decide
  · rw [(convertFiles_eq_ok hoff).1]
    decide

end SchemaMill.Conversion
