import SchemaMill.Proofs.Conversion.Exports

/-!
# Failed conversions publish nothing

A run makes its folder for documents and the logs in it, looks at its inputs, and converts all of
them before a document leaves it. So it does not matter which of the inputs fails or at what stage:
whatever stands in the way of a conversion (`Obstacle`) stops the run with nothing printed and with
no file that was not there before, the logs apart (`publishesNothing_of_obstacle`). Which
conversions fail is found stage by stage, from checks and from single files (`fails_convertFiles`).
-/

namespace SchemaMill.Conversion

variable {o : Options} {now : Moment} {f : Folder} {paths : List Path}

/-! ### Failing outcomes -/

/-- Whether an outcome is an error. -/
def Fails {ε α : Type} (r : Except ε α) : Prop := ∃ e, r = .error e

section Outcomes

variable {α β γ ε : Type} {x : Except ε α} {y : Except ε β}

@[simp] theorem not_fails_ok (a : α) : ¬Fails (.ok a : Except ε α) := nofun

@[simp] theorem fails_error (e : ε) : Fails (.error e : Except ε α) := ⟨e, rfl⟩

theorem fails_bind_const : Fails (x >>= fun _ => y) ↔ Fails x ∨ Fails y := by
  cases x <;> simp [bind, Except.bind]

theorem fails_bind_ok {g : α → β → γ} :
    Fails (x >>= fun a => y >>= fun b => .ok (g a b)) ↔ Fails x ∨ Fails y := by
  cases x <;> cases y <;> simp [bind, Except.bind]

theorem fails_mapM {g : α → Except ε β} {l : List α} :
    Fails (l.mapM g) ↔ ∃ a ∈ l, Fails (g a) := by
  induction l with
  | nil => simp [pure, Except.pure]
  | cons a rest ih =>
    rw [List.mapM_cons]
    refine (fails_bind_ok (g := List.cons)).trans ?_
    simp [ih]

end Outcomes

/-! ### Failing conversions -/

theorem fails_convertEach :
    Fails (convertEach o now f paths) ↔ ∃ p ∈ paths, Fails (convertFile o now f p) := by
  induction paths with
  | nil => simp [convertEach]
  | cons p rest ih =>
    rw [convertEach, fails_bind_ok, ih]
    simp

/-- Whether inputs hold several dumps that become one document. -/
def mergesDumps (o : Options) (paths : List Path) : Bool :=
  o.merge && 1 < (paths.filter isDump).length

/-- What makes the conversion of some inputs fail, wherever it is found among them. -/
inductive ConversionFails (o : Options) (now : Moment) (f : Folder) (paths : List Path) : Prop where
  /-- An input is refused before any is read. -/
  | check {p : Path} (hp : p ∈ paths) (h : Fails (checkInput o p))
  /-- Several dumps cannot be merged. -/
  | merged (hmerge : mergesDumps o paths)
      (h : Fails (convertMerged o now f (paths.filter isDump)))
  /-- An input that is converted by itself cannot be. -/
  | single {p : Path} (hp : p ∈ paths) (halone : mergesDumps o paths → isDump p = false)
      (h : Fails (convertFile o now f p))

/-- A conversion fails exactly where a check, the merge or the conversion of one file does. -/
theorem fails_convertFiles :
    Fails (convertFiles o now f paths) ↔ ConversionFails o now f paths := by
  have hstages : Fails (convertFiles o now f paths) ↔
      (∃ p ∈ paths, Fails (checkInput o p)) ∨
        if mergesDumps o paths then
          Fails (convertMerged o now f (paths.filter isDump)) ∨
            ∃ p ∈ paths.filter (!isDump ·), Fails (convertFile o now f p)
        else ∃ p ∈ paths, Fails (convertFile o now f p) := by
    unfold convertFiles mergesDumps
    rw [fails_bind_const, fails_mapM]
    refine or_congr_right ?_
    dsimp only
    split
    · rw [fails_bind_ok, fails_convertEach]
    · exact fails_convertEach
  rw [hstages]
  constructor
  · rintro (⟨p, hp, h⟩ | h)
    · exact .check hp h
    split at h
    · next hmerge =>
      obtain h | ⟨p, hp, h⟩ := h
      · exact .merged hmerge h
      · obtain ⟨hp, hdump⟩ := List.mem_filter.mp hp
        exact .single hp (fun _ => by simpa using hdump) h
    · next hmerge =>
      obtain ⟨p, hp, h⟩ := h
      exact .single hp (fun h => absurd h hmerge) h
  · rintro (⟨hp, h⟩ | ⟨hmerge, h⟩ | ⟨hp, halone, h⟩)
    · exact .inl ⟨_, hp, h⟩
    · exact .inr (by rw [if_pos hmerge]; exact .inl h)
    · refine .inr ?_
      split
      · next hmerge => exact .inr ⟨_, List.mem_filter.mpr ⟨hp, by simp [halone hmerge]⟩, h⟩
      · exact ⟨_, hp, h⟩

/-- Settings are no options because of an encoding or because of the format. -/
theorem fails_options {s : Settings} :
    Fails s.options ↔ isReadable s.source = false ∨ isWritable s.target = false ∨
      Format.ofText? s.format = none := by
  unfold Settings.options
  split
  · next hsource =>
    split
    · next htarget =>
      cases hformat : Format.ofText? s.format <;> simp [hsource, htarget]
    · next htarget => simp [htarget]
  · next hsource => simp [hsource]

end SchemaMill.Conversion

namespace SchemaMill.Cli

open Charset Conversion

variable {f g : Folder} {told : List Message} {now : Moment} {c : ConvertCommand}

/-! ### Runs that stop -/

theorem stops_refuse (e : SettingsError) : (Run.refuse f e).Stops f := by
  cases e with
  | encoding e => exact stops_fail _
  | format name => exact stops_giveUp _

theorem stops_problem (problem : InputProblem) : (problem.run f).Stops f := by
  cases problem with
  | absent p => exact stops_giveUp _
  | extension => exact stops_giveUp _
  | unusable fault => exact stops_broken _
  | noPath => exact stops_broken _

theorem stops_printDocument {ds : List Document} (h : 1 < ds.length) :
    (printDocument f told ds).Stops f := by
  unfold printDocument
  split
  · simp at h
  · simp at h
  · exact stops_giveUp _

/-! ### Obstacles -/

/-- What stands in the way of a command that converts inputs, in the state in which it looks at
them. -/
inductive Obstacle (c : ConvertCommand) (now : Moment) (f : Folder) : Prop where
  /-- An input is missing, or it is none that can be converted. -/
  | input {i : Option Path} (hi : i ∈ c.inputs) (h : inputProblem? f i ≠ none)
  /-- An encoding or a format is not known. -/
  | settings (h : Fails c.settings.options)
  /-- An input or the merged dumps cannot be converted. -/
  | conversion {o : Options} (ho : c.settings.options = .ok o)
      (h : ConversionFails o now f c.paths)
  /-- There is no folder for several documents. -/
  | severalDocuments {o : Options} (ho : c.settings.options = .ok o)
      (hfolder : c.exportFolder = none) (h : 1 < (documentSources o c.paths).length)

theorem stops_convertInputs {o : Options}
    (h : ConversionFails o now f c.paths ∨
      c.exportFolder = none ∧ 1 < (documentSources o c.paths).length) :
    (convertInputs c o now f).Stops f := by
  refine stops_telling fun told => ?_
  cases hconvert : convertFiles o now f c.paths with
  | error e => exact stops_fail e
  | ok documents =>
    obtain h | ⟨hfolder, h⟩ := h
    · obtain ⟨e, he⟩ := fails_convertFiles.mpr h
      rw [hconvert] at he
      cases he
    · rw [hfolder]
      rw [← (convertFiles_eq_ok hconvert).1, List.length_map] at h
      exact stops_printDocument h

/-- A command that meets an obstacle stops in the state in which it looked at its inputs. -/
theorem stops_of_obstacle (hopen : openExport f c.exportFolder = .ok g) (h : Obstacle c now g) :
    (c.run now f).Stops g := by
  unfold ConvertCommand.run
  rw [hopen]
  dsimp only
  cases hproblem : c.inputs.findSome? (inputProblem? g) with
  | some problem => exact stops_problem problem
  | none =>
    cases hoptions : c.settings.options with
    | error e => exact stops_refuse e
    | ok o =>
      have hsame : ∀ {o'}, c.settings.options = .ok o' → o' = o := fun h' =>
        Except.ok.inj (h'.symm.trans hoptions)
      cases h with
      | input hi h => exact absurd (List.findSome?_eq_none_iff.mp hproblem _ hi) h
      | settings h =>
        obtain ⟨e, he⟩ := h
        rw [hoptions] at he
        cases he
      | conversion ho h =>
        obtain rfl := hsame ho
        exact stops_convertInputs (.inl h)
      | severalDocuments ho hfolder h =>
        obtain rfl := hsame ho
        exact stops_convertInputs (.inr ⟨hfolder, h⟩)

/-! ### The folder for documents -/

/-- What was there stays, and a file that was not there is an empty log. -/
structure AddsLogs (logs : List Path) (f g : Folder) : Prop where
  keeps : Folder.Keeps f g
  file : ∀ q content, g.node? q = some (.file content) →
    f.node? q = some (.file content) ∨ content = [] ∧ ∃ p ∈ logs, g.placeOf p = .ok q

section Logs

variable {logs : List Path} {p : Path} {f' : Folder}

theorem AddsLogs.refl (logs : List Path) (f : Folder) : AddsLogs logs f f :=
  ⟨.refl f, fun _ _ hq => .inl hq⟩

theorem AddsLogs.trans (h : AddsLogs logs f f') (h' : AddsLogs logs f' g) : AddsLogs logs f g := by
  refine ⟨h.keeps.trans h'.keeps, fun q content hq => ?_⟩
  obtain hq | hlog := h'.file q content hq
  · obtain hq | ⟨hcontent, p, hp, hplace⟩ := h.file q content hq
    · exact .inl hq
    · exact .inr ⟨hcontent, p, hp, Folder.placeOf_of_standing h'.keeps.standing hplace⟩
  · exact .inr hlog

theorem addsLogs_makeFolders (h : f.makeFolders p = .ok g) : AddsLogs logs f g :=
  ⟨Folder.keeps_makeFolders h, fun q content hq =>
    .inl (Folder.filesWithin_makeFolders h q content hq)⟩

theorem addsLogs_openLog (hp : p ∈ logs) (h : openLog f p = .ok g) : AddsLogs logs f g := by
  unfold openLog at h
  split at h
  · obtain rfl := Except.ok.inj h
    exact .refl logs f
  · next hmissing =>
    have hstanding := Folder.standing_write h
    obtain ⟨q, hplace, hfolder, rfl⟩ := Folder.write_eq_ok.mp h
    have hnone : f.node? q = none := by
      cases hnode : f.node? q with
      | none => rfl
      | some n =>
        cases n with
        | folder => exact absurd hnode hfolder
        | file content =>
          rw [Folder.read_eq_ok.mpr ⟨q, hplace, hnode⟩] at hmissing
          cases hmissing
    refine ⟨⟨rfl, fun place n hn => ?_⟩, fun place content hfile => ?_⟩
    · rw [Folder.node?_put_of_ne hfolder, if_neg, hn]
      rintro rfl
      rw [hnone] at hn
      cases hn
    · rw [Folder.node?_put_of_ne hfolder] at hfile
      split at hfile
      · next hq =>
        subst hq
        cases hfile
        exact .inr ⟨rfl, p, hp, Folder.placeOf_of_standing hstanding hplace⟩
      · exact .inl hfile
  · cases h

theorem addsLogs_foldlM {opened : List Path} (hopened : opened ⊆ logs)
    (h : opened.foldlM openLog f = .ok g) : AddsLogs logs f g := by
  induction opened generalizing f with
  | nil =>
    obtain rfl := Except.ok.inj h
    exact .refl logs f
  | cons p rest ih =>
    obtain ⟨f', hfirst, hrest⟩ := bind_eq_ok.mp h
    obtain ⟨hp, hsubset⟩ := List.cons_subset.mp hopened
    exact (addsLogs_openLog hp hfirst).trans (ih hsubset hrest)

end Logs

/-- The logs in the folder for documents, if there is one. -/
def ConvertCommand.logs (c : ConvertCommand) : List Path :=
  c.exportFolder.toList.flatMap fun folder => logNames.map folder.child

theorem addsLogs_openExport (h : openExport f c.exportFolder = .ok g) : AddsLogs c.logs f g := by
  unfold ConvertCommand.logs
  cases hfolder : c.exportFolder with
  | none =>
    rw [hfolder] at h
    obtain rfl := Except.ok.inj h
    exact .refl _ f
  | some folder =>
    rw [hfolder] at h
    obtain ⟨f', hmade, hopened⟩ := bind_eq_ok.mp h
    refine (addsLogs_makeFolders hmade).trans (addsLogs_foldlM ?_ hopened)
    simp

/-- A command that meets an obstacle among its inputs, its settings or the conversions does not end
well and publishes nothing: it prints nothing, and a file that was not there before is an empty log
in the folder for documents. The obstacle is one in the state in which the inputs are looked at,
which is when that folder and its logs have been made. -/
theorem publishesNothing_of_obstacle
    (h : ∀ g, openExport f c.exportFolder = .ok g → Obstacle c now g) :
    (c.run now f).ending ≠ .done ∧ (c.run now f).output = [] ∧
      AddsLogs c.logs f (c.run now f).folder := by
  cases hopen : openExport f c.exportFolder with
  | error fault =>
    have hrun : c.run now f = { folder := f, ending := .broken (.folder fault) } := by
      rw [ConvertCommand.run, hopen]
    rw [hrun]
    exact ⟨nofun, rfl, .refl _ f⟩
  | ok g =>
    obtain ⟨hfolder, houtput, hending⟩ := stops_of_obstacle hopen (h g hopen)
    exact ⟨hending, houtput, hfolder ▸ addsLogs_openExport hopen⟩

/-- Two inputs, the last of which cannot be read. -/
def commaCommand : ConvertCommand :=
  { inputs := [some (.ofText "feed.csv"), some (.ofText "return.csv")]
    exportFolder := some (.ofText "out")
    settings := {} }

/-- The document of the first input is not written. -/
theorem publishesNothing_of_obstacle_commaCommand :
    (∀ g, openExport commaFiles commaCommand.exportFolder = .ok g →
        Obstacle commaCommand plainMoment g) ∧
      (commaCommand.run plainMoment commaFiles).ending ≠ .done ∧
      (commaCommand.run plainMoment commaFiles).output = [] ∧
      AddsLogs commaCommand.logs commaFiles (commaCommand.run plainMoment commaFiles).folder := by
  have hopen : openExport commaFiles commaCommand.exportFolder =
      .ok { commaFiles with nodes :=
        (["out", "combined.log"].map String.toList, .file []) ::
          (["out", "error.log"].map String.toList, .file []) ::
          (["out".toList], .folder) :: commaFiles.nodes } := by decide +kernel
  have hfails : ∀ g, openExport commaFiles commaCommand.exportFolder = .ok g →
      Obstacle commaCommand plainMoment g := by
    intro g hg
    obtain rfl := Except.ok.inj (hopen.symm.trans hg)
    have hoptions : commaCommand.settings.options = .ok plainOptions :=
      (dif_pos plainOptions.readable).trans (dif_pos plainOptions.writable)
    refine .conversion hoptions <|
      .single (p := .ofText "return.csv") (by decide) (fun _ => by decide +kernel)
        ⟨.csv .bareReturn, ?_⟩
    decide +kernel
  exact ⟨hfails, publishesNothing_of_obstacle hfails⟩

end SchemaMill.Cli
