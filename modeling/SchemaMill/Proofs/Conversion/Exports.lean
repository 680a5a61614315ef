import SchemaMill.Cli.Convert
import SchemaMill.Proofs.Conversion.Failures
import SchemaMill.Proofs.File.Keeping

/-!
# Documents that are written side by side

The file of a document is named by the stem of its source, the time and the ending of the format. So
of documents that are written at one time, those of equal stems go into one file (`target_inj`): two
inputs of one name in different folders, or with different endings, or an input that is called like
the document of several dumps. The last of them is what the file holds in the end
(`read_target_of_last`), and `nodup_targets_iff` says exactly when no document is lost. The command
that exports documents tells of each of them all the same (`writeDocuments_of_exportDocuments`).
-/

namespace SchemaMill.Conversion

variable {o : Options} {made now : Moment} {stamp : Text} {folder : Path}

/-! ### Where documents come from -/

/-- The word for several dumps as a path. -/
def mergedSource : Path := ⟨.here, ["merged".toList]⟩

/-- The sources of the documents that inputs are converted to. -/
def documentSources (o : Options) (paths : List Path) : List Path :=
  if o.merge && 1 < (paths.filter isDump).length then
    mergedSource :: paths.filter (!isDump ·)
  else paths

theorem encodeDocument_eq_ok {p : Path} {t : Noted Text} {d : Noted Document}
    (h : encodeDocument o p t = .ok d) :
    d.value.source = p ∧ d.value.extension = o.format.extension := by
  obtain ⟨encoded, -, h⟩ := bind_eq_ok.mp h
  obtain rfl := Except.ok.inj h
  exact ⟨rfl, rfl⟩

theorem convertFile_eq_ok {f : Folder} {p : Path} {d : Noted Document}
    (h : convertFile o made f p = .ok d) :
    d.value.source = p ∧ d.value.extension = o.format.extension := by
  obtain ⟨_, -, h⟩ := bind_eq_ok.mp h
  obtain ⟨_, -, h⟩ := bind_eq_ok.mp h
  obtain ⟨_, -, h⟩ := bind_eq_ok.mp h
  exact encodeDocument_eq_ok h

theorem convertEach_eq_ok {f : Folder} {paths : List Path} {ds : Noted (List Document)}
    (h : convertEach o made f paths = .ok ds) :
    ds.value.map Document.source = paths ∧
      ∀ d ∈ ds.value, d.extension = o.format.extension := by
  induction paths generalizing ds with
  | nil =>
    obtain rfl := Except.ok.inj h
    exact ⟨rfl, by rintro _ ⟨⟩⟩
  | cons p rest ih =>
    obtain ⟨first, hfirst, h⟩ := bind_eq_ok.mp h
    obtain ⟨others, hothers, h⟩ := bind_eq_ok.mp h
    obtain rfl := Except.ok.inj h
    obtain ⟨hsource, hextension⟩ := convertFile_eq_ok hfirst
    obtain ⟨hsources, hextensions⟩ := ih hothers
    exact ⟨congrArg₂ List.cons hsource hsources, List.forall_mem_cons.mpr ⟨hextension, hextensions⟩⟩

/-- The documents of a conversion come from the inputs or from several dumps, and they all have the
ending of the format. -/
theorem convertFiles_eq_ok {f : Folder} {paths : List Path} {ds : Noted (List Document)}
    (h : convertFiles o made f paths = .ok ds) :
    ds.value.map Document.source = documentSources o paths ∧
      ∀ d ∈ ds.value, d.extension = o.format.extension := by
  obtain ⟨_, -, h⟩ := bind_eq_ok.mp h
  dsimp only at h
  unfold documentSources
  split at h
  · next hmerge =>
    rw [if_pos hmerge]
    obtain ⟨merged, hmerged, h⟩ := bind_eq_ok.mp h
    obtain ⟨others, hothers, h⟩ := bind_eq_ok.mp h
    obtain rfl := Except.ok.inj h
    obtain ⟨_, -, hmerged⟩ := bind_eq_ok.mp hmerged
    obtain ⟨_, -, hmerged⟩ := bind_eq_ok.mp hmerged
    obtain ⟨hsource, hextension⟩ := encodeDocument_eq_ok hmerged
    obtain ⟨hsources, hextensions⟩ := convertEach_eq_ok hothers
    exact ⟨congrArg₂ List.cons hsource hsources, List.forall_mem_cons.mpr ⟨hextension, hextensions⟩⟩
  · next hmerge =>
    rw [if_neg hmerge]
    exact convertEach_eq_ok h

/-! ### The files of documents -/

/-- The path of the file of a document that is written below a folder at a time. -/
def Document.target (folder : Path) (stamp : Text) (d : Document) : Path :=
  outputPath folder d.source d.extension stamp

/-- The name of the file of a document. -/
def targetName (stem extension stamp : Text) : Text :=
  stem ++ "_converted_".toList ++ stampName stamp ++ extension

theorem target_eq_child (d : Document) :
    d.target folder stamp = folder.child (targetName d.source.stem d.extension stamp) := rfl

theorem targetName_ne_up (stem extension stamp : Text) :
    targetName stem extension stamp ≠ "..".toList := by
  intro h
  have hlength := congrArg List.length h
  simp [targetName] at hlength
  omega

theorem target_inj {d d' : Document} (h : d.extension = d'.extension) :
    d.target folder stamp = d'.target folder stamp ↔ d.source.stem = d'.source.stem := by
  rw [target_eq_child, target_eq_child, h]
  simp [Path.child, targetName]

/-! ### Writing them -/

/-- Writes documents below a folder one after the other, all at one time. Gives the paths of their
files. -/
def writeDocuments (folder : Path) (now : Moment) (f : Folder) :
    List Document → Except Failure (List Path × Folder)
  | [] => .ok ([], f)
  | d :: rest => do
    let (p, f) ← writeDocument f folder now d
    let (others, f) ← writeDocuments folder now f rest
    .ok (p :: others, f)

section Writing

variable {f f' : Folder} {p : Path} {d : Document} {ds before after : List Document}
  {targets : List Path}

theorem writeDocument_eq_ok (hstamp : now.timestamp? = some stamp)
    (h : writeDocument f folder now d = .ok (p, f')) :
    p = d.target folder stamp ∧ ∃ g, Folder.Keeps f g ∧ g.write p d.content = .ok f' := by
  unfold writeDocument at h
  rw [hstamp] at h
  dsimp only at h
  split at h
  · next hwritten =>
    obtain ⟨rfl, rfl⟩ := Prod.mk.inj (Except.ok.inj h)
    obtain ⟨g, hg, hwrite⟩ := bind_eq_ok.mp hwritten
    exact ⟨rfl, g, Folder.keeps_makeFolders hg, hwrite⟩
  · cases h

theorem writeDocuments_cons_eq_ok (hstamp : now.timestamp? = some stamp)
    (h : writeDocuments folder now f (d :: ds) = .ok (targets, f')) :
    ∃ g g' others, Folder.Keeps f g ∧ g.write (d.target folder stamp) d.content = .ok g' ∧
      writeDocuments folder now g' ds = .ok (others, f') ∧
      targets = d.target folder stamp :: others := by
  obtain ⟨⟨p, g'⟩, hfirst, h⟩ := bind_eq_ok.mp h
  obtain ⟨⟨others, f₂⟩, hothers, h⟩ := bind_eq_ok.mp h
  obtain ⟨rfl, rfl⟩ := Prod.mk.inj (Except.ok.inj h)
  obtain ⟨rfl, g, hkeeps, hwrite⟩ := writeDocument_eq_ok hstamp hfirst
  exact ⟨g, g', others, hkeeps, hwrite, hothers, rfl⟩

theorem targets_writeDocuments (hstamp : now.timestamp? = some stamp)
    (h : writeDocuments folder now f ds = .ok (targets, f')) :
    targets = ds.map (Document.target folder stamp) := by
  induction ds generalizing f targets with
  | nil => exact (Prod.mk.inj (Except.ok.inj h)).1.symm
  | cons d rest ih =>
    obtain ⟨_, _, others, -, -, hothers, rfl⟩ := writeDocuments_cons_eq_ok hstamp h
    exact congrArg _ (ih hothers)

/-- The file of a document is left alone by documents that go into other files. -/
theorem read_target_of_forall_ne (hstamp : now.timestamp? = some stamp)
    (h : writeDocuments folder now f ds = .ok (targets, f')) {content : Charset.Bytes}
    (hread : f.read (d.target folder stamp) = .ok content)
    (hne : ∀ d' ∈ ds, d'.target folder stamp ≠ d.target folder stamp) :
    f'.read (d.target folder stamp) = .ok content := by
  induction ds generalizing f targets with
  | nil => rwa [← (Prod.mk.inj (Except.ok.inj h)).2]
  | cons d' rest ih =>
    obtain ⟨g, g', others, hkeeps, hwrite, hothers, -⟩ := writeDocuments_cons_eq_ok hstamp h
    obtain ⟨hfirst, hrest⟩ := List.forall_mem_cons.mp hne
    refine ih hothers ?_ hrest
    have hg := hkeeps.read hread
    refine Folder.read_of_write_of_ne hwrite hg fun hplace => hfirst ?_
    -- one place would mean one name
    obtain ⟨q, hq, -⟩ := Folder.read_eq_ok.mp hg
    have hq' : g.placeOf (d'.target folder stamp) = .ok q := hplace.symm.trans hq
    rw [target_eq_child] at hq hq'
    exact congrArg folder.child <|
      Folder.placeOf_child_inj (targetName_ne_up _ _ _) (targetName_ne_up _ _ _) hq' hq

/-- The file of a document holds it in the end if no later document goes into the same file. -/
theorem read_target_of_last (hstamp : now.timestamp? = some stamp)
    (h : writeDocuments folder now f (before ++ d :: after) = .ok (targets, f'))
    (hlater : ∀ d' ∈ after, d'.target folder stamp ≠ d.target folder stamp) :
    f'.read (d.target folder stamp) = .ok d.content := by
  induction before generalizing f targets with
  | nil =>
    obtain ⟨_, _, _, -, hwrite, hothers, -⟩ := writeDocuments_cons_eq_ok hstamp h
    exact read_target_of_forall_ne hstamp hothers (Folder.read_of_write hwrite) hlater
  | cons _ rest ih =>
    obtain ⟨_, _, _, -, -, hothers, -⟩ := writeDocuments_cons_eq_ok hstamp h
    exact ih hothers

end Writing

/-- Whether the values of a function on a list differ depends on which members share a value. -/
theorem nodup_map_iff_of_forall {α β γ : Type} {g : α → β} {g' : α → γ} {l : List α}
    (h : ∀ a ∈ l, ∀ b ∈ l, g a = g b ↔ g' a = g' b) : (l.map g).Nodup ↔ (l.map g').Nodup := by
  rw [List.Nodup, List.Nodup, List.pairwise_map, List.pairwise_map]
  exact List.Pairwise.iff_of_mem fun ha hb => not_congr (h _ ha _ hb)

/-- Of the members of a list that have a property, there is a last one. -/
theorem exists_last_of_mem {α : Type} {p : α → Prop} {a : α} {l : List α} (ha : a ∈ l) (hp : p a) :
    ∃ before b after, l = before ++ b :: after ∧ p b ∧ ∀ x ∈ after, ¬p x := by
  induction l generalizing a with
  | nil => cases ha
  | cons x rest ih =>
    by_cases hrest : ∃ b ∈ rest, p b
    · obtain ⟨b, hb, hpb⟩ := hrest
      obtain ⟨before, c, after, rfl, hc, hafter⟩ := ih hb hpb
      exact ⟨x :: before, c, after, rfl, hc, hafter⟩
    · have hnone : ∀ y ∈ rest, ¬p y := fun y hy hpy => hrest ⟨y, hy, hpy⟩
      obtain rfl | ha := List.mem_cons.mp ha
      · exact ⟨[], a, rest, rfl, hp, hnone⟩
      · exact absurd hp (hnone a ha)

/-- Documents that are written at one time go into files of their own if and only if the stems of
their sources differ. Written one after the other, a file holds its document if no later one has a
source of the same stem, and all files hold their documents if and only if documents whose sources
have one stem agree. -/
theorem nodup_targets_iff {f : Folder} {paths : List Path} {ds : Noted (List Document)}
    (hconvert : convertFiles o made f paths = .ok ds) (hstamp : now.timestamp? = some stamp)
    (folder : Path) :
    ((ds.value.map (Document.target folder stamp)).Nodup ↔
        ((documentSources o paths).map Path.stem).Nodup) ∧
      ∀ g targets g', writeDocuments folder now g ds.value = .ok (targets, g') →
        targets = ds.value.map (Document.target folder stamp) ∧
        (∀ before d after, ds.value = before ++ d :: after →
          (∀ d' ∈ after, d'.source.stem ≠ d.source.stem) →
          g'.read (d.target folder stamp) = .ok d.content) ∧
        ((∀ d ∈ ds.value, g'.read (d.target folder stamp) = .ok d.content) ↔
          ∀ d ∈ ds.value, ∀ d' ∈ ds.value, d.source.stem = d'.source.stem →
            d.content = d'.content) := by
  obtain ⟨hsources, hextension⟩ := convertFiles_eq_ok hconvert
  have htarget : ∀ d ∈ ds.value, ∀ d' ∈ ds.value,
      d.target folder stamp = d'.target folder stamp ↔ d.source.stem = d'.source.stem :=
    fun d hd d' hd' => target_inj ((hextension d hd).trans (hextension d' hd').symm)
  refine ⟨?_, fun g targets g' hwrite => ?_⟩
  · rw [← hsources, List.map_map]
    exact nodup_map_iff_of_forall htarget
  have hlast : ∀ before d after, ds.value = before ++ d :: after →
      (∀ d' ∈ after, d'.source.stem ≠ d.source.stem) →
      g'.read (d.target folder stamp) = .ok d.content := by
    intro before d after hsplit hlater
    have hmem : ∀ x ∈ d :: after, x ∈ ds.value := fun x hx =>
      hsplit ▸ List.mem_append_right before hx
    refine read_target_of_last hstamp (hsplit ▸ hwrite) fun d' hd' => ?_
    rw [Ne, htarget d' (hmem d' (List.mem_cons_of_mem d hd')) d (hmem d List.mem_cons_self)]
    exact hlater d' hd'
  refine ⟨targets_writeDocuments hstamp hwrite, hlast, fun hread d hd d' hd' hstem => ?_,
    fun hagree d hd => ?_⟩
  · have htargets := (htarget d hd d' hd').mpr hstem
    exact Except.ok.inj ((hread d hd).symm.trans (htargets ▸ hread d' hd'))
  · obtain ⟨before, b, after, hsplit, hstem, hlater⟩ :=
      exists_last_of_mem (p := fun x => x.source.stem = d.source.stem) hd rfl
    have hb : b ∈ ds.value := hsplit ▸ List.mem_append_right before List.mem_cons_self
    rw [hagree d hd b hb hstem.symm, ← (htarget b hb d hd).mpr hstem]
    exact hlast before b after hsplit fun x hx hsame => hlater x hx (hsame.trans hstem)

deriving instance DecidableEq for Noted

/-- Two inputs whose names differ in the ending only. -/
def namesakes : Folder :=
  { nodes := [(["a.csv".toList], .file ("x\n1".toList.flatMap String.utf8EncodeChar)),
      (["a.json".toList], .file ("[\x7b\"y\": 2\x7d]".toList.flatMap String.utf8EncodeChar))] }

/-- The document of the first input. -/
def firstNamesake : Document :=
  ⟨.ofText "a.csv", "\"x\"\n\"1\"\n".toList.flatMap String.utf8EncodeChar, ".csv"⟩

/-- The document of the second input. -/
def secondNamesake : Document :=
  ⟨.ofText "a.json", "\"y\"\n\"2\"\n".toList.flatMap String.utf8EncodeChar, ".csv"⟩

/-- Both documents go into one file, which does not hold the first of them in the end. -/
theorem nodup_targets_iff_namesakes :
    ∃ targets g', convertFiles { plainOptions with format := .csv } plainMoment namesakes
        [.ofText "a.csv", .ofText "a.json"] = .ok ⟨[firstNamesake, secondNamesake], []⟩ ∧
      writeDocuments (.ofText "out") plainMoment namesakes [firstNamesake, secondNamesake] =
        .ok (targets, g') ∧
      ¬targets.Nodup ∧
      ¬∀ d ∈ [firstNamesake, secondNamesake],
        g'.read (d.target (.ofText "out") "2024-01-02T03:04:05.000Z".toList) = .ok d.content := by
  have hconvert : convertFiles { plainOptions with format := .csv } plainMoment namesakes
      [.ofText "a.csv", .ofText "a.json"] = .ok ⟨[firstNamesake, secondNamesake], []⟩ := by
    decide +kernel
  have hstamp : plainMoment.timestamp? = some "2024-01-02T03:04:05.000Z".toList := by
    decide +kernel
  have hwrite : writeDocuments (.ofText "out") plainMoment namesakes
      [firstNamesake, secondNamesake] = .ok
        (List.replicate 2 (.ofText "out/a_converted_2024-01-02T03-04-05-000Z.csv"),
          { nodes := (["out", "a_converted_2024-01-02T03-04-05-000Z.csv"].map String.toList,
              .file secondNamesake.content) :: (["out".toList], .folder) :: namesakes.nodes }) := by
    decide +kernel
  obtain ⟨hnodup, hwritten⟩ := nodup_targets_iff hconvert hstamp (.ofText "out")
  obtain ⟨htargets, -, hread⟩ := hwritten _ _ _ hwrite
  have hstem : firstNamesake.source.stem = secondNamesake.source.stem := by decide +kernel
  refine ⟨_, _, hconvert, hwrite, ?_, fun hall => ?_⟩
  · rw [htargets, hnodup]
    decide +kernel
  · have hagree := hread.mp hall firstNamesake (by simp) secondNamesake (by simp) hstem
    exact absurd hagree (by decide +kernel)

end SchemaMill.Conversion

namespace SchemaMill.Cli

open Conversion

/-! ### The command -/

variable {f : Folder} {told : List Message}

/-- A run that leaves the files as they are, prints nothing and does not end well. -/
structure Run.Stops (f : Folder) (r : Run) : Prop where
  folder : r.folder = f
  output : r.output = []
  ending : r.ending ≠ .done

theorem stops_broken (b : Breakdown) :
    Run.Stops f { folder := f, messages := told, ending := .broken b } := ⟨rfl, rfl, nofun⟩

/-- A message that cannot be shown stops a run as well. -/
theorem stops_telling {messages : List Message} {next : List Message → Run}
    (h : ∀ told, (next told).Stops f) : (Run.telling f told messages next).Stops f := by
  induction messages generalizing told with
  | nil => exact h told
  | cons m rest ih =>
    unfold Run.telling
    split
    · exact stops_broken _
    · exact ih

theorem stops_giveUp (reason : Text) : (Run.giveUp f told reason).Stops f :=
  stops_telling fun _ => ⟨rfl, rfl, nofun⟩

theorem stops_fail (e : Failure) : (Run.fail f told e).Stops f := by
  unfold Run.fail
  split
  · exact stops_giveUp _
  · exact stops_broken _

theorem telling_of_done {m : Message} {next : List Message → Run}
    (h : (Run.telling f told [m] next).ending = .done) :
    Run.telling f told [m] next = next (told ++ [m]) := by
  unfold Run.telling at h ⊢
  split
  · next hfault =>
    rw [hfault] at h
    cases h
  · rfl

/-- A command that exports documents and gets to its end has written them one after the other, and
has told of each of them that it is in its file. -/
theorem writeDocuments_of_exportDocuments {folder : Path} {now : Moment} {ds : List Document}
    (h : (exportDocuments folder now f told ds).ending = .done) :
    ∃ targets,
      writeDocuments folder now f ds =
        .ok (targets, (exportDocuments folder now f told ds).folder) ∧
      (exportDocuments folder now f told ds).messages =
        told ++ List.zipWith (fun d p => writtenMessage d.source.text p) ds targets := by
  induction ds generalizing f told with
  | nil => exact ⟨[], rfl, (List.append_nil told).symm⟩
  | cons d rest ih =>
    unfold exportDocuments at h ⊢
    split at h
    · exact absurd h (stops_fail _).ending
    · next p g hfirst =>
      have htold := telling_of_done h
      rw [htold] at h ⊢
      obtain ⟨targets, hrest, hmessages⟩ := ih h
      refine ⟨p :: targets, bind_eq_ok.mpr ⟨_, hfirst, bind_eq_ok.mpr ⟨_, hrest, rfl⟩⟩, ?_⟩
      rw [hmessages, List.append_assoc]
      rfl

end SchemaMill.Cli
