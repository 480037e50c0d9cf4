import ProtocolBindings.Proofs.Generation.Write

/-!
# Manifests of earlier runs

Where the manifest that is read from a directory is that of an earlier run, what it records are
names of files.  So the changes of the next run are all about distinct entries of the directory, and
none of the files that it cleans up is one that it writes.
-/

namespace ProtocolBindings.Generation

open FileTree

/-- The manifest in the directory of a path, if there is one, was written by an earlier run. -/
def WrittenBefore (t : FileTree) (output : Path) : Prop :=
  ∀ content, t.get? (t.destination output ++ [Manifest.fileName]) = some (.file content) →
    ∃ package schema before options last,
      ofSchema package schema before options = .ok last ∧
        content = last.manifest.toText.toUTF8

variable {t t' : FileTree} {output p : Path} {place : List String} {g : Generation}
  {name package : String} {schema : Schema} {options : Options}
  {transcript transcript' : Transcript}

theorem WrittenBefore.of_addsDirectories (h : WrittenBefore t output)
    (hadds : t.AddsDirectories p t') : WrittenBefore t' output := by
  intro content hfile
  rw [destination_congr hadds.current_eq] at hfile
  rcases hadds.get?_eq (t.destination output ++ [Manifest.fileName]) with
    hsame | ⟨-, hdirectory, -⟩
  · exact h content (hsame ▸ hfile)
  · rw [hdirectory] at hfile
    cases hfile

variable [Host]

/-- The manifest that is read from the directory of a path, if there is one, is that of an earlier
run.  There may be no file, or one that holds no manifest. -/
def ReadsPrevious (t : FileTree) (output : Path) : Prop :=
  ∀ m, manifestAt? t (t.destination output ++ [Manifest.fileName]) = some m →
    ∃ package schema before options last,
      ofSchema package schema before options = .ok last ∧ m = last.manifest

/-- Making directories changes no manifest. -/
theorem manifestAt?_of_addsDirectories (h : t.AddsDirectories p t') :
    manifestAt? t' place = manifestAt? t place := by
  rcases h.get?_eq place with hsame | ⟨hnone, hdirectory, -⟩
  · exact manifestAt?_congr hsame
  · rw [manifestAt?, manifestIn, hdirectory, manifestAt?, manifestIn, hnone]

/-- What an earlier run has written is read as its manifest. -/
theorem WrittenBefore.readsPrevious (h : WrittenBefore t output) : ReadsPrevious t output := by
  intro m hm
  by_cases hfile : ∃ content, t.get? (t.destination output ++ [Manifest.fileName]) =
      some (.file content)
  · obtain ⟨content, hfile⟩ := hfile
    obtain ⟨package, schema, before, options, last, hlast, rfl⟩ := h content hfile
    rw [manifestAt?_of_toText hfile] at hm
    exact ⟨package, schema, before, options, last, hlast, (Option.some.inj hm).symm⟩
  · rw [manifestAt?_of_manifestIn
      (manifestIn_of_no_file fun content hcontent => hfile ⟨content, hcontent⟩)] at hm
    cases hm

namespace ReadsPrevious

theorem of_addsDirectories (h : ReadsPrevious t output) (hadds : t.AddsDirectories p t') :
    ReadsPrevious t' output := by
  intro m hm
  rw [manifestAt?_of_addsDirectories hadds, destination_congr hadds.current_eq] at hm
  exact h m hm

/-- What is left over of an earlier run are file names of the directory, and neither is generated
again nor the manifest. -/
theorem of_mem_orphans (h : ReadsPrevious t output) (hg : g.HasNames)
    (hname : name ∈ g.orphans (manifestAt? t (t.destination output ++ [Manifest.fileName]))) :
    Path.IsFileName name ∧ name ∉ g.names ∧ name ≠ Manifest.fileName := by
  cases hm : manifestAt? t (t.destination output ++ [Manifest.fileName]) with
  | none =>
    rw [hm] at hname
    cases hname
  | some m =>
    obtain ⟨_, _, _, _, last, hgenerated, rfl⟩ := h m hm
    have hlast := hasNames_of_ofSchema hgenerated
    rw [hm] at hname
    obtain ⟨hlastName, hlost⟩ := (mem_orphans_iff hlast hg).1 hname
    refine ⟨hlast.isFileName name hlastName, hlost, ?_⟩
    rintro rfl
    exact hlast.ne_manifest hlastName

theorem isFileName_replacements (h : ReadsPrevious t output) (hg : g.HasNames)
    {r : Replacement} (hr : r ∈ g.replacements
      (manifestAt? t (t.destination output ++ [Manifest.fileName]))) :
    Path.IsFileName r.1 := by
  rcases mem_replacements.1 hr with
    ⟨-, name, hname, rfl⟩ | ⟨name, text, hname, rfl⟩ | ⟨-, rfl⟩
  · exact (h.of_mem_orphans hg hname).1
  · exact hg.isFileName name (List.mem_map_of_mem (f := (·.1)) hname)
  · exact Manifest.isFileName_fileName

theorem nodup_replacements (h : ReadsPrevious t output) (hg : g.HasNames) :
    ((g.replacements (manifestAt? t (t.destination output ++ [Manifest.fileName]))).map
      (·.1)).Nodup :=
  Generation.nodup_replacements hg fun _ hname => (h.of_mem_orphans hg hname).2

/-- A run of the writer that succeeds brings the replacements of its generation about. -/
theorem brings_of_write_eq_ok {paths : List Path} (h : ReadsPrevious t output)
    (hrun : Program.runOn (write package schema output options) transcript t =
      ((.ok paths, transcript'), t')) :
    ∃ g, ofSchema package schema output options = .ok g ∧ paths = g.writtenFiles.map (·.1) ∧
      Brings (t.withDirectories output) (t.destination output)
        (g.replacements (manifestAt? t (t.destination output ++ [Manifest.fileName]))) t' := by
  obtain ⟨hdir, g, hg, happly, hpaths⟩ := exists_of_write_eq_ok hrun
  have hnames := hasNames_of_ofSchema hg
  rw [manifestAt?_of_addsDirectories (addsDirectories_withDirectories t output), changes_eq_map,
    (output_of_ofSchema hg).1] at happly
  exact ⟨g, hg, hpaths, brings_of_applyAll (fun r hr => h.isFileName_replacements hnames hr)
    (h.nodup_replacements hnames) hdir happly⟩

end ReadsPrevious

/-- A run of the writer that succeeds leaves its own manifest, or that of the earlier run. -/
theorem WrittenBefore.of_write_eq_ok {paths : List Path} (h : WrittenBefore t output)
    (hrun : Program.runOn (write package schema output options) transcript t =
      ((.ok paths, transcript'), t')) :
    WrittenBefore t' output := by
  obtain ⟨g, hg, -, hbrings⟩ := h.readsPrevious.brings_of_write_eq_ok hrun
  have hadds := addsDirectories_withDirectories t output
  intro content hfile
  rw [destination_congr (hbrings.current_eq.trans hadds.current_eq)] at hfile
  by_cases hmanifest : g.options.manifest = true
  · rw [hbrings.get?_manifest hmanifest] at hfile
    have hcontent := FileEntry.file.inj (Option.some.inj hfile)
    exact ⟨package, schema, output, options, g, hg, hcontent.symm⟩
  · -- No change is about the manifest.
    have hnames := hasNames_of_ofSchema hg
    rw [hbrings.get?_other hnames.ne_manifest (fun hoption => absurd hoption hmanifest)
      fun _ horphan => (h.readsPrevious.of_mem_orphans hnames horphan).2.2 rfl] at hfile
    rw [← destination_congr hadds.current_eq] at hfile
    exact h.of_addsDirectories hadds content hfile

end ProtocolBindings.Generation
