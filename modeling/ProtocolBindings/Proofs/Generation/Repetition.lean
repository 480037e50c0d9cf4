import ProtocolBindings.Proofs.Generation.Rerun
import ProtocolBindings.Proofs.Source.Package

/-!
# Runs that are repeated

A run of the writer that has succeeded has left each of its files with its text, and nothing that it
was to remove.  The same run from there makes no change that has not been made: it succeeds, gives
the same paths and leaves the tree as it is.  The manifest that it has written records what it would
generate again.
-/

namespace ProtocolBindings

namespace Manifest

/-- Of the files that a manifest records, none is left over beside themselves. -/
theorem orphaned_outputs (m : Manifest) : m.orphaned m.outputs = [] := by
  rw [orphaned, List.filter_eq_nil_iff]
  intro path hpath
  rw [paths, Ascending.mem_ofList] at hpath
  simpa using hpath

/-- Where every path is recorded once, the recorded digest is that of its record. -/
theorem hash?_of_mem_outputs {m : Manifest} {o : OutputInfo}
    (hnodup : (m.outputs.map (·.path)).Nodup) (ho : o ∈ m.outputs) :
    m.hash? o.path = some o.hash := by
  have hfound : (m.outputs.reverse.find? (·.path == o.path)).isSome := by
    rw [List.find?_isSome]
    exact ⟨o, List.mem_reverse.2 ho, beq_self_eq_true o.path⟩
  obtain ⟨found, hfind⟩ := Option.isSome_iff_exists.1 hfound
  have hpath : found.path = o.path := by simpa using List.find?_some hfind
  have hmem : found ∈ m.outputs := List.mem_reverse.1 (List.mem_of_find?_eq_some hfind)
  have hsame : found = o := List.inj_on_of_nodup_map hnodup hmem ho hpath
  rw [hash?, hfind, hsame]
  rfl

/-- No file is recorded with another digest than its own. -/
theorem modified_outputs {m : Manifest} (hnodup : (m.outputs.map (·.path)).Nodup) :
    m.modified m.outputs = [] := by
  have hnone : m.outputs.filter m.isModified = [] := by
    rw [List.filter_eq_nil_iff]
    intro o ho
    rw [isModified, hash?_of_mem_outputs hnodup ho]
    simp
  rw [modified, hnone, List.map_nil, List.mergeSort_nil]

end Manifest

namespace FileTree

/-- Putting the entry at a place that is there leaves the tree as it is. -/
theorem put_of_get?_eq_some {t : FileTree} {place : List String} {entry : FileEntry}
    (hne : place ≠ []) (h : t.get? place = some entry) : t.put place entry = t := by
  rw [get?, if_neg (by simpa using hne)] at h
  rw [put, Entries.set_of_lookup_eq_some h]

end FileTree

namespace Generation

open FileTree

variable {t t' u : FileTree} {output : Path} {dir : List String} {r : Replacement}
  {replacements : List Replacement} {g : Generation} {previous : Option Manifest}

/-! ## Changes that have been made -/

/-- A replacement has been brought about: its name can be followed, and its entry is there. -/
structure Replacement.IsMade (r : Replacement) (output : Path) (dir : List String)
    (t : FileTree) : Prop where
  placeOf_eq : t.placeOf (output.joinText r.1) = .ok (dir ++ [r.1])
  get?_eq : t.get? (dir ++ [r.1]) = r.entry

/-- A change that has been made leaves the tree as it is. -/
theorem changed_of_isMade (h : r.IsMade output dir t) : changed output r t = (.ok (), t) := by
  obtain ⟨name, _ | text⟩ := r
  · have hremove : t.remove (output.joinText name) =
        .error ⟨.notFound, (output.joinText name).text⟩ :=
      withPath_bind_eq_error h.placeOf_eq (by rw [h.get?_eq]; rfl)
    change (Files.removeIfPresent (output.joinText name) :
      ExceptT FileError (StateM FileTree) Unit).run.run t = _
    rw [Files.removeIfPresent, run_bind, Files.run_remove_lift, hremove]
    rfl
  · have hentry : t.get? (dir ++ [name]) = some (.file text.toUTF8) := h.get?_eq
    have hwrite : t.writeBytes (output.joinText name) text.toUTF8 = .ok t := by
      refine writeBytes_eq_ok_iff.2 ⟨_, h.placeOf_eq, ?_, ?_⟩
      · rw [hentry]
        simp
      · exact (put_of_get?_eq_some (by simp) hentry).symm
    change (Files.writeText (output.joinText name) text :
      ExceptT FileError (StateM FileTree) Unit).run.run t = _
    rw [Files.run_writeText, hwrite]

theorem changedAll_of_isMade (h : ∀ r ∈ replacements, r.IsMade output dir t) :
    changedAll output replacements t = (.ok (), t) := by
  induction replacements with
  | nil => rfl
  | cons first rest ih =>
    rw [List.forall_mem_cons] at h
    rw [changedAll_cons, changed_of_isMade h.1]
    exact ih h.2

/-- The name of a change that has succeeded can be followed wherever its directory is. -/
theorem placeOf_of_changed_eq_ok (hname : Path.IsFileName r.1) (hdir : t.HasDirectory output dir)
    (h : changed output r t = (.ok (), t')) (hu : u.HasDirectory output dir) :
    u.placeOf (output.joinText r.1) = .ok (dir ++ [r.1]) := by
  have hplace := placeOf_joinText_eq hname hdir.placeOf_eq hdir.get?_eq
  rw [placeOf_joinText_eq hname hu.placeOf_eq hu.get?_eq]
  split
  · rename_i hlong
    rw [if_pos hlong] at hplace
    rw [changed, run_apply_of_nameTooLong hplace] at h
    cases (Prod.mk.inj h).1
  · rfl

theorem placeOf_of_changedAll_eq_ok (hnames : ∀ r ∈ replacements, Path.IsFileName r.1)
    (hdir : t.HasDirectory output dir) (h : changedAll output replacements t = (.ok (), t'))
    (hu : u.HasDirectory output dir) :
    ∀ r ∈ replacements, u.placeOf (output.joinText r.1) = .ok (dir ++ [r.1]) := by
  induction replacements generalizing t with
  | nil => simp
  | cons first rest ih =>
    rw [List.forall_mem_cons] at hnames
    rw [changedAll_cons] at h
    rcases hfirst : changed output first t with ⟨e | _, t₁⟩
    · rw [hfirst] at h
      cases (Prod.mk.inj h).1
    · rw [hfirst] at h
      have hstep := replaces_of_apply hnames.1 hdir hfirst
      rw [List.forall_mem_cons]
      exact ⟨placeOf_of_changed_eq_ok hnames.1 hdir hfirst hu,
        ih hnames.2 (hstep.hasDirectory hdir) h⟩

/-- Changes that have all succeeded have all been made. -/
theorem isMade_of_changedAll_eq_ok (hnames : ∀ r ∈ replacements, Path.IsFileName r.1)
    (hnodup : (replacements.map (·.1)).Nodup) (hdir : t.HasDirectory output dir)
    (h : changedAll output replacements t = (.ok (), t')) :
    ∀ r ∈ replacements, r.IsMade output dir t' := by
  have hsame := sameOutside_changedAll hnames hdir
  rw [h] at hsame
  have hbrings := brings_of_applyAll hnames hnodup hdir h
  intro r hr
  exact ⟨placeOf_of_changedAll_eq_ok hnames hdir h (hsame.hasDirectory hdir) r hr,
    hbrings.get?_of_mem r hr⟩

/-! ## Runs of the writer -/

section

variable [Host]

/-- A generation leaves its own manifest or the one of the earlier run. -/
theorem manifestIn_of_brings (hg : g.HasNames)
    (horphans : ∀ name ∈ g.orphans previous, name ≠ Manifest.fileName)
    (hbrings : Brings t dir (g.replacements previous) t') :
    manifestIn t' (dir ++ [Manifest.fileName]) = .ok (some g.manifest) ∨
      manifestIn t' (dir ++ [Manifest.fileName]) = manifestIn t (dir ++ [Manifest.fileName]) := by
  by_cases hmanifest : g.options.manifest = true
  · exact Or.inl (manifestIn_of_toText (hbrings.get?_manifest hmanifest))
  · exact Or.inr (manifestIn_congr (hbrings.get?_other hg.ne_manifest
      (fun hon => absurd hon hmanifest) fun _ hmem => horphans _ hmem rfl))

/-- The manifest that a generation leaves calls for no change that has not been made. -/
theorem replacements_subset (hg : g.HasNames)
    (hprevious : previous = manifestAt? t (dir ++ [Manifest.fileName]))
    (horphans : ∀ name ∈ g.orphans previous, name ≠ Manifest.fileName)
    (hbrings : Brings t dir (g.replacements previous) t') :
    g.replacements (manifestAt? t' (dir ++ [Manifest.fileName])) ⊆ g.replacements previous := by
  rcases manifestIn_of_brings hg horphans hbrings with hnow | hsame
  · -- The manifest is its own now, and leaves nothing over.
    have hnow := manifestAt?_of_manifestIn hnow
    have hnone : g.orphans (some g.manifest) = [] := orphans_eq_nil hg (Or.inr rfl)
    rw [hnow, replacements_eq_append g (some g.manifest), hnone, replacements_eq_append g previous]
    intro r hr
    rcases List.mem_append.1 hr with hr | hr
    · simp at hr
    · exact List.mem_append_right _ hr
  · -- The manifest is still that of the earlier run.
    have hsame : manifestAt? t' (dir ++ [Manifest.fileName]) = previous := by
      rw [hprevious, manifestAt?, manifestAt?, hsame]
    rw [hsame]
    exact List.Subset.refl _

variable {package : String} {schema : Schema} {options : Options} {paths : List Path}
  {transcript transcript' : Transcript}

/-- In its directory, the writer does nothing to what a run of it has left. -/
theorem writeInto_repeated (h : ReadsPrevious t output)
    (hdir : t.HasDirectory output (t.destination output))
    (hrun : Program.runOn (writeInto package schema output options) transcript t =
      ((.ok paths, transcript'), t')) :
    t'.HasDirectory output (t.destination output) ∧
      Program.runOn (writeInto package schema output options) transcript' t' =
        ((.ok paths, transcript'), t') ∧
      ∃ g, ofSchema package schema output options = .ok g ∧
        ∀ r ∈ g.replacements none, r.IsMade output (t.destination output) t' := by
  obtain ⟨g, hg, hrecord, hfound, hchanged, rfl, rfl⟩ :=
    exists_of_runOn_writeInto_eq_ok hdir hrun
  rw [changes_eq_map, (output_of_ofSchema hg).1, ← changedAll] at hchanged
  have hnames := hasNames_of_ofSchema hg
  have hfileNames := fun r hr => h.isFileName_replacements hnames (r := r) hr
  have hnodup := h.nodup_replacements hnames
  have hsame := sameOutside_changedAll hfileNames hdir
  have hmade := isMade_of_changedAll_eq_ok hfileNames hnodup hdir hchanged
  have horphans := fun (name : String) (hname : name ∈ _) =>
    (h.of_mem_orphans hnames hname).2.2
  have hbrings := brings_of_applyAll hfileNames hnodup hdir hchanged
  have hsubset := replacements_subset hnames rfl horphans hbrings
  rw [hchanged] at hsame
  have hin : options.clean = true → manifestIn t' (t.destination output ++ [Manifest.fileName]) =
      .ok (manifestAt? t' (t.destination output ++ [Manifest.fileName])) := by
    intro hclean
    rw [manifestAt?]
    rcases manifestIn_of_brings hnames horphans hbrings with hnow | hsame
    · rw [hnow]
    · rw [hsame, (of_runOn_findPrevious hdir hfound).1 hclean]
  have hfoundNow :=
    runOn_findPrevious_of_sameDirectories hdir hsame.toSameDirectories hin hfound
  refine ⟨hsame.hasDirectory hdir, ?_, g, hg, ?_⟩
  · rw [runOn_writeInto_replacements hg hrecord hfoundNow,
      changedAll_of_isMade fun r hr => hmade r (hsubset hr)]
  · intro r hr
    apply hmade
    rw [replacements_eq_append]
    exact List.mem_append_right _ hr

/-- The manifest that a generation has written is read back. -/
theorem run_readManifest_of_isMade (hmanifest : g.options.manifest = true)
    (h : ∀ r ∈ g.replacements none, r.IsMade output dir t) :
    (readManifest (manifestPath output) : ExceptT FileError (StateM FileTree) _).run.run t =
      (.ok (some g.manifest), t) := by
  have hmem : (Manifest.fileName, some g.manifest.toText) ∈ g.replacements none :=
    mem_replacements.2 (Or.inr (Or.inr ⟨hmanifest, rfl⟩))
  have hmade := h _ hmem
  have hentry : t.get? (dir ++ [Manifest.fileName]) =
      some (.file g.manifest.toText.toUTF8) := hmade.get?_eq
  rw [manifestPath, run_readManifest_of_placeOf hmade.placeOf_eq (by rw [hentry]; simp),
    manifestIn_of_toText hentry]
  rfl

omit [Host] in
/-- Every file of a generation is recorded once. -/
theorem nodup_paths_outputs (hg : ofSchema package schema output options = .ok g) :
    (g.manifest.outputs.map (·.path)).Nodup := by
  obtain ⟨files, hfiles, rfl⟩ := ofSchema_eq_ok_iff.1 hg
  have hperm := (Manifest.outputsOf_perm schema files).map (·.path)
  rw [List.map_map] at hperm
  exact hperm.nodup_iff.2 (Package.nodup_names hfiles)

/-- Where the manifest in its directory, if one can be read there, is that of an earlier run, a run
of the writer that succeeds can be repeated: it succeeds again, gives the same paths and leaves the
tree as it is.  If it writes a manifest, that is read back and, against the files of the same
schema, records no file that has changed and none that is left over. -/
theorem write_repeated (h : ReadsPrevious t output)
    (hrun : Program.runOn (write package schema output options) transcript t =
      ((.ok paths, transcript'), t')) :
    Program.runOn (write package schema output options) transcript' t' =
        ((.ok paths, transcript'), t') ∧
      (options.manifest = true → ∃ files m, Package.files package schema = .ok files ∧
        (readManifest (manifestPath output) :
          ExceptT FileError (StateM FileTree) _).run.run t' = (.ok (some m), t') ∧
        m.modified (Manifest.ofFiles package schema files).outputs = [] ∧
        m.orphaned (Manifest.ofFiles package schema files).outputs = []) := by
  obtain ⟨hdir, hinto⟩ := writeInto_of_write_eq_ok hrun
  have hadds := addsDirectories_withDirectories t output
  rw [← destination_congr hadds.current_eq] at hdir
  obtain ⟨hdir', hagain, g, hg, hwritten⟩ :=
    writeInto_repeated (h.of_addsDirectories hadds) hdir hinto
  refine ⟨?_, fun hmanifest => ?_⟩
  · rw [runOn_write, Files.madeAll_of_hasDirectory hdir']
    exact hagain
  · have hoption : g.options.manifest = true := by rw [(output_of_ofSchema hg).2, hmanifest]
    have hread := run_readManifest_of_isMade hoption hwritten
    have hnodup := nodup_paths_outputs hg
    obtain ⟨files, hfiles, rfl⟩ := ofSchema_eq_ok_iff.1 hg
    exact ⟨files, _, hfiles, hread, Manifest.modified_outputs hnodup, Manifest.orphaned_outputs _⟩

end

/-- Over a package of two modules one of them is written again, without cleaning up, and then once
more. -/
theorem write_repeated_storage : ∃ t paths transcript t',
    (Program.runOn (write "rpc" storageSchema (.ofText "out") {}) {} {}).2 = t ∧
      ReadsPrevious t (.ofText "out") ∧
      Program.runOn (write "rpc" pageSchema (.ofText "out") { clean := false }) {} t =
        ((.ok paths, transcript), t') ∧
      Program.runOn (write "rpc" pageSchema (.ofText "out") { clean := false }) transcript t' =
        ((.ok paths, transcript), t') ∧
      ∃ files m, Package.files "rpc" pageSchema = .ok files ∧
        (readManifest (manifestPath (.ofText "out")) :
          ExceptT FileError (StateM FileTree) _).run.run t' = (.ok (some m), t') ∧
        m.modified (Manifest.ofFiles "rpc" pageSchema files).outputs = [] ∧
        m.orphaned (Manifest.ofFiles "rpc" pageSchema files).outputs = [] := by
  have hfirst : (Program.runOn (write "rpc" storageSchema (.ofText "out") {}) {} {}).1.1.isOk =
      true := by
    decide +kernel
  have hsecond : (Program.runOn (write "rpc" pageSchema (.ofText "out") { clean := false }) {}
      (Program.runOn (write "rpc" storageSchema (.ofText "out") {}) {} {}).2).1.1.isOk = true := by
    decide +kernel
  have hstart : WrittenBefore {} (.ofText "out") := by
    intro content hfile
    cases hfile
  rcases hrun : Program.runOn (write "rpc" storageSchema (.ofText "out") {}) {} {} with
    ⟨⟨e | _, _⟩, t⟩
  · rw [hrun] at hfirst
    cases hfirst
  rw [hrun] at hsecond
  have hreads := (hstart.of_write_eq_ok hrun).readsPrevious
  rcases hwrite : Program.runOn (write "rpc" pageSchema (.ofText "out") { clean := false }) {} t
    with ⟨⟨e | paths, transcript⟩, t'⟩
  · rw [hwrite] at hsecond
    cases hsecond
  · obtain ⟨hagain, hmanifest⟩ := write_repeated hreads hwrite
    exact ⟨t, paths, transcript, t', rfl, hreads, hwrite, hagain, hmanifest rfl⟩

end Generation

end ProtocolBindings
