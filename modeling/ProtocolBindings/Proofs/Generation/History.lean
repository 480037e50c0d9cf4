import ProtocolBindings.Proofs.Generation.Write

/-!
# Histories of a directory

A package is generated into the same directory again and again, from schemas in which domains
appear, vanish and reappear, under changing package names, and some runs fail.  The manifest links
the runs: what it records is what the last run has written, so cleaning up leaves nothing behind
that an earlier run has written and touches nothing that no run has written.
-/

namespace ProtocolBindings.Generation

open FileTree

/-- What runs of the writer that write a manifest and clean up make of a tree.  The generations
that were written are listed, newest first.  A run that fails for any reason but a file adds
none. -/
inductive History [Host] (output : Path) (t₀ : FileTree) : List Generation → FileTree → Prop where
  | start : History output t₀ [] t₀
  | success {done : List Generation} {t t' : FileTree} {package : String} {schema : Schema}
      {g : Generation} {transcript transcript' : Transcript} {paths : List Path}
      (h : History output t₀ done t)
      (hg : ofSchema package schema output { manifest := true, clean := true } = .ok g)
      (hrun : Program.runOn (write package schema output { manifest := true, clean := true })
        transcript t = ((.ok paths, transcript'), t')) :
      History output t₀ (g :: done) t'
  | refusal {done : List Generation} {t t' : FileTree} {package : String} {schema : Schema}
      {transcript transcript' : Transcript} {failure : Failure}
      (h : History output t₀ done t) (hfailure : ∀ e, failure ≠ .file e)
      (hrun : Program.runOn (write package schema output { manifest := true, clean := true })
        transcript t = ((.error failure, transcript'), t')) :
      History output t₀ done t'

/-- A directory holds the last generation and its manifest, nothing else that was generated, and
everything else as it was.  No generated file lies where the path itself leads through. -/
structure Tidy (output : Path) (t₀ : FileTree) (dir : List String) (done : List Generation)
    (t : FileTree) : Prop where
  current_eq : t.current = t₀.current
  hasNames : ∀ g ∈ done, g.HasNames
  notPassed : ∀ g ∈ done, ∀ name ∈ Manifest.fileName :: g.names,
    ¬t₀.Passes output (dir ++ [name])
  file : ∀ last ∈ done.head?, ∀ name text, (name, text) ∈ last.files →
    t.get? (dir ++ [name]) = some (.file text.toUTF8)
  manifest : ∀ last ∈ done.head?,
    t.get? (dir ++ [Manifest.fileName]) = some (.file last.manifest.toText.toUTF8)
  leftOver : ∀ last ∈ done.head?, ∀ g ∈ done, ∀ name ∈ g.names, name ∉ last.names →
    t.get? (dir ++ [name]) = none
  other : ∀ name, (∀ g ∈ done, name ∉ g.names) → (name = Manifest.fileName → done = []) →
    t.get? (dir ++ [name]) = t₀.get? (dir ++ [name]) ∨
      t₀.get? (dir ++ [name]) = none ∧ t.get? (dir ++ [name]) = some .directory ∧
        t₀.Passes output (dir ++ [name])

variable {output : Path} {t₀ t t' : FileTree} {dir : List String} {done : List Generation}
  {g last : Generation} {name text : String}

namespace Tidy

theorem start (output : Path) (t₀ : FileTree) (dir : List String) : Tidy output t₀ dir [] t₀ where
  current_eq := rfl
  hasNames := by simp
  notPassed := by simp
  file := by simp
  manifest := by simp
  leftOver := by simp
  other _ _ _ := Or.inl rfl

/-- Making the directory leaves the entries alone through which the path does not lead. -/
theorem get?_eq_of_not_passes (h : Tidy output t₀ dir done t) (hadds : t.AddsDirectories output t')
    (hpasses : ¬t₀.Passes output (dir ++ [name])) :
    t'.get? (dir ++ [name]) = t.get? (dir ++ [name]) := by
  rcases hadds.get?_eq (dir ++ [name]) with hsame | ⟨-, -, hpassed⟩
  · exact hsame
  · exact absurd ((AddsDirectories.passes_iff h.current_eq).1 hpassed) hpasses

theorem addDirectories (h : Tidy output t₀ dir done t) (hadds : t.AddsDirectories output t') :
    Tidy output t₀ dir done t' where
  current_eq := hadds.current_eq.trans h.current_eq
  hasNames := h.hasNames
  notPassed := h.notPassed
  file last hlast name text hname := by
    have hmem : name ∈ Manifest.fileName :: last.names :=
      List.mem_cons_of_mem _ (List.mem_map_of_mem (f := (·.1)) hname)
    rw [h.get?_eq_of_not_passes hadds (h.notPassed last (List.mem_of_mem_head? hlast) name hmem)]
    exact h.file last hlast name text hname
  manifest last hlast := by
    rw [h.get?_eq_of_not_passes hadds
      (h.notPassed last (List.mem_of_mem_head? hlast) _ List.mem_cons_self)]
    exact h.manifest last hlast
  leftOver last hlast g hg name hname hlost := by
    rw [h.get?_eq_of_not_passes hadds (h.notPassed g hg name (List.mem_cons_of_mem _ hname))]
    exact h.leftOver last hlast g hg name hname hlost
  other name hnames hmanifest := by
    rcases hadds.get?_eq (dir ++ [name]) with hsame | ⟨hnone, hdirectory, hpassed⟩
    · rw [hsame]
      exact h.other name hnames hmanifest
    · rw [AddsDirectories.passes_iff h.current_eq] at hpassed
      rcases h.other name hnames hmanifest with hsame | ⟨-, hdirectory', -⟩
      · rw [hsame] at hnone
        exact Or.inr ⟨hnone, hdirectory, hpassed⟩
      · rw [hdirectory'] at hnone
        cases hnone

variable [Host]

/-- The manifest that the next run finds is that of the last generation. -/
theorem manifestAt?_eq (h : Tidy output t₀ dir done t)
    (hstart : t₀.get? (dir ++ [Manifest.fileName]) = none) :
    manifestAt? t (dir ++ [Manifest.fileName]) = done.head?.map (·.manifest) := by
  cases done with
  | nil =>
    apply manifestAt?_of_manifestIn
    apply manifestIn_of_no_file
    intro content hfile
    rcases h.other Manifest.fileName (by simp) (fun _ => rfl) with hsame | ⟨-, hdirectory, -⟩
    · rw [hsame, hstart] at hfile
      cases hfile
    · rw [hdirectory] at hfile
      cases hfile
  | cons last earlier => exact manifestAt?_of_toText (h.manifest last rfl)

/-- Hence what is left over for the next run are the files of the last generation that the new
one lacks. -/
theorem mem_orphans_iff (h : Tidy output t₀ dir done t)
    (hstart : t₀.get? (dir ++ [Manifest.fileName]) = none) (hg : g.HasNames) :
    name ∈ g.orphans (manifestAt? t (dir ++ [Manifest.fileName])) ↔
      ∃ last ∈ done.head?, name ∈ last.names ∧ name ∉ g.names := by
  rw [h.manifestAt?_eq hstart]
  cases done with
  | nil => simp [orphans]
  | cons last earlier =>
    have hlast := h.hasNames last List.mem_cons_self
    simpa using Generation.mem_orphans_iff hlast hg

/-- Bringing about the replacements of a generation leaves a tidy directory. -/
theorem generate (h : Tidy output t₀ dir done t)
    (hstart : t₀.get? (dir ++ [Manifest.fileName]) = none) (hdir : t.HasDirectory output dir)
    (hg : g.HasNames) (hclean : g.options.clean = true) (hmanifest : g.options.manifest = true)
    (hbrings : Brings t dir (g.replacements (manifestAt? t (dir ++ [Manifest.fileName]))) t') :
    Tidy output t₀ dir (g :: done) t' := by
  have horphans : ∀ name, name ∈ g.orphans (manifestAt? t (dir ++ [Manifest.fileName])) ↔
      ∃ last ∈ done.head?, name ∈ last.names ∧ name ∉ g.names :=
    fun name => h.mem_orphans_iff hstart hg
  refine ⟨hbrings.current_eq.trans h.current_eq, ?_, ?_, ?_, ?_, ?_, ?_⟩
  · exact List.forall_mem_cons.2 ⟨hg, h.hasNames⟩
  · refine List.forall_mem_cons.2 ⟨?_, h.notPassed⟩
    intro name hname hpasses
    rw [← AddsDirectories.passes_iff h.current_eq] at hpasses
    have hdirectory := get?_of_passes hdir.placeOf_eq hdir.get?_eq hpasses
    rcases List.mem_cons.1 hname with rfl | hname
    · exact hbrings.manifest_ne_directory hmanifest hdirectory
    · exact hbrings.file_ne_directory hname hdirectory
  · rintro _ ⟨⟩ name text hname
    exact hbrings.get?_file hname
  · rintro _ ⟨⟩
    exact hbrings.get?_manifest hmanifest
  · rintro _ ⟨⟩ earlier hearlier name hname hlost
    have hdone : earlier ∈ done := by
      rcases List.mem_cons.1 hearlier with rfl | hdone
      · exact absurd hname hlost
      · exact hdone
    obtain ⟨last, hlast⟩ : ∃ last, last ∈ done.head? := by
      cases done with
      | nil => cases hdone
      | cons last rest => exact ⟨last, rfl⟩
    by_cases hlastName : name ∈ last.names
    · -- The last generation had it, so its manifest records it and cleaning up removes it.
      exact hbrings.get?_orphan hclean
        ((horphans name).2 ⟨last, hlast, hlastName, hlost⟩)
    · -- It was gone before this run, and this run leaves the name alone.
      have hfile : name ≠ Manifest.fileName := by
        rintro rfl
        exact (h.hasNames earlier hdone).ne_manifest hname
      have horphan : name ∉ g.orphans (manifestAt? t (dir ++ [Manifest.fileName])) := by
        intro hmem
        obtain ⟨other, hother, hotherName, -⟩ := (horphans name).1 hmem
        obtain rfl := Option.mem_unique hlast hother
        exact hlastName hotherName
      rw [hbrings.get?_other hlost (fun _ => hfile) fun _ => horphan]
      exact h.leftOver last hlast earlier hdone name hname hlastName
  · intro name hnames hfile
    rw [List.forall_mem_cons] at hnames
    have hfile' : name ≠ Manifest.fileName := by
      intro heq
      cases hfile heq
    have horphan : name ∉ g.orphans (manifestAt? t (dir ++ [Manifest.fileName])) := by
      intro hmem
      obtain ⟨other, hother, hotherName, -⟩ := (horphans name).1 hmem
      exact hnames.2 other (List.mem_of_mem_head? hother) hotherName
    rw [hbrings.get?_other hnames.1 (fun _ => hfile') fun _ => horphan]
    exact h.other name hnames.2 fun heq => absurd heq hfile'

end Tidy

theorem names_eq_of_map_eq {package : String} {schema : Schema} {options : Options}
    {names : List String} {g : Generation}
    (hnames : (ofSchema package schema output options).map Generation.names = .ok names)
    (hg : ofSchema package schema output options = .ok g) : g.names = names := by
  rw [hg] at hnames
  exact Except.ok.inj hnames

/-- What a generation replaces behind another one are the manifest and their files. -/
theorem mem_names_of_mem_replacements {last : Generation} {r : Replacement}
    (hclean : g.options.clean = true) (hmanifest : g.options.manifest = true)
    (hlast : last.HasNames) (hg : g.HasNames) (hr : r ∈ g.replacements (some last.manifest)) :
    r.1 ∈ Manifest.fileName :: (last.names ++ g.names) ∧ Path.IsFileName r.1 := by
  rcases (mem_replacements_iff hclean hmanifest).1 hr with
    ⟨name, hname, rfl⟩ | ⟨name, text, hname, rfl⟩ | rfl
  · obtain ⟨hlastName, -⟩ := (Generation.mem_orphans_iff hlast hg).1 hname
    exact ⟨List.mem_cons_of_mem _ (List.mem_append_left _ hlastName),
      hlast.isFileName name hlastName⟩
  · have hgname : name ∈ g.names := List.mem_map_of_mem (f := (·.1)) hname
    exact ⟨List.mem_cons_of_mem _ (List.mem_append_right _ hgname), hg.isFileName name hgname⟩
  · exact ⟨List.mem_cons_self, Manifest.isFileName_fileName⟩

section

variable [Host]

/-- Every history leaves its directory tidy. -/
theorem History.tidy
    (hstart : t₀.get? (t₀.destination output ++ [Manifest.fileName]) = none)
    (h : History output t₀ done t) : Tidy output t₀ (t₀.destination output) done t := by
  induction h with
  | start => exact .start _ _ _
  | refusal h hfailure hrun ih =>
    exact ih.addDirectories (addsDirectories_of_write_eq_error hfailure hrun)
  | @success done t t' package schema g transcript transcript' paths h hg hrun ih =>
    obtain ⟨hdir, g', hg', happly, -⟩ := exists_of_write_eq_ok hrun
    obtain rfl := Except.ok.inj (hg.symm.trans hg')
    rw [destination_congr ih.current_eq] at hdir happly
    have htidy := ih.addDirectories (addsDirectories_withDirectories t output)
    have hnames := hasNames_of_ofSchema hg
    obtain ⟨hout, hoptions⟩ := output_of_ofSchema hg
    have hclean : g.options.clean = true := by rw [hoptions]
    have hmanifest : g.options.manifest = true := by rw [hoptions]
    refine htidy.generate hstart hdir hnames hclean hmanifest ?_
    rw [changes_eq_map, hout] at happly
    have horphans : ∀ name ∈ g.orphans
        (manifestAt? (t.withDirectories output) (t₀.destination output ++ [Manifest.fileName])),
        Path.IsFileName name ∧ name ∉ g.names ∧ name ≠ Manifest.fileName := by
      intro name hname
      obtain ⟨last, hlast, hlastName, hlost⟩ := (htidy.mem_orphans_iff hstart hnames).1 hname
      have hlastNames := htidy.hasNames last (List.mem_of_mem_head? hlast)
      refine ⟨hlastNames.isFileName name hlastName, hlost, ?_⟩
      rintro rfl
      exact hlastNames.ne_manifest hlastName
    refine brings_of_applyAll ?_ (nodup_replacements hnames ?_) hdir happly
    · intro r hr
      rcases (mem_replacements_iff hclean hmanifest).1 hr with
        ⟨name, hname, rfl⟩ | ⟨name, text, hname, rfl⟩ | rfl
      · exact (horphans name hname).1
      · exact hnames.isFileName name (List.mem_map_of_mem (f := (·.1)) hname)
      · exact Manifest.isFileName_fileName
    · exact fun name hname => (horphans name hname).2

/-- A run that is seen to succeed goes on with a history. -/
theorem History.exists_of_isOk {package : String} {schema : Schema}
    (h : History output t₀ done t)
    (hok : (Program.runOn (write package schema output { manifest := true, clean := true }) {}
      t).1.1.isOk = true) :
    ∃ g, ofSchema package schema output { manifest := true, clean := true } = .ok g ∧
      History output t₀ (g :: done) (Program.runOn
        (write package schema output { manifest := true, clean := true }) {} t).2 := by
  rcases hrun : Program.runOn (write package schema output { manifest := true, clean := true }) {}
    t with ⟨⟨e | paths, transcript⟩, t'⟩
  · rw [hrun] at hok
    cases hok
  · obtain ⟨-, g, hg, -⟩ := exists_of_write_eq_ok hrun
    exact ⟨g, hg, h.success hg hrun⟩

/-- A history goes on with a generation if the directory is there, the names that it writes or
removes can be followed, and none of them is that of a directory. -/
theorem History.exists_success {package : String} {schema : Schema} {last : Generation}
    (hstart : t₀.get? (t₀.destination output ++ [Manifest.fileName]) = none)
    (h : History output t₀ (last :: done) t) (hdir : t.HasDirectory output (t₀.destination output))
    (hg : ofSchema package schema output { manifest := true, clean := true } = .ok g)
    (hrecord : schema.isRecordable = true)
    (hplaces : ∀ name ∈ Manifest.fileName :: (last.names ++ g.names),
      t.placeOf (output.joinText name) = .ok (t₀.destination output ++ [name]))
    (hfree : ∀ name ∈ Manifest.fileName :: (last.names ++ g.names),
      t.get? (t₀.destination output ++ [name]) ≠ some .directory) :
    ∃ t', History output t₀ (g :: last :: done) t' := by
  have htidy := h.tidy hstart
  have hnames := hasNames_of_ofSchema hg
  obtain ⟨-, hoptions⟩ := output_of_ofSchema hg
  have hclean : g.options.clean = true := by rw [hoptions]
  have hmanifest : g.options.manifest = true := by rw [hoptions]
  have hprevious : manifestIn t (t₀.destination output ++ [Manifest.fileName]) =
      .ok (some last.manifest) :=
    manifestIn_of_toText (htidy.manifest last rfl)
  have hmem : ∀ r ∈ g.replacements (some last.manifest),
      r.1 ∈ Manifest.fileName :: (last.names ++ g.names) ∧ Path.IsFileName r.1 :=
    fun r hr => mem_names_of_mem_replacements hclean hmanifest
      (htidy.hasNames last List.mem_cons_self) hnames hr
  obtain ⟨t', hchanged⟩ := exists_changedAll_eq_ok (fun r hr => (hmem r hr).2) hdir
    (fun r hr => hplaces _ (hmem r hr).1) fun r hr => hfree _ (hmem r hr).1
  have hpath : t.placeOf (manifestPath output) =
      .ok (t₀.destination output ++ [Manifest.fileName]) :=
    hplaces _ List.mem_cons_self
  have hfound : Program.runOn (findPrevious output { manifest := true, clean := true }) {} t =
      ((.ok (some last.manifest), {}), t) := by
    rw [findPrevious, if_pos rfl, Program.runOn_files,
      run_readManifest_of_placeOf hpath (hfree _ List.mem_cons_self), hprevious]
    rfl
  have hrun : Program.runOn (write package schema output { manifest := true, clean := true }) {} t =
      ((.ok (g.writtenFiles.map (·.1)), {}), t') := by
    rw [runOn_write, Files.madeAll_of_hasDirectory hdir]
    dsimp only
    rw [runOn_writeInto_replacements hg hrecord (m := some last.manifest) hfound, hchanged]
  exact ⟨t', h.success hg hrun⟩

/-- A schema with one domain that holds nothing. -/
def pageSchema : Schema := { version := "tot", domains := [{ name := "Page" }] }

def notesTree : FileTree where
  entries := [(["out"], .directory), (["out", "notes.txt"], .file "kept".toUTF8)]

/-- After any history with a success, a directory that held no manifest at the start holds the
files of the last generation with their texts, its manifest, none of the other files that were
ever generated, and every other entry as it was.  The one exception are names through which the
path of the directory itself leads, such as `sub` in `out/sub/..`: where there was nothing, there
may be a directory now. -/
theorem History.get?_eq {earlier : List Generation}
    (hstart : t₀.get? (t₀.destination output ++ [Manifest.fileName]) = none)
    (h : History output t₀ (last :: earlier) t) (name : String) :
    (∀ text, (name, text) ∈ last.files →
        t.get? (t₀.destination output ++ [name]) = some (.file text.toUTF8)) ∧
      (name = Manifest.fileName →
        t.get? (t₀.destination output ++ [name]) = some (.file last.manifest.toText.toUTF8)) ∧
      (name ∉ last.names → (∃ g ∈ earlier, name ∈ g.names) →
        t.get? (t₀.destination output ++ [name]) = none) ∧
      (name ≠ Manifest.fileName → (∀ g ∈ last :: earlier, name ∉ g.names) →
        t.get? (t₀.destination output ++ [name]) = t₀.get? (t₀.destination output ++ [name]) ∨
          Path.parentStep ∈ output.steps ∧
            t₀.Passes output (t₀.destination output ++ [name]) ∧
            t₀.get? (t₀.destination output ++ [name]) = none ∧
            t.get? (t₀.destination output ++ [name]) = some .directory) := by
  have htidy := h.tidy hstart
  refine ⟨?_, ?_, ?_, ?_⟩
  · exact fun text hname => htidy.file last rfl name text hname
  · rintro rfl
    exact htidy.manifest last rfl
  · rintro hlost ⟨g, hg, hname⟩
    exact htidy.leftOver last rfl g (List.mem_cons_of_mem _ hg) name hname hlost
  · intro hmanifest hnames
    rcases htidy.other name hnames fun heq => absurd heq hmanifest with
      hsame | ⟨hnone, hdirectory, hpasses⟩
    · exact Or.inl hsame
    · exact Or.inr ⟨parentStep_mem_of_passes hpasses, hpasses, hnone, hdirectory⟩

end

/-- Whether an entry is a directory can be decided without a look at the contents of files. -/
instance (entry : Option FileEntry) : Decidable (entry = some .directory) :=
  match entry with
  | none => isFalse (by simp)
  | some (.file _) => isFalse (by simp)
  | some .directory => isTrue rfl

/-- A schema with another domain besides. -/
def networkSchema : Schema where
  version := "tot"
  domains := [{ name := "Page" }, { name := "Network" }]

/-- After a run with another domain and one without it the directory holds the file that it held
at the start, and no file of that domain. -/
theorem History.get?_eq_notes : ∃ first last t, History (.ofText "out") notesTree [last, first] t ∧
    "Network.py" ∈ first.names ∧ t.get? ["out", "Network.py"] = none ∧
    t.get? ["out", "notes.txt"] = some (.file "kept".toUTF8) := by
  have hfirst : (Program.runOn (write "rpc" networkSchema (.ofText "out")
      { manifest := true, clean := true }) {} notesTree).1.1.isOk = true := by
    decide +kernel
  have hlast : (ofSchema "rpc" pageSchema (.ofText "out")
      { manifest := true, clean := true }).isOk = true := by
    decide
  obtain ⟨first, hgfirst, h⟩ := History.start.exists_of_isOk hfirst
  obtain ⟨last, hglast⟩ := Results.isOk_eq_true_iff.1 hlast
  have hnames : first.names = ["Page.py", "Network.py", "__init__.py"] :=
    names_eq_of_map_eq (by decide) hgfirst
  have hlastNames : last.names = ["Page.py", "__init__.py"] :=
    names_eq_of_map_eq (by decide) hglast
  obtain ⟨t, h⟩ : ∃ t, History (.ofText "out") notesTree [last, first] t := by
    have hdir : FileTree.HasDirectory (Program.runOn (write "rpc" networkSchema (.ofText "out")
        { manifest := true, clean := true }) {} notesTree).2 (.ofText "out") ["out"] :=
      ⟨by decide +kernel, by decide +kernel⟩
    refine h.exists_success rfl hdir hglast (by decide) ?_ ?_
    · rw [hnames, hlastNames]
      decide +kernel
    · rw [hnames, hlastNames]
      decide +kernel
  refine ⟨first, last, t, h, ?_, ?_, ?_⟩
  · rw [hnames]
    decide
  · obtain ⟨-, -, hvanished, -⟩ := h.get?_eq rfl "Network.py"
    apply hvanished
    · rw [hlastNames]
      decide
    · exact ⟨first, List.mem_singleton_self first, by rw [hnames]; decide⟩
  · obtain ⟨-, -, -, hother⟩ := h.get?_eq rfl "notes.txt"
    have hnot : ∀ g ∈ [last, first], "notes.txt" ∉ g.names := by
      rw [List.forall_mem_cons, List.forall_mem_singleton, hlastNames, hnames]
      decide
    rcases hother (by decide) hnot with hsame | ⟨hparent, -⟩
    · exact hsame
    · exact absurd hparent (by decide)

/-- Writing to `out/sub/..` where there is nothing leaves a directory `sub` that no run has
generated. -/
theorem History.exists_get?_ne : ∃ g t, History (.ofText "out/sub/..") {} [g] t ∧
    FileTree.get? {} (FileTree.destination {} (.ofText "out/sub/..")) = none ∧
    "sub" ≠ Manifest.fileName ∧ "sub" ∉ g.names ∧
    t.get? (FileTree.destination {} (.ofText "out/sub/..") ++ ["sub"]) ≠
      FileTree.get? {} (FileTree.destination {} (.ofText "out/sub/..") ++ ["sub"]) := by
  have hok : (Program.runOn (write "rpc" pageSchema (.ofText "out/sub/..")
      { manifest := true, clean := true }) {} {}).1.1.isOk = true := by
    decide +kernel
  obtain ⟨g, hg, h⟩ := History.start.exists_of_isOk hok
  have hgnames : g.names = ["Page.py", "__init__.py"] :=
    names_eq_of_map_eq (by decide) hg
  refine ⟨g, _, h, rfl, by decide, ?_, ?_⟩
  · rw [hgnames]
    decide
  · have hmade : ((Program.runOn (write "rpc" pageSchema (.ofText "out/sub/..")
        { manifest := true, clean := true }) {} {}).2.get? ["out", "sub"]).isSome = true := by
      decide +kernel
    intro hnone
    rw [show FileTree.destination {} (.ofText "out/sub/..") ++ ["sub"] = ["out", "sub"] by decide]
      at hnone
    rw [hnone] at hmade
    cases hmade

end ProtocolBindings.Generation
