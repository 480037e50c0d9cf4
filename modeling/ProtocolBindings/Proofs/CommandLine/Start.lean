import ProtocolBindings.Proofs.CommandLine.Runs
import ProtocolBindings.Proofs.CommandLine.Simulation
import ProtocolBindings.Proofs.Config.Nearest

/-!
# Where a command is started

A command without a named configuration file takes the nearest one, and from then on the directory
that it was started in does not matter.  So it does the same from every directory with the same
nearest directory that holds such a file, as long as the names of these files can be looked at from
there.
-/

namespace ProtocolBindings.CommandLine

open FileTree

section

variable [Host]

/-- What the program does when it is started in a directory. -/
def runFrom (environment : Option String) (args : List String) (t : FileTree)
    (place : List String) : Outcome × FileTree :=
  (run environment args : StateM FileTree Outcome).run (t.startedIn place)

/-- What the program does with files when it is started in a directory. -/
def accessesFrom (environment : Option String) (args : List String) (t : FileTree)
    (place : List String) : List FileAccess :=
  (Observed.observe (run environment args) (t.startedIn place)).2.accesses

end

/-- The configuration file that is found from a directory. -/
def configFrom (t : FileTree) (place : List String) : Except FileError (Option Path) :=
  ((Config.find? none : ExceptT FileError (StateM FileTree) _).run.run (t.startedIn place)).1

/-- The program does the same with some arguments whether it is started in the one directory or in
the other: it finds the same configuration file, reports the same and leaves the same files, and
once it has looked for the configuration file, it does the same at the same absolute paths. -/
structure RunsAlike [Host] (environment : Option String) (args : List String) (t : FileTree)
    (first second : List String) : Prop where
  config : configFrom t first = .ok (t.nearestConfig? first) ∧
    configFrom t second = configFrom t first
  outcome : (runFrom environment args t second).1 = (runFrom environment args t first).1
  entries : (runFrom environment args t second).2.entries =
    (runFrom environment args t first).2.entries
  accesses : ∃ search search' rest, accessesFrom environment args t first = search ++ rest ∧
    accessesFrom environment args t second = search' ++ rest ∧
      (∀ access ∈ search ++ search', access.use = .look) ∧
        ∀ access ∈ rest, access.path.isAbsolute = true

/-! ## Up to the configuration file -/

variable (environment : Option String) {args : List String} {a : Arguments} {p : Path}
  {s s' : Observation} {transcript : Transcript} {found : Option Path}

theorem follows_currentDirectory : (Observed.reading fun _ => True).Rel
    FileSystem.currentDirectory FileSystem.currentDirectory :=
  fun s => ⟨[], by rw [List.append_nil]; rfl, by simp⟩

/-- Observing the search does not change what it finds. -/
theorem configFrom_eq_observed (t : FileTree) (place : List String) :
    configFrom t place = ((Config.find? none : ExceptT FileError Observed _).run.run
      { tree := t.startedIn place }).1 := by
  obtain ⟨done, hrun, -⟩ := (Observed.reading fun _ => True).find? follows_currentDirectory
    (fun _ => trivial) { tree := t.startedIn place }
  exact (congrArg Prod.fst hrun).symm

theorem configFrom_eq {t : FileTree} {place : List String} (h : t.CanStart place) :
    configFrom t place = .ok (t.nearestConfig? place) := by
  obtain ⟨looks, hfind, -⟩ := Observed.run_find? (s := { tree := t.startedIn place }) h.startedIn
  exact (configFrom_eq_observed t place).trans (congrArg Prod.fst hfind)

/-- From a directory with a path that is too long for another name, nothing is found: the search
ends with its first look. -/
theorem configFrom_eq_error {t : FileTree} {place : List String}
    (h : t.HasDirectory ⟨.top, place⟩ place)
    (hlong : maxPathSize < (Path.mk .top (place ++ ["cri.yml"])).text.utf8ByteSize) :
    configFrom t place = .error ⟨.nameTooLong, (Path.mk .top (place ++ ["cri.yml"])).text⟩ :=
  (configFrom_eq_observed t place).trans
    (Observed.run_find?_of_long (s := { tree := t.startedIn place }) h.startedIn hlong)

/-- Every path of a configuration is absolute as seen from an absolute path. -/
theorem usesConfig_within (config : Config) (version : Option String) (h : p.isAbsolute = true) :
    Observed.elsewhere.UsesConfig ((config.within p).withVersion version) := by
  have hrelative (text : String) : (Path.ofText (Config.relativeTo p text)).isAbsolute = true := by
    rw [Config.relativeTo]
    split
    · assumption
    · exact Path.isAbsolute_ofText_text (Path.isAbsolute_joinText text h)
  have hprotocol : ((config.within p).withVersion version).protocolPath.isAbsolute = true := by
    cases version <;> exact hrelative _
  have houtput : ((config.within p).withVersion version).outputPath.isAbsolute = true := by
    cases version <;> exact hrelative _
  exact ⟨hprotocol, houtput,
    Path.isAbsolute_joinText _ (Path.isAbsolute_joinText _ hprotocol),
    Path.isAbsolute_joinText _ houtput⟩

theorem isAbsolute_nearestConfig? {t : FileTree} {place : List String}
    (h : t.nearestConfig? place = some p) : p.isAbsolute = true := by
  rw [nearestConfig?, Option.bind_eq_some_iff] at h
  obtain ⟨dir, -, h⟩ := h
  obtain ⟨name, -, rfl⟩ := Option.map_eq_some_iff.1 h
  rfl

section

variable [Host]

theorem runOn_reporting_files {α : Type} {step : ExceptT FileError Observed α} {result : α}
    {debug : Bool} {label? : Failure → Option String} (h : step.run.run s = (.ok result, s')) :
    Command.runOn (Command.reporting debug label? (Program.files step)) transcript s =
      ((.ok result, transcript), s') := by
  have hfiles : ((ExceptT.run (Program.files step)).run transcript).run s =
      ((.ok result, transcript), s') := by
    change (step.run >>= _ : Observed _).run s = _
    rw [StateT.run_bind, h]
    rfl
  rw [Command.runOn_reporting, hfiles]

/-- A command without a named file first looks for the nearest one. -/
theorem exists_runOn_generate_none (h : s.tree.CanStart s.tree.current) : ∃ looks,
    Command.runOn (generate environment a none) transcript s =
        Command.runOn (generateFound environment a (s.tree.nearestConfig? s.tree.current))
          transcript ⟨s.tree, s.accesses ++ looks⟩ ∧
      ∀ access ∈ looks, access.use = .look := by
  obtain ⟨looks, hfind, hlooks⟩ := Observed.run_find? h
  refine ⟨looks, ?_, hlooks⟩
  rw [generate_none, Command.runOn_bind, runOn_reporting_files hfind]

/-- The command as it goes on when the search has found a file or none. -/
def generateAfter (environment : Option String) (args : List String) (found : Option Path) :
    Command Observed Unit :=
  Command.withArguments generateForm args (fun _ => pure ()) fun a _ =>
    generateFound environment a found

/-- The run of a command without a named file is what it does when the search has ended. -/
theorem exists_run_generate (h : s.tree.CanStart s.tree.current)
    (hargs : ∀ a, Arguments.read generateForm.options false args = .ok a →
      a.value? .config = none) : ∃ looks,
    (run environment ("generate" :: args) : Observed Outcome).run s =
        (Command.outcome generateForm (generateAfter environment args
          (s.tree.nearestConfig? s.tree.current))).run ⟨s.tree, s.accesses ++ looks⟩ ∧
      ∀ access ∈ looks, access.use = .look := by
  have hnone : (⟨s.tree, s.accesses ++ []⟩ : Observation) = s := by rw [List.append_nil]
  rw [run_generate]
  unfold generateAfter Command.withArguments
  cases hread : Arguments.read generateForm.options false args with
  | error problem => exact ⟨[], by rw [hnone], by simp⟩
  | ok a =>
    have hnamed : (pathArgument configForm "Path" true a : Command Observed _) = pure none := by
      rw [pathArgument, show a.value? configForm.key = none from hargs a hread]
    simp only [hnamed, pure_bind]
    by_cases hhelp : a.has .help = true
    · simp only [if_pos hhelp]
      exact ⟨[], by rw [hnone], by simp⟩
    · simp only [if_neg hhelp]
      by_cases hwords : a.words.isEmpty = true
      · simp only [if_pos hwords]
        obtain ⟨looks, hrun, hlooks⟩ := exists_runOn_generate_none environment h
        exact ⟨looks, Command.outcome_congr _ hrun, hlooks⟩
      · simp only [if_neg hwords]
        exact ⟨[], by rw [hnone], by simp⟩

/-! ## Behind the search -/

theorem corresponds_generateAfter (args : List String) (found : Option Path)
    (h : ∀ p, found = some p → p.isAbsolute = true) :
    Observed.elsewhere.Corresponds (generateAfter environment args found)
      (generateAfter environment args found) := by
  refine Observed.elsewhere.corresponds_withArguments _ _ (fun _ => ?_) fun a _ => ?_
  · exact Observed.elsewhere.corresponds_pure ()
  · exact Observed.elsewhere.corresponds_generateFound a fun p hp =>
      ⟨h p hp, fun config version => usesConfig_within config version (h p hp)⟩

/-! ## Observation -/

/-- Observing a command does not change what it does. -/
theorem observe_run_generate (args : List String) (t : FileTree) (place : List String) :
    Observed.observe (run environment ("generate" :: args)) (t.startedIn place) =
      ((runFrom environment ("generate" :: args) t place).1,
        ⟨(runFrom environment ("generate" :: args) t place).2,
          accessesFrom environment ("generate" :: args) t place⟩) := by
  have hfollows := (Observed.reading fun _ => True).rel_run_generate
    follows_currentDirectory (fun _ => trivial) (fun _ => trivial) environment args
  rcases hrun : runFrom environment ("generate" :: args) t place with ⟨o, t'⟩
  obtain ⟨accesses, hobserve, -⟩ := Observed.Follows.observe hfollows hrun
  rw [accessesFrom, hobserve]

/-- The directory that a command without a named configuration file is started in does not matter:
it does the same from every directory that has the same nearest directory with such a file. -/
theorem runsAlike_of_sameNearest {t : FileTree} {first second : List String}
    (hfirst : t.CanStart first) (hsecond : t.CanStart second)
    (hnearest : t.nearest? first = t.nearest? second)
    (hargs : ∀ a, Arguments.read generateForm.options false args = .ok a →
      a.value? .config = none) :
    RunsAlike environment ("generate" :: args) t first second := by
  have hfound : t.nearestConfig? second = t.nearestConfig? first := by
    rw [nearestConfig?, nearestConfig?, hnearest]
  obtain ⟨search, hrun, hsearch⟩ := exists_run_generate environment
    (s := { tree := t.startedIn first }) hfirst.startedIn hargs
  obtain ⟨search', hrun', hsearch'⟩ := exists_run_generate environment
    (s := { tree := t.startedIn second }) hsecond.startedIn hargs
  have hafter := Observed.elsewhere.rel_outcome generateForm
    (corresponds_generateAfter environment args (t.nearestConfig? first) fun _ h =>
      isAbsolute_nearestConfig? h)
  obtain ⟨outcome, t', rest, hdone, hdone', hrest⟩ :=
    hafter (t.startedIn first) second search search'
  have hobserved := (observe_run_generate environment args t first).symm.trans (hrun.trans hdone)
  have hobserved' : Observed.observe (run environment ("generate" :: args)) (t.startedIn second) =
      (outcome, ⟨t'.startedIn second, search' ++ rest⟩) := by
    refine hrun'.trans ?_
    change (Command.outcome generateForm
      (generateAfter environment args (t.nearestConfig? second))).run _ = _
    rw [hfound]
    exact hdone'
  rw [observe_run_generate] at hobserved'
  simp only [Prod.mk.injEq, Observation.mk.injEq] at hobserved hobserved'
  obtain ⟨houtcome, htree, haccesses⟩ := hobserved
  obtain ⟨houtcome', htree', haccesses'⟩ := hobserved'
  refine ⟨?_, houtcome'.trans houtcome.symm, ?_, ?_⟩
  · rw [configFrom_eq hfirst, configFrom_eq hsecond, hfound]
    exact ⟨rfl, rfl⟩
  · rw [htree, htree']
    rfl
  · refine ⟨search, search', rest, haccesses, haccesses', ?_, hrest⟩
    exact List.forall_mem_append.2 ⟨hsearch, hsearch'⟩

end

/-- A tree with a configuration file in a directory that has another one in it. -/
def nestedTree : FileTree where
  entries :=
    [(["work"], .directory), (["work", "cri.yaml"], .file "output: ../out\n".toUTF8),
      (["work", "deep"], .directory)]

theorem runsAlike_of_sameNearest_nested :
    nestedTree.CanStart ["work"] ∧ nestedTree.CanStart ["work", "deep"] ∧
      nestedTree.nearest? ["work"] = some ["work"] ∧
        nestedTree.nearest? ["work", "deep"] = some ["work"] ∧
          RunsAlike none ["generate", "--dry-run"] nestedTree ["work"] ["work", "deep"] := by
  have hwork : nestedTree.CanStart ["work"] := ⟨⟨rfl, rfl⟩, by decide⟩
  have hdeep : nestedTree.CanStart ["work", "deep"] := ⟨⟨rfl, rfl⟩, by decide⟩
  refine ⟨hwork, hdeep, by decide, by decide, ?_⟩
  refine runsAlike_of_sameNearest none hwork hdeep (by decide) fun a hread => ?_
  cases hread
  rfl

/-! ## Directories that are too deep -/

/-- A tree with a configuration file at the top and directories down to a place. -/
def shaft (place : List String) : FileTree where
  entries := place.inits.tail.map (·, .directory) ++ [(["cri.yml"], .file "output: out\n".toUTF8)]

section

variable {place dir : List String}

theorem get?_shaft (h : dir <+: place) : (shaft place).get? dir = some .directory := by
  cases dir with
  | nil => rfl
  | cons first rest =>
    have hmem : first :: rest ∈ place.inits.tail := by
      obtain ⟨more, rfl⟩ := h
      have hinits : first :: rest ∈ (first :: (rest ++ more)).inits := by
        rw [List.mem_inits]
        exact ⟨more, rfl⟩
      rw [List.inits_cons] at hinits
      exact (List.mem_cons.1 hinits).resolve_left (List.cons_ne_nil _ _)
    rw [get?, shaft, List.lookup_append, Entries.lookup_map_of_mem hmem]
    rfl

/-- The configuration file is the only file of the tree. -/
theorem eq_of_isFileAt_shaft (h : (shaft place).isFileAt dir = true) : dir = ["cri.yml"] := by
  rw [isFileAt] at h
  split at h
  · rename_i content hentry
    rw [get?] at hentry
    split at hentry
    · cases hentry
    · obtain ⟨front, back, hentries, -⟩ := List.lookup_eq_some_iff.1 hentry
      have hmem : (dir, FileEntry.file content) ∈ (shaft place).entries :=
        hentries ▸ List.mem_append_right _ List.mem_cons_self
      rcases List.mem_append.1 hmem with hmem | hmem
      · obtain ⟨_, -, hfile⟩ := List.mem_map.1 hmem
        cases hfile
      · exact (Prod.mk.inj (List.mem_singleton.1 hmem)).1
  · cases h

theorem nearest?_shaft (h : ((shaft place).configName? []).isSome = true) :
    (shaft place).nearest? place = some [] := by
  have hnone (first : String) (rest : List String) :
      (shaft place).configName? (first :: rest) = none := by
    refine List.find?_eq_none.2 fun name _ hfile => ?_
    have heq := eq_of_isFileAt_shaft hfile
    simp at heq
  cases place with
  | nil => exact List.find?_eq_some_iff_append.2 ⟨h, [], [], rfl, by simp⟩
  | cons first rest =>
    rw [nearest?, List.inits_cons, List.reverse_cons]
    refine List.find?_eq_some_iff_append.2 ⟨h, _, [], rfl, fun dir hdir => ?_⟩
    obtain ⟨tail, -, rfl⟩ := List.mem_map.1 (List.mem_reverse.1 hdir)
    rw [hnone]
    rfl

theorem hasDirectory_shaft (hnull : (Path.mk .top place).hasNullCharacter = false)
    (hsize : (Path.mk .top place).text.utf8ByteSize ≤ maxPathSize)
    (hsteps : ∀ step ∈ place, step ≠ Path.parentStep ∧ step.utf8ByteSize ≤ maxNameSize) :
    (shaft place).HasDirectory ⟨.top, place⟩ place :=
  ⟨placeOf_eq_ok_iff.2 ⟨hnull, hsize, follow_eq_append (fun _ => get?_shaft) hsteps⟩,
    get?_shaft (List.prefix_refl place)⟩

end

/-- A place whose path is as long as a path can be, but for a few characters. -/
def deepPlace : List String :=
  List.replicate 15 (String.ofList (List.replicate 255 'd')) ++
    [String.ofList (List.replicate 249 'd')]

theorem isFileName_of_mem_deepPlace {step : String} (h : step ∈ deepPlace) :
    Path.IsFileName step := by
  obtain ⟨n, rfl⟩ : ∃ n, step = String.ofList (List.replicate (n + 1) 'd') := by
    rcases List.mem_append.1 h with h | h
    · exact ⟨254, List.eq_of_mem_replicate h⟩
    · exact ⟨248, List.mem_singleton.1 h⟩
  have hne {name : String} (hhead : name.toList.head? ≠ some 'd') :
      String.ofList (List.replicate (n + 1) 'd') ≠ name := by
    rintro rfl
    rw [String.toList_ofList] at hhead
    exact hhead rfl
  refine ⟨hne (by decide), hne (by decide), hne (by decide), ?_, ?_⟩
  all_goals
    rw [String.toList_ofList, List.mem_replicate]
    exact fun hmem => absurd hmem.2 (by decide)

theorem hasNullCharacter_deepPlace : (Path.mk .top deepPlace).hasNullCharacter = false := by
  refine List.any_eq_false.2 fun step hstep => ?_
  simpa using (isFileName_of_mem_deepPlace hstep).noNull

/-- From a directory with a path that is too long for another name the search ends early. -/
theorem not_runsAlike_deep :
    (shaft deepPlace).HasDirectory ⟨.top, []⟩ [] ∧
      (shaft deepPlace).HasDirectory ⟨.top, deepPlace⟩ deepPlace ∧
        (shaft deepPlace).nearest? [] = some [] ∧ (shaft deepPlace).nearest? deepPlace = some [] ∧
          ¬ RunsAlike none ["generate"] (shaft deepPlace) [] deepPlace := by
  have htop : ((shaft deepPlace).configName? []).isSome = true := by decide +kernel
  have hdeep : (shaft deepPlace).HasDirectory ⟨.top, deepPlace⟩ deepPlace :=
    hasDirectory_shaft hasNullCharacter_deepPlace (by decide +kernel) (by decide +kernel)
  refine ⟨⟨rfl, rfl⟩, hdeep, ?_, nearest?_shaft htop, fun h => ?_⟩
  · exact List.find?_eq_some_iff_append.2 ⟨htop, [], [], rfl, by simp⟩
  · have hfails := configFrom_eq_error hdeep (by decide +kernel)
    rw [h.config.2, h.config.1] at hfails
    cases hfails

end ProtocolBindings.CommandLine
