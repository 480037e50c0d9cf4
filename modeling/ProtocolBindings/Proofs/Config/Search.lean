import ProtocolBindings.Proofs.CommandLine.Start

/-!
# The search for the configuration file

The search goes from a directory to its parent until it has come to the root, and in every directory
through the names that a configuration file can have.  What it finds is said here apart from the
search: the first name under which there is a file, in the nearest directory that has one.

The system has a greatest length of a path.  In a directory that is too deep for the names of
configuration files the search ends with the failure that the system reports.
-/

namespace ProtocolBindings

/-! ## The way to the root -/

namespace Config

/-- The directories of the search are a directory and those of its parent, up to the one that is its
own parent. -/
theorem ancestors_eq_cons (p : Path) :
    ancestors p = p :: if p.parent = p then [] else ancestors p.parent := by
  obtain ⟨root, steps⟩ := p
  rcases List.eq_nil_or_concat' steps with rfl | ⟨front, last, rfl⟩
  · have hparent : (Path.mk root []).parent = ⟨root, []⟩ := rfl
    rw [hparent, if_pos rfl]
    rfl
  · have hparent : (Path.mk root (front ++ [last])).parent = ⟨root, front⟩ := by
      rw [Path.parent, List.dropLast_concat]
    have hne : Path.mk root front ≠ ⟨root, front ++ [last]⟩ := by simp
    rw [hparent, if_neg hne, ancestors, ancestors, List.range_succ_eq_map, List.map_cons,
      List.map_map]
    refine congrArg₂ List.cons ?_ ?_
    · rw [Nat.sub_zero, List.take_length]
    · rw [List.length_append, List.length_singleton]
      refine List.map_congr_left fun n _ => ?_
      rw [Function.comp_apply, Nat.succ_eq_add_one, Nat.add_sub_add_right,
        List.take_append_of_le_length (Nat.sub_le _ _)]

/-- The places of the search are the names in a directory and the places of the search from its
parent. -/
theorem candidates_eq_append (p : Path) : candidates p =
    fileNames.map p.joinText ++ if p.parent = p then [] else candidates p.parent := by
  rw [candidates, ancestors_eq_cons, List.flatMap_cons]
  split
  · rfl
  · rfl

theorem length_candidates (p : Path) :
    (candidates p).length = fileNames.length * (p.steps.length + 1) := by
  simp [candidates, ancestors, fileNames, Function.comp_def, Nat.mul_comm]

end Config

namespace FileTree

variable {t : FileTree} {place dir inner : List String} {name step : String} {p : Path}
  {paths rest : List Path}

/-! ## What is looked for -/

/-- A configuration file is the nearest one to a place: it is in a directory around the place, it
has the first of the names under which there is a file in this directory, and there is no file with
one of the names in a directory between the two. -/
structure IsNearest (t : FileTree) (place dir : List String) (name : String) : Prop where
  around : dir <+: place
  file : t.isFileAt (dir ++ [name]) = true
  first : ∃ before after, Config.fileNames = before ++ name :: after ∧
    ∀ other ∈ before, t.isFileAt (dir ++ [other]) = false
  nearest : ∀ inner, dir <+: inner → inner <+: place → inner ≠ dir →
    ∀ other ∈ Config.fileNames, t.isFileAt (inner ++ [other]) = false

/-- What is to be found from a place: the nearest configuration file, and nothing where no directory
around the place has one. -/
structure IsFoundFrom (t : FileTree) (place : List String) (found : Option Path) : Prop where
  some_iff : ∀ p, found = some p ↔
    ∃ dir name, t.IsNearest place dir name ∧ p = ⟨.top, dir ++ [name]⟩
  none_iff : found = none ↔ ∀ dir, dir <+: place → ∀ name ∈ Config.fileNames,
    t.isFileAt (dir ++ [name]) = false

theorem configName?_eq_some_iff : t.configName? dir = some name ↔
    t.isFileAt (dir ++ [name]) = true ∧ ∃ before after,
      Config.fileNames = before ++ name :: after ∧
        ∀ other ∈ before, t.isFileAt (dir ++ [other]) = false := by
  rw [configName?, List.find?_eq_some_iff_append]
  simp only [Bool.not_eq_true']

theorem configName?_eq_none_iff : t.configName? dir = none ↔
    ∀ name ∈ Config.fileNames, t.isFileAt (dir ++ [name]) = false := by
  rw [configName?, List.find?_eq_none]
  simp only [Bool.not_eq_true]

theorem nearest?_concat : t.nearest? (place ++ [step]) =
    if (t.configName? (place ++ [step])).isSome then some (place ++ [step])
    else t.nearest? place := by
  have hinits : (place ++ [step]).inits = place.inits ++ [place ++ [step]] := by
    simp [List.inits_append]
  rw [nearest?, hinits, List.reverse_concat, List.find?_cons, nearest?]
  cases (t.configName? (place ++ [step])).isSome <;> rfl

theorem nearest?_eq_some_iff : t.nearest? place = some dir ↔
    dir <+: place ∧ (t.configName? dir).isSome ∧
      ∀ inner, dir <+: inner → inner <+: place → inner ≠ dir → t.configName? inner = none := by
  induction place using List.reverseRecOn with
  | nil =>
    have hnil : t.nearest? [] = if (t.configName? []).isSome then some [] else none := by
      rw [nearest?, List.inits, List.reverse_singleton, List.find?_singleton]
    rw [hnil, List.prefix_nil]
    constructor
    · intro h
      obtain ⟨hsome, heq⟩ := Option.ite_none_right_eq_some.1 h
      obtain rfl := Option.some.inj heq
      exact ⟨rfl, hsome, fun inner _ hinner hne => absurd (List.prefix_nil.1 hinner) hne⟩
    · rintro ⟨rfl, hsome, -⟩
      exact if_pos hsome
  | append_singleton place step ih =>
    rw [nearest?_concat]
    split
    · rename_i hsome
      rw [Option.some_inj]
      constructor
      · rintro rfl
        exact ⟨List.prefix_rfl, hsome, fun inner hdir hinner hne =>
          absurd (hinner.eq_of_length_le hdir.length_le) hne⟩
      · rintro ⟨hdir, -, hnearest⟩
        by_contra hne
        rw [hnearest _ hdir List.prefix_rfl hne] at hsome
        cases hsome
    · rename_i hnone
      rw [Bool.not_eq_true, Option.isSome_eq_false_iff, Option.isNone_iff_eq_none] at hnone
      rw [ih]
      constructor
      · rintro ⟨hdir, hsome, hnearest⟩
        refine ⟨hdir.trans (List.prefix_append _ _), hsome, fun inner hdir' hinner hne => ?_⟩
        rcases List.prefix_concat_iff.1 hinner with rfl | hinner
        · exact hnone
        · exact hnearest inner hdir' hinner hne
      · rintro ⟨hdir, hsome, hnearest⟩
        rcases List.prefix_concat_iff.1 hdir with rfl | hdir
        · rw [hnone] at hsome
          cases hsome
        · exact ⟨hdir, hsome, fun inner hdir' hinner =>
            hnearest inner hdir' (hinner.trans (List.prefix_append _ _))⟩

theorem nearest?_eq_none_iff : t.nearest? place = none ↔
    ∀ dir, dir <+: place → t.configName? dir = none := by
  rw [nearest?, List.find?_eq_none]
  simp

theorem isNearest_iff : t.IsNearest place dir name ↔
    t.nearest? place = some dir ∧ t.configName? dir = some name := by
  rw [nearest?_eq_some_iff]
  constructor
  · intro h
    have hname := configName?_eq_some_iff.2 ⟨h.file, h.first⟩
    refine ⟨⟨h.around, by rw [hname]; rfl, fun inner hdir hinner hne => ?_⟩, hname⟩
    exact configName?_eq_none_iff.2 (h.nearest inner hdir hinner hne)
  · rintro ⟨⟨haround, -, hnearest⟩, hname⟩
    obtain ⟨hfile, hfirst⟩ := configName?_eq_some_iff.1 hname
    exact ⟨haround, hfile, hfirst, fun inner hdir hinner hne =>
      configName?_eq_none_iff.1 (hnearest inner hdir hinner hne)⟩

theorem isFoundFrom_nearestConfig? : t.IsFoundFrom place (t.nearestConfig? place) where
  some_iff p := by
    rw [nearestConfig?, Option.bind_eq_some_iff]
    simp only [Option.map_eq_some_iff, isNearest_iff]
    constructor
    · rintro ⟨dir, hdir, name, hname, rfl⟩
      exact ⟨dir, name, ⟨hdir, hname⟩, rfl⟩
    · rintro ⟨dir, name, ⟨hdir, hname⟩, rfl⟩
      exact ⟨dir, hdir, name, hname, rfl⟩
  none_iff := by
    simp only [← configName?_eq_none_iff, ← nearest?_eq_none_iff]
    rw [nearestConfig?]
    cases hnearest : t.nearest? place with
    | none => simp
    | some dir =>
      obtain ⟨name, hname⟩ := Option.isSome_iff_exists.1 (nearest?_eq_some_iff.1 hnearest).2.1
      simp [hname]

/-! ## Directories to search from -/

/-- A directory at any depth: every place on the way to it is a directory, and every step is the
name of a file. -/
structure HoldsDirectory (t : FileTree) (place : List String) : Prop where
  get?_eq : ∀ dir, dir <+: place → t.get? dir = some .directory
  isFileName : ∀ step ∈ place, Path.IsFileName step ∧ step.utf8ByteSize ≤ maxNameSize

/-- Where a search starts: in the current directory, or in the directory that a given path stands
for. -/
structure StartsIn (t : FileTree) (start : Option Path) (place : List String) : Prop where
  current : t.HoldsDirectory t.current
  directory : t.HoldsDirectory place
  place_eq : place = (start.map t.destination).getD t.current
  noNull : ∀ p, start = some p → p.hasNullCharacter = false

/-- The configuration files that a directory can have. -/
def configPaths (place : List String) : List Path :=
  Config.fileNames.map fun name => ⟨.top, place ++ [name]⟩

theorem HoldsDirectory.around (h : t.HoldsDirectory place) (hdir : dir <+: place) :
    t.HoldsDirectory dir :=
  ⟨fun inner hinner => h.get?_eq inner (hinner.trans hdir),
    fun step hstep => h.isFileName step (hdir.subset hstep)⟩

theorem HoldsDirectory.hasNullCharacter_eq (h : t.HoldsDirectory place) :
    (Path.mk .top place).hasNullCharacter = false := by
  refine List.any_eq_false.2 fun step hstep => ?_
  simpa using (h.isFileName step hstep).1.noNull

theorem HoldsDirectory.hasDirectory (h : t.HoldsDirectory place)
    (hsize : (Path.mk .top place).text.utf8ByteSize ≤ maxPathSize) :
    t.HasDirectory ⟨.top, place⟩ place := by
  refine ⟨placeOf_eq_ok_iff.2 ⟨h.hasNullCharacter_eq, hsize, ?_⟩, h.get?_eq place List.prefix_rfl⟩
  exact follow_eq_append h.get?_eq fun step hstep =>
    ⟨(h.isFileName step hstep).1.ne_parent, (h.isFileName step hstep).2⟩

/-- A name can be looked at where its path is short enough. -/
theorem HoldsDirectory.kindAt?_eq (h : t.HoldsDirectory dir) (hname : name ∈ Config.fileNames)
    (hsize : (Path.mk .top (dir ++ [name])).text.utf8ByteSize ≤ maxPathSize) :
    (t.kindAt? ⟨.top, dir ++ [name]⟩).map (· == some .file) = .ok (t.isFileAt (dir ++ [name])) := by
  have hfile := (Config.isFileName_of_mem_fileNames hname).1
  have hdir : (Path.mk .top dir).text.utf8ByteSize ≤ maxPathSize := by
    have hle := utf8ByteSize_text_le (p := ⟨.top, dir⟩) hfile
    rw [joinText_of_isFileName hfile] at hle
    exact hle.trans hsize
  exact (h.hasDirectory hdir).kindAt?_eq hname hsize

theorem kindAt?_of_long (hnull : p.hasNullCharacter = false)
    (hlong : maxPathSize < p.text.utf8ByteSize) : t.kindAt? p = .error ⟨.nameTooLong, p.text⟩ := by
  have hplace : t.placeOf p = .error .nameTooLong := by
    rw [placeOf, hnull, if_neg Bool.false_ne_true, if_pos hlong]
  rw [kindAt?, kindOf, hplace]
  rfl

/-- A name in a directory further out makes a path that is not longer than the first name here. -/
theorem HoldsDirectory.utf8ByteSize_le (h : t.HoldsDirectory (dir ++ [step]))
    (hinner : inner <+: dir) (hname : name ∈ Config.fileNames) :
    (Path.mk .top (inner ++ [name])).text.utf8ByteSize ≤
      (Path.mk .top (dir ++ [step] ++ ["cri.yml"])).text.utf8ByteSize := by
  have hshort : ∀ name ∈ Config.fileNames, name.utf8ByteSize ≤ 9 := by decide
  have hfirst : "cri.yml".utf8ByteSize = 7 := by decide
  have hstep : step.utf8ByteSize ≠ 0 := by
    rw [ne_eq, String.utf8ByteSize_eq_zero_iff]
    exact (h.isFileName step (by simp)).1.ne_empty
  obtain ⟨more, rfl⟩ := hinner
  rw [Path.utf8ByteSize_text_top (by simp), Path.utf8ByteSize_text_top (by simp)]
  simp only [List.map_append, List.map_cons, List.map_nil, List.sum_append, List.sum_cons,
    List.sum_nil, hfirst]
  have hname' := hshort name hname
  omega

theorem canLookAt_append {front : List Path} : t.CanLookAt (front ++ rest) ↔
    t.CanLookAt front ∧ ((∀ p ∈ front, t.isFileAt p.steps = false) → t.CanLookAt rest) := by
  induction front with
  | nil => simp [CanLookAt]
  | cons p front ih =>
    rw [List.cons_append, CanLookAt, CanLookAt, ih, List.forall_mem_cons]
    tauto

theorem map_joinText_fileNames :
    Config.fileNames.map (Path.mk .top place).joinText = configPaths place :=
  List.map_congr_left fun _ hname =>
    joinText_of_isFileName (Config.isFileName_of_mem_fileNames hname).1

/-- Where the names in a directory can be looked at, so can the names in those around it. -/
theorem canLookAt_candidates_iff (h : t.HoldsDirectory place) :
    t.CanLookAt (Config.candidates ⟨.top, place⟩) ↔ t.CanLookAt (configPaths place) := by
  rw [Config.candidates_eq_append, map_joinText_fileNames, canLookAt_append]
  refine ⟨And.left, fun hhere => ⟨hhere, fun _ => ?_⟩⟩
  rcases List.eq_nil_or_concat' place with rfl | ⟨dir, step, rfl⟩
  · have hparent : (Path.mk .top []).parent = ⟨.top, []⟩ := rfl
    rw [if_pos hparent]
    trivial
  · have hparent : (Path.mk .top (dir ++ [step])).parent = ⟨.top, dir⟩ := by
      rw [Path.parent, List.dropLast_concat]
    have hne : Path.mk .top dir ≠ ⟨.top, dir ++ [step]⟩ := by simp
    rw [hparent, if_neg hne]
    refine canLookAt_of_forall fun p hp => ?_
    rw [candidates_eq, List.mem_flatMap] at hp
    obtain ⟨inner, hinner, hp⟩ := hp
    obtain ⟨name, hname, rfl⟩ := List.mem_map.1 hp
    rw [List.mem_reverse, List.mem_inits] at hinner
    exact (h.utf8ByteSize_le hinner hname).trans hhere.1

theorem HoldsDirectory.destinationFrom_eq (h : t.HoldsDirectory place) :
    destinationFrom [] place = place :=
  destinationFrom_of_notMem fun hmem => (h.isFileName _ hmem).1.ne_parent rfl

/-- A directory can be given by its absolute path. -/
theorem HoldsDirectory.startsIn (h : t.HoldsDirectory place)
    (hcurrent : t.HoldsDirectory t.current) : t.StartsIn (some ⟨.top, place⟩) place := by
  refine ⟨hcurrent, h, h.destinationFrom_eq.symm, fun p hp => ?_⟩
  cases hp
  exact h.hasNullCharacter_eq

/-- The place that a search starts at, as the search computes it. -/
theorem StartsIn.absolute_eq {start : Option Path} (h : t.StartsIn start place) :
    Path.absolute ⟨.top, t.current⟩ (start.getD ⟨.top, t.current⟩) = ⟨.top, place⟩ := by
  have hcurrent := h.current.destinationFrom_eq
  obtain rfl := h.place_eq
  refine congrArg (Path.mk .top) ?_
  cases start with
  | none => exact hcurrent
  | some p =>
    change destinationFrom [] ((Path.mk .top t.current).join p).steps = t.destination p
    rw [Path.join, destination, startOf]
    split
    · rfl
    · rw [destinationFrom, List.foldl_append]
      exact congrArg (destinationFrom · p.steps) hcurrent

end FileTree

/-! ## The search -/

namespace Observed

open FileTree

variable {t : FileTree} {s : Observation} {place : List String} {start : Option Path}

theorem run_find?_of_startsIn (h : s.tree.StartsIn start place) :
    (Config.find? start : ExceptT FileError Observed _).run.run s =
      (Config.firstFile (Config.candidates ⟨.top, place⟩) :
        ExceptT FileError Observed _).run.run s := by
  have hcurrent : (Files.currentDirectory : ExceptT FileError Observed Path).run.run s =
      (.ok ⟨.top, s.tree.current⟩, s) := rfl
  have hnull : (start.getD ⟨.top, s.tree.current⟩).hasNullCharacter = false := by
    cases start with
    | none => exact h.current.hasNullCharacter_eq
    | some p => exact h.noNull p rfl
  rw [Config.find?, run_bind, hcurrent]
  simp only [hnull, Bool.false_eq_true, if_false, h.absolute_eq]

theorem exists_run_find? (h : s.tree.StartsIn start place) : ∃ result looks,
    (Config.find? start : ExceptT FileError Observed _).run.run s =
        (result, ⟨s.tree, s.accesses ++ looks⟩) ∧
      SearchEnds s.tree (Config.candidates ⟨.top, place⟩) result looks := by
  have hcandidates : ∀ p ∈ Config.candidates ⟨.top, place⟩, ∃ dir name,
      s.tree.HoldsDirectory dir ∧ name ∈ Config.fileNames ∧ p = ⟨.top, dir ++ [name]⟩ := by
    intro p hp
    rw [candidates_eq, List.mem_flatMap] at hp
    obtain ⟨dir, hdir, hp⟩ := hp
    obtain ⟨name, hname, rfl⟩ := List.mem_map.1 hp
    rw [List.mem_reverse, List.mem_inits] at hdir
    exact ⟨dir, name, h.directory.around hdir, hname, rfl⟩
  rw [run_find?_of_startsIn h]
  refine exists_run_firstFile (fun p hp hshort => ?_) fun p hp hlong => ?_
  · obtain ⟨dir, name, hdir, hname, rfl⟩ := hcandidates p hp
    exact hdir.kindAt?_eq hname hshort
  · obtain ⟨dir, name, hdir, hname, rfl⟩ := hcandidates p hp
    have hnull : (Path.mk .top dir).hasNullCharacter = false := hdir.hasNullCharacter_eq
    refine kindAt?_of_long ?_ hlong
    rw [Path.hasNullCharacter] at hnull ⊢
    rw [List.any_append, hnull]
    simpa using (Config.isFileName_of_mem_fileNames hname).1.noNull

/-- The search ends after a number of looks at files that the depth of the directory bounds, and
changes nothing.  It gives the nearest configuration file, or nothing where there is none, as long
as the names in the directory can be looked at up to the first file among them.  Otherwise it ends
with the failure that the system reports of a path that is too long. -/
theorem search_isFoundFrom (h : t.StartsIn start place) : ∃ result looks,
    observe (Config.find? start : ExceptT FileError Observed _).run t = (result, ⟨t, looks⟩) ∧
      looks.length ≤ Config.fileNames.length * (place.length + 1) ∧
        (∀ access ∈ looks, access.use = .look) ∧
          (t.CanLookAt (configPaths place) → ∃ found, result = .ok found ∧
            t.IsFoundFrom place found) ∧
          (¬ t.CanLookAt (configPaths place) → ∃ path, result = .error ⟨.nameTooLong, path⟩) := by
  obtain ⟨result, looks, hrun, hends⟩ := exists_run_find? (s := { tree := t }) h
  refine ⟨result, looks, hrun, ?_, hends.use_eq, fun hlook => ?_, fun hlook => ?_⟩
  · have hlength := hends.length_le
    rwa [Config.length_candidates] at hlength
  · refine ⟨t.nearestConfig? place, ?_, isFoundFrom_nearestConfig?⟩
    rw [hends.found ((canLookAt_candidates_iff h.directory).2 hlook), nearestConfig?_eq]
  · exact hends.failed fun hall => hlook ((canLookAt_candidates_iff h.directory).1 hall)

/-- A tree with directories under names of configuration files. -/
def namesakeTree : FileTree where
  entries :=
    [(["work"], .directory), (["work", "cri.yml"], .directory),
      (["work", "cri.yaml"], .file "output: out\n".toUTF8),
      (["work", ".cri.yml"], .file "output: other\n".toUTF8), (["work", "deep"], .directory),
      (["work", "deep", ".cri.yaml"], .directory)]

theorem search_isFoundFrom_namesake :
    namesakeTree.StartsIn (some ⟨.current, ["work", "deep"]⟩) ["work", "deep"] ∧
      namesakeTree.CanLookAt (configPaths ["work", "deep"]) ∧
        ∃ looks, looks.length ≤ 12 ∧
          observe (Config.find? (some ⟨.current, ["work", "deep"]⟩) :
            ExceptT FileError Observed _).run namesakeTree =
              (.ok (some ⟨.top, ["work", "cri.yaml"]⟩), ⟨namesakeTree, looks⟩) := by
  have hdirectory : namesakeTree.HoldsDirectory ["work", "deep"] := by
    refine ⟨fun dir hdir => ?_, ?_⟩
    · have hmem : dir ∈ [[], ["work"], ["work", "deep"]] := (List.mem_inits _ _).2 hdir
      simp only [List.mem_cons, List.not_mem_nil, or_false] at hmem
      rcases hmem with rfl | rfl | rfl <;> rfl
    · simp only [List.forall_mem_cons, List.not_mem_nil, false_implies, implies_true, and_true]
      refine ⟨⟨⟨?_, ?_, ?_, ?_, ?_⟩, ?_⟩, ⟨⟨?_, ?_, ?_, ?_, ?_⟩, ?_⟩⟩ <;> decide
  have hstart : namesakeTree.StartsIn (some ⟨.current, ["work", "deep"]⟩) ["work", "deep"] := by
    refine ⟨hdirectory.around List.nil_prefix, hdirectory, rfl, fun p hp => ?_⟩
    cases hp
    decide
  have hlook : namesakeTree.CanLookAt (configPaths ["work", "deep"]) :=
    canLookAt_of_forall (by decide)
  obtain ⟨result, looks, hrun, hlength, -, hok, -⟩ := search_isFoundFrom hstart
  obtain ⟨found, rfl, hfound⟩ := hok hlook
  have hnearest : namesakeTree.IsNearest ["work", "deep"] ["work"] "cri.yaml" :=
    isNearest_iff.2 (by decide)
  obtain rfl := (hfound.some_iff _).2 ⟨_, _, hnearest, rfl⟩
  exact ⟨hstart, hlook, looks, hlength, hrun⟩

open CommandLine in
/-- From a directory with a path that is too long for another name nothing is found, although there
is a configuration file at the root. -/
theorem not_search_isFoundFrom_deep :
    (shaft deepPlace).StartsIn (some ⟨.top, deepPlace⟩) deepPlace ∧
      (shaft deepPlace).IsNearest deepPlace [] "cri.yml" ∧
        ∀ found, (observe (Config.find? (some ⟨.top, deepPlace⟩) :
          ExceptT FileError Observed _).run (shaft deepPlace)).1 ≠ .ok found := by
  have hsizes : ∀ step ∈ deepPlace, step.utf8ByteSize ≤ maxNameSize := by decide +kernel
  have hdirectory : (shaft deepPlace).HoldsDirectory deepPlace :=
    ⟨fun _ hdir => get?_shaft hdir, fun step hstep =>
      ⟨isFileName_of_mem_deepPlace hstep, hsizes step hstep⟩⟩
  have hstart : (shaft deepPlace).StartsIn (some ⟨.top, deepPlace⟩) deepPlace :=
    hdirectory.startsIn (hdirectory.around List.nil_prefix)
  have hname : (shaft deepPlace).configName? [] = some "cri.yml" := by decide +kernel
  have hlong : ¬ (shaft deepPlace).CanLookAt (Config.candidates ⟨.top, deepPlace⟩) := by
    rw [canLookAt_candidates_iff hdirectory]
    exact fun h => absurd h.1 (by decide +kernel)
  refine ⟨hstart, isNearest_iff.2 ⟨nearest?_shaft (by rw [hname]; rfl), hname⟩, fun found hok => ?_⟩
  obtain ⟨result, looks, hrun, hends⟩ := exists_run_find? (s := { tree := shaft deepPlace }) hstart
  obtain ⟨path, rfl⟩ := hends.failed hlong
  have hresult : (Except.error ⟨.nameTooLong, path⟩ : Except FileError (Option Path)) = .ok found :=
    (congrArg Prod.fst hrun).symm.trans hok
  cases hresult

end Observed

end ProtocolBindings
