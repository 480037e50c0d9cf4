import Mathlib.Algebra.Ring.Nat
import Mathlib.Data.List.Infix
import ProtocolBindings.Config.File
import ProtocolBindings.Proofs.Files.Start

/-!
# The nearest configuration file

The search for a configuration file goes through a directory and those around it, from the inside
out, and looks at every name that such a file can have.  It finds the file in the nearest directory
that holds one, as long as all these names can be looked at: a path has a greatest length.
-/

namespace ProtocolBindings

/-! ## The length of a path -/

theorem Path.utf8ByteSize_intercalate_slash {steps : List String} (h : steps ≠ []) :
    ("/".intercalate steps).utf8ByteSize + 1 = (steps.map (·.utf8ByteSize + 1)).sum := by
  have hslash : "/".utf8ByteSize = 1 := rfl
  induction steps with
  | nil => exact absurd rfl h
  | cons step rest ih =>
    cases rest with
    | nil => simp
    | cons next rest =>
      rw [String.intercalate_cons_cons, List.map_cons, List.sum_cons, ← ih (by simp)]
      simp only [String.utf8ByteSize_append, hslash]
      omega

/-- Every step of an absolute path takes its own bytes and a slash. -/
theorem Path.utf8ByteSize_text_top {steps : List String} (h : steps ≠ []) :
    (Path.mk .top steps).text.utf8ByteSize = (steps.map (·.utf8ByteSize + 1)).sum := by
  have htext : (Path.mk .top steps).text = "/" ++ "/".intercalate steps := by
    simp [Path.text, Path.Root.text]
  rw [htext, String.utf8ByteSize_append, ← utf8ByteSize_intercalate_slash h, Nat.add_comm]
  rfl

namespace FileTree

/-! ## The nearest directory -/

def isFileAt (t : FileTree) (place : List String) : Bool :=
  match t.get? place with
  | some (.file _) => true
  | _ => false

/-- The name of the configuration file in a directory: the first one under which there is a
file. -/
def configName? (t : FileTree) (place : List String) : Option String :=
  Config.fileNames.find? fun name => t.isFileAt (place ++ [name])

/-- The nearest directory around a place, itself included, that holds a configuration file. -/
def nearest? (t : FileTree) (place : List String) : Option (List String) :=
  place.inits.reverse.find? fun dir => (t.configName? dir).isSome

/-- The configuration file in the nearest directory that holds one. -/
def nearestConfig? (t : FileTree) (place : List String) : Option Path :=
  (t.nearest? place).bind fun dir => (t.configName? dir).map fun name => ⟨.top, dir ++ [name]⟩

/-! ## Directories to start in -/

/-- A directory that a command can be started in: its path leads to it, and it is short enough for
looking at every configuration file in the directory. -/
structure CanStart (t : FileTree) (place : List String) : Prop where
  hasDirectory : t.HasDirectory ⟨.top, place⟩ place
  size_le : ∀ name ∈ Config.fileNames,
    (Path.mk .top (place ++ [name])).text.utf8ByteSize ≤ maxPathSize

variable {t : FileTree} {place dir : List String} {name step : String}

theorem cancelParents_eq (h : t.placeOf ⟨.top, place⟩ = .ok place) :
    Path.cancelParents place = place :=
  (placeOf_eq_destination h).symm

/-- The absolute path of a place has no steps to the parent. -/
theorem parentStep_notMem (h : t.placeOf ⟨.top, place⟩ = .ok place) :
    Path.parentStep ∉ place := by
  have hsteps := Path.parentStep_notMem_absolute ⟨.top, []⟩ ⟨.top, place⟩
  change Path.parentStep ∉ Path.cancelParents place at hsteps
  rwa [cancelParents_eq h] at hsteps

theorem HasDirectory.parent (h : t.HasDirectory ⟨.top, dir ++ [step]⟩ (dir ++ [step])) :
    t.HasDirectory ⟨.top, dir⟩ dir := by
  obtain ⟨hnull, hsize, -⟩ := placeOf_eq_ok_iff.1 h.placeOf_eq
  have hstep : (step == Path.parentStep) = false := by
    refine beq_eq_false_iff_ne.2 fun heq => parentStep_notMem h.placeOf_eq ?_
    rw [heq]
    exact List.mem_append_right _ List.mem_cons_self
  have hparent : (Path.mk .top (dir ++ [step])).parent = ⟨.top, dir⟩ := by
    rw [Path.parent, List.dropLast_concat]
  have hlast : dir ++ [step] = (Path.mk .top (dir ++ [step])).parent.steps ++ [step] := by
    rw [hparent]
  have hplace := h.placeOf_eq
  rw [placeOf_eq_bind hlast hnull hsize, hparent] at hplace
  obtain ⟨dir', hdir', hfollow⟩ := Results.bind_eq_ok_iff.1 hplace
  simp only [follow, hstep] at hfollow
  split at hfollow
  · cases hfollow
  · cases hfollow
  · rename_i hdirectory
    rw [if_neg Bool.false_ne_true] at hfollow
    split at hfollow
    · cases hfollow
    · obtain rfl := (List.append_inj' (Except.ok.inj hfollow) rfl).1
      exact ⟨hdir', hdirectory⟩

/-- A path through fewer directories is shorter. -/
theorem utf8ByteSize_text_append_le :
    (Path.mk .top (dir ++ [name])).text.utf8ByteSize ≤
      (Path.mk .top (dir ++ [step] ++ [name])).text.utf8ByteSize := by
  rw [Path.utf8ByteSize_text_top (by simp), Path.utf8ByteSize_text_top (by simp)]
  simp only [List.map_append, List.map_cons, List.map_nil, List.sum_append, List.sum_cons,
    List.sum_nil]
  omega

theorem CanStart.parent (h : t.CanStart (dir ++ [step])) : t.CanStart dir :=
  ⟨h.hasDirectory.parent,
    fun name hname => utf8ByteSize_text_append_le.trans (h.size_le name hname)⟩

theorem CanStart.outward (h : t.CanStart place) (hdir : dir <+: place) : t.CanStart dir := by
  obtain ⟨more, rfl⟩ := hdir
  induction more using List.reverseRecOn with
  | nil => rwa [List.append_nil] at h
  | append_singleton more step ih =>
    rw [← List.append_assoc] at h
    exact ih h.parent

theorem HasDirectory.startedIn (h : t.HasDirectory ⟨.top, place⟩ place) :
    (t.startedIn dir).HasDirectory ⟨.top, place⟩ place :=
  ⟨(placeOf_startedIn rfl).trans h.placeOf_eq, h.get?_eq⟩

theorem CanStart.startedIn (h : t.CanStart place) : (t.startedIn dir).CanStart place :=
  ⟨h.hasDirectory.startedIn, h.size_le⟩

/-! ## Looking at the names in a directory -/

theorem Config.isFileName_of_mem_fileNames (h : name ∈ Config.fileNames) :
    Path.IsFileName name ∧ name.utf8ByteSize ≤ maxNameSize := by
  simp only [Config.fileNames, List.mem_cons, List.not_mem_nil, or_false] at h
  rcases h with rfl | rfl | rfl | rfl <;>
    exact ⟨by refine ⟨?_, ?_, ?_, ?_, ?_⟩ <;> decide, by decide⟩

/-- A name in a directory can be looked at where its path is short enough. -/
theorem HasDirectory.kindAt?_eq (h : t.HasDirectory ⟨.top, dir⟩ dir)
    (hname : name ∈ Config.fileNames)
    (hsize : (Path.mk .top (dir ++ [name])).text.utf8ByteSize ≤ maxPathSize) :
    (t.kindAt? ⟨.top, dir ++ [name]⟩).map (· == some .file) = .ok (t.isFileAt (dir ++ [name])) := by
  obtain ⟨hfile, hnameSize⟩ := Config.isFileName_of_mem_fileNames hname
  have hplace : t.placeOf ⟨.top, dir ++ [name]⟩ = .ok (dir ++ [name]) := by
    have hjoin : (Path.mk .top dir).joinText name = ⟨.top, dir ++ [name]⟩ :=
      joinText_of_isFileName hfile
    have heq := placeOf_joinText_eq hfile h.placeOf_eq h.get?_eq
    rwa [hjoin, if_neg] at heq
    rw [not_or, Nat.not_lt, Nat.not_lt]
    exact ⟨hsize, hnameSize⟩
  rw [isFileAt]
  rcases hentry : t.get? (dir ++ [name]) with _ | content | _
  · rw [kindAt?_of_get?_eq_none hplace hentry]
    rfl
  · have hkind : t.kindOf ⟨.top, dir ++ [name]⟩ = .ok .file :=
      kindOf_eq_ok_iff.2 ⟨_, hplace, content, hentry⟩
    rw [kindAt?_eq_some_iff.2 hkind]
    rfl
  · have hkind : t.kindOf ⟨.top, dir ++ [name]⟩ = .ok .directory :=
      kindOf_eq_ok_iff.2 ⟨_, hplace, hentry⟩
    rw [kindAt?_eq_some_iff.2 hkind]
    rfl

/-- Each name in a directory that a command can be started in can be looked at. -/
theorem CanStart.kindAt?_eq (h : t.CanStart dir) (hname : name ∈ Config.fileNames) :
    (t.kindAt? ⟨.top, dir ++ [name]⟩).map (· == some .file) = .ok (t.isFileAt (dir ++ [name])) :=
  h.hasDirectory.kindAt?_eq hname (h.size_le name hname)

/-- The paths can be looked at up to the first file among them: each of them is short enough. -/
def CanLookAt (t : FileTree) : List Path → Prop
  | [] => True
  | p :: rest =>
    p.text.utf8ByteSize ≤ maxPathSize ∧ (t.isFileAt p.steps = false → CanLookAt t rest)

theorem canLookAt_of_forall {paths : List Path}
    (h : ∀ p ∈ paths, p.text.utf8ByteSize ≤ maxPathSize) : t.CanLookAt paths := by
  induction paths with
  | nil => trivial
  | cons p rest ih =>
    rw [List.forall_mem_cons] at h
    exact ⟨h.1, fun _ => ih h.2⟩

/-! ## The places of the search -/

theorem findSome?_eq_bind {α β : Type} (f : α → Option β) (l : List α) :
    l.findSome? f = (l.find? fun a => (f a).isSome).bind f := by
  induction l with
  | nil => rfl
  | cons a rest ih =>
    rw [List.findSome?_cons, List.find?_cons]
    cases h : f a with
    | none => exact ih
    | some b => exact h.symm

theorem ancestors_eq : Config.ancestors ⟨.top, place⟩ = place.inits.reverse.map (⟨.top, ·⟩) := by
  apply List.ext_getElem
  · simp [Config.ancestors]
  · intro n hn _
    simp only [Config.ancestors, List.length_map, List.length_range] at hn
    simp [Config.ancestors]

/-- The places of the search are the names of configuration files in the directories around a
place. -/
theorem candidates_eq : Config.candidates ⟨.top, place⟩ =
    place.inits.reverse.flatMap fun dir =>
      Config.fileNames.map fun name => ⟨.top, dir ++ [name]⟩ := by
  rw [Config.candidates, ancestors_eq, List.flatMap_map]
  refine List.flatMap_congr fun dir _ => List.map_congr_left fun name hname => ?_
  exact joinText_of_isFileName (Config.isFileName_of_mem_fileNames hname).1

/-- The search begins with the first name in the directory itself. -/
theorem exists_candidates_eq : ∃ rest,
    Config.candidates ⟨.top, place⟩ = ⟨.top, place ++ ["cri.yml"]⟩ :: rest := by
  have hfirst : (Path.mk .top place).joinText "cri.yml" = ⟨.top, place ++ ["cri.yml"]⟩ :=
    joinText_of_isFileName (Config.isFileName_of_mem_fileNames List.mem_cons_self).1
  rw [Config.candidates, Config.ancestors, List.range_succ_eq_map, List.map_cons, List.flatMap_cons,
    Nat.sub_zero, List.take_length, Config.fileNames, List.map_cons, hfirst, List.cons_append]
  exact ⟨_, rfl⟩

theorem nearestConfig?_eq : t.nearestConfig? place =
    (Config.candidates ⟨.top, place⟩).find? fun p => t.isFileAt p.steps := by
  rw [candidates_eq, List.find?_flatMap, nearestConfig?, nearest?]
  simp only [List.find?_map]
  rw [findSome?_eq_bind]
  simp only [configName?, Option.isSome_map, Function.comp_def]

end FileTree

/-! ## The search -/

namespace Observed

open FileTree

variable {s : Observation} {p : Path}

theorem run_kindOf? : (Files.kindOf? p : ExceptT FileError Observed _).run.run s =
    (s.tree.kindAt? p, ⟨s.tree, s.accesses ++ [⟨.look, p⟩]⟩) := by
  have hlift : (ExceptT.lift (FileSystem.kindOf p) :
      ExceptT FileError Observed _).run.run s =
        (.ok (s.tree.kindOf p), ⟨s.tree, s.accesses ++ [⟨.look, p⟩]⟩) := rfl
  rw [Files.kindOf?, run_bind, hlift, kindAt?]
  rcases s.tree.kindOf p with ⟨problem, path⟩ | kind
  · cases problem <;> rfl
  · rfl

theorem run_isFile : (Files.isFile p : ExceptT FileError Observed Bool).run.run s =
    ((s.tree.kindAt? p).map (· == some .file), ⟨s.tree, s.accesses ++ [⟨.look, p⟩]⟩) := by
  rw [Files.isFile, run_bind, run_kindOf?]
  cases s.tree.kindAt? p <;> rfl

/-- How a search through some paths ends: it looks at each path at most once, and it gives the first
file among them where it can look at all the paths up to this file. -/
structure SearchEnds (t : FileTree) (paths : List Path) (result : Except FileError (Option Path))
    (looks : List FileAccess) : Prop where
  length_le : looks.length ≤ paths.length
  use_eq : ∀ access ∈ looks, access.use = .look
  found : t.CanLookAt paths → result = .ok (paths.find? fun p => t.isFileAt p.steps)
  failed : ¬ t.CanLookAt paths → ∃ path, result = .error ⟨.nameTooLong, path⟩

/-- Paths are looked at one after the other, up to the first file or to one that is too long. -/
theorem exists_run_firstFile {paths : List Path}
    (hshort : ∀ p ∈ paths, p.text.utf8ByteSize ≤ maxPathSize →
      (s.tree.kindAt? p).map (· == some .file) = .ok (s.tree.isFileAt p.steps))
    (hlong : ∀ p ∈ paths, maxPathSize < p.text.utf8ByteSize →
      s.tree.kindAt? p = .error ⟨.nameTooLong, p.text⟩) :
    ∃ result looks, (Config.firstFile paths : ExceptT FileError Observed _).run.run s =
        (result, ⟨s.tree, s.accesses ++ looks⟩) ∧ SearchEnds s.tree paths result looks := by
  induction paths generalizing s with
  | nil =>
    refine ⟨.ok none, [], by rw [List.append_nil]; rfl, Nat.le_refl _, by simp, fun _ => rfl, ?_⟩
    exact fun h => absurd trivial h
  | cons p rest ih =>
    rw [List.forall_mem_cons] at hshort hlong
    rw [Config.firstFile, run_bind, run_isFile]
    by_cases hsize : p.text.utf8ByteSize ≤ maxPathSize
    · rw [hshort.1 hsize]
      cases hfile : s.tree.isFileAt p.steps with
      | true =>
        refine ⟨.ok (some p), [⟨.look, p⟩], rfl, by simp, by simp, fun _ => ?_, fun h => ?_⟩
        · rw [List.find?_cons, hfile]
        · exact absurd ⟨hsize, fun hnone => by rw [hfile] at hnone; cases hnone⟩ h
      | false =>
        obtain ⟨result, looks, hrun, hends⟩ :=
          ih (s := ⟨s.tree, s.accesses ++ [⟨.look, p⟩]⟩) hshort.2 hlong.2
        refine ⟨result, ⟨.look, p⟩ :: looks, ?_, ?_, ?_, fun h => ?_, fun h => hends.failed ?_⟩
        · exact hrun.trans (by rw [List.append_assoc]; rfl)
        · exact Nat.succ_le_succ hends.length_le
        · simpa using hends.use_eq
        · rw [hends.found (h.2 hfile), List.find?_cons, hfile]
        · exact fun hrest => h ⟨hsize, fun _ => hrest⟩
    · rw [hlong.1 (Nat.not_le.1 hsize)]
      refine ⟨_, [⟨.look, p⟩], rfl, by simp, by simp, fun h => absurd h.1 hsize, fun _ => ?_⟩
      exact ⟨_, rfl⟩

/-- The search goes through its places as seen from the current directory. -/
theorem run_find?_eq (h : s.tree.placeOf ⟨.top, s.tree.current⟩ = .ok s.tree.current) :
    (Config.find? none : ExceptT FileError Observed _).run.run s =
      (Config.firstFile (Config.candidates ⟨.top, s.tree.current⟩) :
        ExceptT FileError Observed _).run.run s := by
  have habsolute : Path.absolute ⟨.top, s.tree.current⟩ ⟨.top, s.tree.current⟩ =
      ⟨.top, s.tree.current⟩ :=
    congrArg (Path.mk .top) (cancelParents_eq h)
  have hnull : (Path.mk .top s.tree.current).hasNullCharacter = false :=
    (placeOf_eq_ok_iff.1 h).1
  have hcurrent : (Files.currentDirectory : ExceptT FileError Observed Path).run.run s =
      (.ok ⟨.top, s.tree.current⟩, s) := rfl
  rw [Config.find?, run_bind, hcurrent]
  simp only [Option.getD_none, hnull, Bool.false_eq_true, if_false, habsolute]

/-- The search finds the configuration file in the nearest directory that holds one. -/
theorem run_find? (h : s.tree.CanStart s.tree.current) : ∃ looks,
    (Config.find? none : ExceptT FileError Observed _).run.run s =
        (.ok (s.tree.nearestConfig? s.tree.current), ⟨s.tree, s.accesses ++ looks⟩) ∧
      ∀ access ∈ looks, access.use = .look := by
  have hcandidates : ∀ p ∈ Config.candidates ⟨.top, s.tree.current⟩,
      p.text.utf8ByteSize ≤ maxPathSize ∧
        (s.tree.kindAt? p).map (· == some .file) = .ok (s.tree.isFileAt p.steps) := by
    intro p hp
    rw [candidates_eq, List.mem_flatMap] at hp
    obtain ⟨dir, hdir, hp⟩ := hp
    obtain ⟨name, hname, rfl⟩ := List.mem_map.1 hp
    rw [List.mem_reverse, List.mem_inits] at hdir
    exact ⟨(h.outward hdir).size_le name hname, (h.outward hdir).kindAt?_eq hname⟩
  obtain ⟨result, looks, hrun, hends⟩ := exists_run_firstFile (s := s)
    (fun p hp _ => (hcandidates p hp).2)
    fun p hp hlong => absurd (hcandidates p hp).1 (Nat.not_le.2 hlong)
  obtain rfl := hends.found (canLookAt_of_forall fun p hp => (hcandidates p hp).1)
  rw [run_find?_eq h.hasDirectory.placeOf_eq, nearestConfig?_eq]
  exact ⟨looks, hrun, hends.use_eq⟩

/-- The search ends with its first look where the first name makes a path that is too long. -/
theorem run_find?_of_long (h : s.tree.HasDirectory ⟨.top, s.tree.current⟩ s.tree.current)
    (hlong : maxPathSize < (Path.mk .top (s.tree.current ++ ["cri.yml"])).text.utf8ByteSize) :
    ((Config.find? none : ExceptT FileError Observed _).run.run s).1 =
      .error ⟨.nameTooLong, (Path.mk .top (s.tree.current ++ ["cri.yml"])).text⟩ := by
  obtain ⟨rest, hcandidates⟩ : ∃ rest, Config.candidates ⟨.top, s.tree.current⟩ = _ :: rest :=
    exists_candidates_eq
  have hname : Path.IsFileName "cri.yml" :=
    (Config.isFileName_of_mem_fileNames List.mem_cons_self).1
  have hjoin : (Path.mk .top s.tree.current).joinText "cri.yml" =
      ⟨.top, s.tree.current ++ ["cri.yml"]⟩ := joinText_of_isFileName hname
  have hplace := placeOf_joinText_eq hname h.placeOf_eq h.get?_eq
  rw [hjoin, if_pos (Or.inl hlong)] at hplace
  have hkind : s.tree.kindAt? ⟨.top, s.tree.current ++ ["cri.yml"]⟩ =
      .error ⟨.nameTooLong, (Path.mk .top (s.tree.current ++ ["cri.yml"])).text⟩ := by
    rw [kindAt?, kindOf, hplace]
    rfl
  rw [run_find?_eq h.placeOf_eq, hcandidates, Config.firstFile, run_bind, run_isFile, hkind]
  rfl

end Observed

end ProtocolBindings
