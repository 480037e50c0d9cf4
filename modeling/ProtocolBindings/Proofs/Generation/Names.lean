import ProtocolBindings.Generation.Write
import ProtocolBindings.Proofs.Entries
import ProtocolBindings.Proofs.Files.Place
import ProtocolBindings.Proofs.Source.Accepted

/-!
# Names of generated files

Every file of a generation has a name of its own under which a directory can hold it, and none is
called like the manifest.  The manifest records exactly these names, so the recorded files that
are left over can be told from the names alone.
-/

namespace ProtocolBindings

open Results

namespace Package

def ending : String := ".py"

/-- The texts that become names of files under the common ending. -/
def IsStem (stem : String) : Prop :=
  '/' ∉ stem.toList ∧ '\x00' ∉ stem.toList

variable {stem package name text : String} {schema : Schema} {files : List (String × String)}

theorem getLast?_ending (stem : String) : (stem ++ ending).toList.getLast? = some 'y' := by
  simp [ending]

theorem isFileName_of_isStem (h : IsStem stem) : Path.IsFileName (stem ++ ending) := by
  have hlast := getLast?_ending stem
  refine ⟨?_, ?_, ?_, ?_, ?_⟩
  · intro heq
    simp [heq] at hlast
  · intro heq
    simp [heq] at hlast
  · intro heq
    simp [heq, Path.parentStep] at hlast
  · simp [ending, h.1]
  · simp [ending, h.2]

theorem ne_manifest (stem : String) : stem ++ ending ≠ Manifest.fileName := by
  intro heq
  have hlast := getLast?_ending stem
  rw [heq] at hlast
  exact absurd hlast (by decide)

/-- Every file of a package is called after a domain, or is the list of the domains. -/
theorem exists_isStem (h : Package.files package schema = .ok files)
    (hname : (name, text) ∈ files) : ∃ stem, IsStem stem ∧ name = stem ++ ending := by
  obtain ⟨modules, hmodules, rfl⟩ := map_eq_ok_iff.1 h
  rcases Entries.mem_set hname with hindex | hentry
  · obtain ⟨rfl, rfl⟩ := Prod.mk.inj hindex
    exact ⟨"__init__", by unfold IsStem; decide, by decide⟩
  · obtain ⟨m, hm, hpair⟩ := List.mem_map.1 (Entries.mem_of_mem_ofList hentry)
    obtain ⟨rfl, rfl⟩ := Prod.mk.inj hpair
    obtain ⟨haccepts, rfl⟩ := modules_eq_ok_iff.1 hmodules
    obtain ⟨d, hd, rfl⟩ := List.mem_map.1 hm
    have hdomain := (haccepts d hd).domainName
    refine ⟨d.name, ⟨?_, ?_⟩, rfl⟩
    · exact Text.notMem_of_isIdentifier hdomain (by decide)
    · exact Text.notMem_of_isIdentifier hdomain (by decide)

theorem nodup_names (h : Package.files package schema = .ok files) :
    (files.map (·.1)).Nodup := by
  obtain ⟨modules, -, rfl⟩ := map_eq_ok_iff.1 h
  exact Entries.nodup_keys_set (Entries.nodup_keys_ofList _)

end Package

namespace Manifest

/-- The manifest of files records their names. -/
theorem mem_paths_ofFiles {package name : String} {schema : Schema}
    {files : List (String × String)} :
    name ∈ (ofFiles package schema files).paths ↔ name ∈ files.map (·.1) := by
  rw [paths, Ascending.mem_ofList, ofFiles, outputsOf, List.map_map]
  exact ((List.mergeSort_perm files _).map (·.1)).mem_iff

end Manifest

namespace Generation

variable {g last : Generation} {name text package : String} {schema : Schema} {output : Path}
  {options : Options}

def names (g : Generation) : List String :=
  g.files.map (·.1)

theorem ofSchema_eq_ok_iff : ofSchema package schema output options = .ok g ↔
    ∃ files, Package.files package schema = .ok files ∧
      g = { output, files, manifest := .ofFiles package schema files, options } := by
  rw [ofSchema, bind_eq_ok_iff]
  refine exists_congr fun files => and_congr_right fun _ => ?_
  rw [pure_eq_ok_iff, eq_comm]

theorem output_of_ofSchema (h : ofSchema package schema output options = .ok g) :
    g.output = output ∧ g.options = options := by
  obtain ⟨files, -, rfl⟩ := ofSchema_eq_ok_iff.1 h
  exact ⟨rfl, rfl⟩

/-- What the names of a generation from a schema promise. -/
structure HasNames (g : Generation) : Prop where
  nodup : g.names.Nodup
  isFileName : ∀ name ∈ g.names, Path.IsFileName name
  ne_manifest : Manifest.fileName ∉ g.names
  mem_paths : ∀ name, name ∈ g.manifest.paths ↔ name ∈ g.names
  mem_outputs : ∀ name, name ∈ g.manifest.outputs.map (·.path) ↔ name ∈ g.names

theorem hasNames_of_ofSchema (h : ofSchema package schema output options = .ok g) :
    g.HasNames := by
  obtain ⟨files, hfiles, rfl⟩ := ofSchema_eq_ok_iff.1 h
  refine ⟨Package.nodup_names hfiles, ?_, ?_, fun name => Manifest.mem_paths_ofFiles, ?_⟩
  · intro name hname
    obtain ⟨⟨name, text⟩, hfile, rfl⟩ := List.mem_map.1 hname
    obtain ⟨stem, hstem, rfl⟩ := Package.exists_isStem hfiles hfile
    exact Package.isFileName_of_isStem hstem
  · intro hname
    obtain ⟨⟨name, text⟩, hfile, hmanifest⟩ := List.mem_map.1 hname
    obtain ⟨stem, -, rfl⟩ := Package.exists_isStem hfiles hfile
    exact Package.ne_manifest stem hmanifest
  · intro name
    rw [← Ascending.mem_ofList]
    exact Manifest.mem_paths_ofFiles

/-- The files left over from a generation are those of its names that the new one lacks. -/
theorem mem_orphans_iff (hlast : last.HasNames) (h : g.HasNames) :
    name ∈ g.orphans (some last.manifest) ↔ name ∈ last.names ∧ name ∉ g.names := by
  rw [orphans, Manifest.orphaned, List.mem_filter, hlast.mem_paths]
  refine and_congr_right fun _ => ?_
  rw [← h.mem_outputs]
  simp

theorem nodup_orphans (g : Generation) (previous : Option Manifest) :
    (g.orphans previous).Nodup := by
  cases previous with
  | none => exact List.nodup_nil
  | some m =>
    refine List.Pairwise.filter _ ?_
    exact (Ascending.pairwise_ofList _).imp fun hlt => String.ne_of_lt hlt

end Generation

theorem Manifest.isFileName_fileName : Path.IsFileName fileName := by
  refine ⟨?_, ?_, ?_, ?_, ?_⟩ <;> decide

end ProtocolBindings
