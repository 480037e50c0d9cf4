import ProtocolBindings.Proofs.Source.Package

/-!
# Comparing a manifest with new files

A manifest of any origin is compared with the files of a package.  It may record a path more than
once; the last record of a path counts.  Every path that the manifest records or that a file has is
left over, modified, unchanged or added, and only one of these.
-/

namespace ProtocolBindings

/-- Texts with distinct keys come in ascending order of their keys when they are sorted by them. -/
theorem Ascending.pairwise_mergeSort {α : Type} {key : α → String} {items : List α}
    (h : (items.map key).Nodup) :
    ((items.mergeSort fun a b => key a ≤ key b).map key).Pairwise (· < ·) := by
  have hsorted : (items.mergeSort fun a b => key a ≤ key b).Pairwise fun a b => key a ≤ key b := by
    have htrans (a b c : α) : decide (key a ≤ key b) = true → decide (key b ≤ key c) = true →
        decide (key a ≤ key c) = true := by
      simpa only [decide_eq_true_eq] using String.le_trans
    have htotal (a b : α) : (decide (key a ≤ key b) || decide (key b ≤ key a)) = true := by
      simpa only [Bool.or_eq_true, decide_eq_true_eq] using String.le_total _ _
    simpa only [decide_eq_true_eq] using List.pairwise_mergeSort htrans htotal items
  have hdistinct : ((items.mergeSort fun a b => key a ≤ key b).map key).Nodup :=
    ((List.mergeSort_perm items _).map key).nodup_iff.2 h
  refine ((List.pairwise_map.2 hsorted).and hdistinct).imp ?_
  rintro a b ⟨hle, hne⟩
  exact Std.lt_of_le_of_ne hle hne

namespace Manifest

variable {m : Manifest} {package path hash : String} {schema : Schema}
  {files : List (String × String)}

/-! ## Recorded digests -/

/-- The last record of a path has the given digest. -/
def Records (m : Manifest) (path hash : String) : Prop :=
  ∃ before record after, m.outputs = before ++ record :: after ∧ record.path = path ∧
    record.hash = hash ∧ ∀ later ∈ after, later.path ≠ path

theorem hash?_eq_some_iff : m.hash? path = some hash ↔ m.Records path hash := by
  rw [hash?, Option.map_eq_some_iff]
  constructor
  · rintro ⟨record, hfind, rfl⟩
    obtain ⟨hpath, behind, front, hsplit, hnone⟩ := List.find?_eq_some_iff_append.1 hfind
    refine ⟨front.reverse, record, behind.reverse, ?_, by simpa using hpath, rfl, ?_⟩
    · rw [← List.reverse_reverse m.outputs, hsplit]
      simp
    · intro later hlater
      simpa using hnone later (List.mem_reverse.1 hlater)
  · rintro ⟨front, record, behind, hsplit, rfl, rfl, hnone⟩
    refine ⟨record, List.find?_eq_some_iff_append.2 ⟨beq_self_eq_true _, behind.reverse,
      front.reverse, by simp [hsplit], ?_⟩, rfl⟩
    intro later hlater
    simpa using hnone later (List.mem_reverse.1 hlater)

theorem hash?_eq_none_iff : m.hash? path = none ↔ path ∉ m.outputs.map (·.path) := by
  rw [hash?, Option.map_eq_none_iff, List.find?_eq_none]
  simp

theorem Records.mem (h : m.Records path hash) : path ∈ m.outputs.map (·.path) := by
  obtain ⟨before, record, after, hsplit, rfl, -, -⟩ := h
  rw [hsplit]
  simp

theorem Records.unique {hash' : String} (h : m.Records path hash) (h' : m.Records path hash') :
    hash = hash' :=
  Option.some.inj ((hash?_eq_some_iff.2 h).symm.trans (hash?_eq_some_iff.2 h'))

/-! ## The records of new files -/

theorem pairwise_outputsOf (schema : Schema) (hnodup : (files.map (·.1)).Nodup) :
    ((outputsOf schema files).map (·.path)).Pairwise (· < ·) := by
  rw [outputsOf, List.map_map]
  exact Ascending.pairwise_mergeSort hnodup

theorem mem_outputsOf {o : OutputInfo} :
    o ∈ outputsOf schema files ↔ ∃ file ∈ files, recordOf schema file = o := by
  rw [(outputsOf_perm schema files).mem_iff, List.mem_map]

theorem map_path_outputsOf (schema : Schema) (files : List (String × String)) :
    ((outputsOf schema files).map (·.path)).Perm (files.map (·.1)) := by
  have hperm := (outputsOf_perm schema files).map (·.path)
  rwa [List.map_map] at hperm

/-! ## What the comparison finds -/

theorem pairwise_orphaned (m : Manifest) (outputs : List OutputInfo) :
    (m.orphaned outputs).Pairwise (· < ·) :=
  (Ascending.pairwise_ofList _).filter _

theorem mem_orphaned_iff : path ∈ m.orphaned (outputsOf schema files) ↔
    path ∈ m.outputs.map (·.path) ∧ path ∉ files.map (·.1) := by
  rw [orphaned, List.mem_filter, paths, Ascending.mem_ofList,
    ← (map_path_outputsOf schema files).mem_iff]
  simp

theorem pairwise_modified (m : Manifest) {outputs : List OutputInfo}
    (h : (outputs.map (·.path)).Pairwise (· < ·)) : (m.modified outputs).Pairwise (· < ·) := by
  have hnodup : (((outputs.filter m.isModified).map (·.path)).map id).Nodup := by
    rw [List.map_id]
    exact (h.imp String.ne_of_lt).sublist (List.filter_sublist.map _)
  simpa [modified] using Ascending.pairwise_mergeSort hnodup

theorem isModified_recordOf {text : String} : m.isModified (recordOf schema (path, text)) = true ↔
    ∃ hash, m.Records path hash ∧ hash ≠ contentHash text := by
  have hpath : (recordOf schema (path, text)).path = path := rfl
  have hhash : (recordOf schema (path, text)).hash = contentHash text := rfl
  rw [isModified, hpath, hhash]
  cases hfound : m.hash? path with
  | none =>
    refine iff_of_false Bool.false_ne_true ?_
    rintro ⟨hash, hrecords, -⟩
    exact hash?_eq_none_iff.1 hfound hrecords.mem
  | some hash =>
    have hrecords := hash?_eq_some_iff.1 hfound
    constructor
    · intro hne
      exact ⟨hash, hrecords, bne_iff_ne.1 hne⟩
    · rintro ⟨hash', hrecords', hne⟩
      obtain rfl := hrecords.unique hrecords'
      exact bne_iff_ne.2 hne

theorem mem_modified_iff : path ∈ m.modified (outputsOf schema files) ↔
    ∃ text hash, (path, text) ∈ files ∧ m.Records path hash ∧ hash ≠ contentHash text := by
  rw [modified, (List.mergeSort_perm _ _).mem_iff, List.mem_map]
  constructor
  · rintro ⟨o, ho, rfl⟩
    obtain ⟨hmem, hmodified⟩ := List.mem_filter.1 ho
    obtain ⟨⟨path, text⟩, hfile, rfl⟩ := mem_outputsOf.1 hmem
    obtain ⟨hash, hrecords, hne⟩ := isModified_recordOf.1 hmodified
    exact ⟨text, hash, hfile, hrecords, hne⟩
  · rintro ⟨text, hash, hfile, hrecords, hne⟩
    refine ⟨recordOf schema (path, text), List.mem_filter.2 ⟨mem_outputsOf.2 ⟨_, hfile, rfl⟩, ?_⟩,
      rfl⟩
    exact isModified_recordOf.2 ⟨hash, hrecords, hne⟩

/-! ## The whole comparison -/

/-- What can become of a path between a manifest and new files. -/
inductive Change where
  | orphaned
  | modified
  | unchanged
  | added
deriving DecidableEq, Repr

/-- Whether a path has come to a change, where `outputs` are the records of the new files. -/
def HasChange (m : Manifest) (files : List (String × String)) (outputs : List OutputInfo)
    (path : String) : Change → Prop
  | .orphaned => path ∈ m.orphaned outputs
  | .modified => path ∈ m.modified outputs
  | .unchanged => ∃ text, (path, text) ∈ files ∧ m.Records path (contentHash text)
  | .added => path ∈ files.map (·.1) ∧ path ∉ m.outputs.map (·.path)

/-- What a comparison of a manifest with new files promises, where `outputs` are the records of the
files. -/
structure Compares (m : Manifest) (files : List (String × String)) (outputs : List OutputInfo) :
    Prop where
  ascending_outputs : (outputs.map (·.path)).Pairwise (· < ·)
  ascending_orphaned : (m.orphaned outputs).Pairwise (· < ·)
  mem_orphaned : ∀ path, path ∈ m.orphaned outputs ↔
    path ∈ m.outputs.map (·.path) ∧ path ∉ files.map (·.1)
  ascending_modified : (m.modified outputs).Pairwise (· < ·)
  mem_modified : ∀ path, path ∈ m.modified outputs ↔
    ∃ text hash, (path, text) ∈ files ∧ m.Records path hash ∧ hash ≠ contentHash text
  disjoint : (m.orphaned outputs).Disjoint (m.modified outputs)
  existsUnique : ∀ path, path ∈ m.outputs.map (·.path) ∨ path ∈ files.map (·.1) →
    ∃! change, HasChange m files outputs path change

/-- A path that no new file has has been left over, and nothing else. -/
theorem hasChange_iff_of_notMem {change : Change} (hold : path ∈ m.outputs.map (·.path))
    (hnew : path ∉ files.map (·.1)) :
    HasChange m files (outputsOf schema files) path change ↔ change = .orphaned := by
  have hnone : ∀ text, (path, text) ∉ files := fun text hfile => hnew (List.mem_map_of_mem hfile)
  cases change with
  | orphaned => exact iff_of_true (mem_orphaned_iff.2 ⟨hold, hnew⟩) rfl
  | modified => simp [HasChange, mem_modified_iff, hnone]
  | unchanged => simp [HasChange, hnone]
  | added => simp [HasChange, hold]

/-- The path of a new file has been added if it is not recorded, and otherwise the digest that is
recorded tells what has become of it. -/
theorem hasChange_iff_of_mem {text : String} {change : Change}
    (hnodup : (files.map (·.1)).Nodup) (hfile : (path, text) ∈ files) :
    HasChange m files (outputsOf schema files) path change ↔
      change = match m.hash? path with
        | none => .added
        | some hash => if hash = contentHash text then .unchanged else .modified := by
  have hnew : path ∈ files.map (·.1) := List.mem_map_of_mem hfile
  have htext : ∀ text', (path, text') ∈ files ↔ text' = text := by
    intro text'
    constructor
    · intro hfile'
      exact congrArg Prod.snd (List.inj_on_of_nodup_map hnodup hfile' hfile rfl)
    · rintro rfl
      exact hfile
  cases hfound : m.hash? path with
  | none =>
    have hold := hash?_eq_none_iff.1 hfound
    have hnone : ∀ hash, ¬m.Records path hash := fun hash hrecords => hold hrecords.mem
    cases change with
    | orphaned => simp [HasChange, mem_orphaned_iff, hold]
    | modified => simp [HasChange, mem_modified_iff, hnone]
    | unchanged => simp [HasChange, hnone]
    | added => exact iff_of_true ⟨hnew, hold⟩ rfl
  | some hash =>
    have hrecords := hash?_eq_some_iff.1 hfound
    have hrecorded : ∀ hash', m.Records path hash' ↔ hash' = hash := by
      intro hash'
      exact ⟨fun hrecords' => hrecords'.unique hrecords, by rintro rfl; exact hrecords⟩
    cases change with
    | orphaned =>
      refine iff_of_false (fun horphaned => (mem_orphaned_iff.1 horphaned).2 hnew) ?_
      simp only
      split <;> simp
    | modified => simp [HasChange, mem_modified_iff, htext, hrecorded]
    | unchanged => simp [HasChange, htext, hrecorded, eq_comm]
    | added =>
      refine iff_of_false (fun hadded => hadded.2 hrecords.mem) ?_
      simp only
      split <;> simp

theorem compares_of_nodup (m : Manifest) (schema : Schema) (hnodup : (files.map (·.1)).Nodup) :
    m.Compares files (outputsOf schema files) where
  ascending_outputs := pairwise_outputsOf schema hnodup
  ascending_orphaned := pairwise_orphaned m _
  mem_orphaned _ := mem_orphaned_iff
  ascending_modified := pairwise_modified m (pairwise_outputsOf schema hnodup)
  mem_modified _ := mem_modified_iff
  disjoint := by
    intro path horphaned hmodified
    obtain ⟨text, hash, hfile, -⟩ := mem_modified_iff.1 hmodified
    exact (mem_orphaned_iff.1 horphaned).2 (List.mem_map_of_mem hfile)
  existsUnique := by
    intro path hpath
    by_cases hnew : path ∈ files.map (·.1)
    · obtain ⟨⟨path, text⟩, hfile, rfl⟩ := List.mem_map.1 hnew
      exact ⟨_, (hasChange_iff_of_mem hnodup hfile).2 rfl,
        fun change hchange => (hasChange_iff_of_mem hnodup hfile).1 hchange⟩
    · have hold := hpath.resolve_right hnew
      exact ⟨.orphaned, (hasChange_iff_of_notMem hold hnew).2 rfl,
        fun change hchange => (hasChange_iff_of_notMem hold hnew).1 hchange⟩

/-- A manifest of any origin is compared with the files of a package as it is to be. -/
theorem compares_ofFiles (h : Package.files package schema = .ok files) (m : Manifest) :
    m.Compares files (ofFiles package schema files).outputs :=
  compares_of_nodup m schema (Package.nodup_names h)

/-- A manifest that records a path twice, and not in order. -/
def repeatedManifest : Manifest where
  protocolVersion := "tot"
  package := "rpc"
  schemaHash := ""
  outputs := [{ path := "Page.py", hash := "1" }, { path := "Old.py", hash := "2" },
    { path := "Page.py", hash := "3" }, { path := "DOM.py", hash := "4" }]

theorem compares_ofFiles_repeated : ∃ files,
    Package.files "rpc" (Package.schemaOf ["Page"]) = .ok files ∧
      repeatedManifest.Compares files
        (ofFiles "rpc" (Package.schemaOf ["Page"]) files).outputs := by
  have hfiles := Package.files_schemaOf "rpc" ["Page"] (by decide)
  exact ⟨_, hfiles, compares_ofFiles hfiles repeatedManifest⟩

end Manifest

end ProtocolBindings
