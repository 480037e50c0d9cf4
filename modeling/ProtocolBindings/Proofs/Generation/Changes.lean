import ProtocolBindings.Proofs.Files.Directories
import ProtocolBindings.Proofs.Generation.Names
import ProtocolBindings.Proofs.Manifest

/-!
# The changes of a generation

Every change of a generation is about one file name of its directory.  When it succeeds it has
left the given text under that name, or nothing, and has changed nothing else.  So a sequence of
changes under distinct names leaves under each of them what its own change is about.
-/

namespace ProtocolBindings

namespace FileTree

variable {t t' : FileTree} {p : Path} {place other : List String} {entry : Option FileEntry}

/-- Two trees have the same directories and the same current one. -/
structure SameDirectories (t t' : FileTree) : Prop where
  current_eq : t'.current = t.current
  get?_iff : ∀ place, t'.get? place = some .directory ↔ t.get? place = some .directory

namespace SameDirectories

theorem refl (t : FileTree) : t.SameDirectories t :=
  ⟨rfl, fun _ => Iff.rfl⟩

theorem symm (h : t.SameDirectories t') : t'.SameDirectories t :=
  ⟨h.current_eq.symm, fun place => (h.get?_iff place).symm⟩

theorem trans {u : FileTree} (h : t.SameDirectories t') (h' : t'.SameDirectories u) :
    t.SameDirectories u :=
  ⟨h'.current_eq.trans h.current_eq, fun place => (h'.get?_iff place).trans (h.get?_iff place)⟩

/-- Only directories are needed to follow a path, so it leads to the same place. -/
theorem placeOf_iff (h : t.SameDirectories t') :
    t'.placeOf p = .ok place ↔ t.placeOf p = .ok place :=
  ⟨placeOf_mono h.current_eq.symm fun other => (h.get?_iff other).1,
    placeOf_mono h.current_eq fun other => (h.get?_iff other).2⟩

theorem hasDirectory (h : t.SameDirectories t') (hp : t.HasDirectory p place) :
    t'.HasDirectory p place :=
  ⟨h.placeOf_iff.2 hp.placeOf_eq, (h.get?_iff place).2 hp.get?_eq⟩

end SameDirectories

/-- A tree differs from another one only in the entry at a place where there was no directory. -/
structure Replaces (t : FileTree) (place : List String) (entry : Option FileEntry)
    (t' : FileTree) : Prop where
  current_eq : t'.current = t.current
  get?_self : t'.get? place = entry
  get?_of_ne : ∀ other, other ≠ place → t'.get? other = t.get? other
  notDirectory : t.get? place ≠ some .directory

namespace Replaces

theorem get?_directory (h : t.Replaces place entry t') (hother : t.get? other = some .directory) :
    t'.get? other = some .directory := by
  have hne : other ≠ place := by
    rintro rfl
    exact h.notDirectory hother
  rw [h.get?_of_ne other hne, hother]

theorem hasDirectory (h : t.Replaces place entry t') (hp : t.HasDirectory p other) :
    t'.HasDirectory p other :=
  ⟨placeOf_mono h.current_eq (fun _ => h.get?_directory) hp.placeOf_eq,
    h.get?_directory hp.get?_eq⟩

end Replaces

theorem Replaces.sameDirectories (h : t.Replaces place entry t')
    (hentry : entry ≠ some .directory) : t.SameDirectories t' := by
  refine ⟨h.current_eq, fun other => ⟨fun hother => ?_, h.get?_directory⟩⟩
  by_cases hsame : other = place
  · rw [hsame, h.get?_self] at hother
    exact absurd hother hentry
  · rwa [h.get?_of_ne other hsame] at hother

theorem replaces_of_writeBytes {content : ByteArray} (hplace : t.placeOf p = .ok place)
    (hne : place ≠ []) (h : t.writeBytes p content = .ok t') :
    t.Replaces place (some (.file content)) t' := by
  obtain ⟨_, hsame, hentry, rfl⟩ := writeBytes_eq_ok_iff.1 h
  rw [hplace] at hsame
  obtain rfl := Except.ok.inj hsame
  exact ⟨rfl, get?_put_self hne, fun _ => get?_put_of_ne, hentry⟩

theorem replaces_of_remove (hplace : t.placeOf p = .ok place) (hne : place ≠ [])
    (h : t.remove p = .ok t') : t.Replaces place none t' := by
  obtain ⟨_, content, hsame, hentry, rfl⟩ := remove_eq_ok_iff.1 h
  rw [hplace] at hsame
  obtain rfl := Except.ok.inj hsame
  refine ⟨rfl, get?_erase_self hne, fun _ => get?_erase_of_ne, ?_⟩
  rw [hentry]
  simp

theorem replaces_self (h : t.get? place = none) : t.Replaces place none t := by
  refine ⟨rfl, h, fun _ _ => rfl, ?_⟩
  rw [h]
  simp

end FileTree

namespace Generation

open FileTree

variable {t t' : FileTree} {output p : Path} {dir : List String} {name text : String}

/-- What is to be found under a name: the given text, or nothing. -/
abbrev Replacement := String × Option String

namespace Replacement

/-- The change that brings a replacement about in a directory. -/
def toChange (output : Path) : Replacement → FileChange
  | (name, none) => .remove (output.joinText name)
  | (name, some text) => .write (output.joinText name) text

/-- What there is under the name of a replacement once it has been brought about. -/
def entry (replacement : Replacement) : Option FileEntry :=
  replacement.2.map fun text => .file text.toUTF8

end Replacement

theorem replaces_of_writeText (hplace : t.placeOf p = .ok place) (hne : place ≠ [])
    (h : (Files.writeText p text : ExceptT FileError (StateM FileTree) Unit).run.run t =
      (.ok (), t')) :
    t.Replaces place (some (.file text.toUTF8)) t' := by
  rw [Files.run_writeText] at h
  cases hwrite : t.writeBytes p text.toUTF8 with
  | ok written =>
    rw [hwrite] at h
    obtain rfl := (Prod.mk.inj h).2
    exact replaces_of_writeBytes hplace hne hwrite
  | error e =>
    rw [hwrite] at h
    cases (Prod.mk.inj h).1

theorem replaces_of_removeIfPresent (hplace : t.placeOf p = .ok place) (hne : place ≠ [])
    (h : (Files.removeIfPresent p : ExceptT FileError (StateM FileTree) Unit).run.run t =
      (.ok (), t')) :
    t.Replaces place none t' := by
  rw [Files.removeIfPresent, run_bind, Files.run_remove_lift] at h
  cases hremove : t.remove p with
  | ok left =>
    rw [hremove] at h
    obtain rfl := (Prod.mk.inj h).2
    exact replaces_of_remove hplace hne hremove
  | error e =>
    rw [hremove] at h
    simp only at h
    split at h
    · rename_i hproblem
      obtain rfl := (Prod.mk.inj h).2
      exact replaces_self (get?_of_remove_eq_error hplace hremove (eq_of_beq hproblem))
    · cases (Prod.mk.inj h).1

/-- No change succeeds at a path with a name that is too long. -/
theorem run_apply_of_nameTooLong {replacement : Replacement}
    (hplace : t.placeOf (output.joinText replacement.1) = .error .nameTooLong) :
    (apply (replacement.toChange output) :
      ExceptT FileError (StateM FileTree) Unit).run.run t =
      (.error ⟨.nameTooLong, (output.joinText replacement.1).text⟩, t) := by
  obtain ⟨name, content⟩ := replacement
  cases content with
  | none =>
    change (Files.removeIfPresent (output.joinText name) :
      ExceptT FileError (StateM FileTree) Unit).run.run t = _
    rw [Files.removeIfPresent, run_bind, Files.run_remove_lift, FileTree.remove, hplace]
    rfl
  | some text =>
    change (Files.writeText (output.joinText name) text :
      ExceptT FileError (StateM FileTree) Unit).run.run t = _
    rw [Files.run_writeText, FileTree.writeBytes, hplace]
    rfl

/-- A change that succeeds brings its replacement about. -/
theorem replaces_of_apply {replacement : Replacement}
    (hname : Path.IsFileName replacement.1) (hdir : t.HasDirectory output dir)
    (h : (apply (replacement.toChange output) :
      ExceptT FileError (StateM FileTree) Unit).run.run t = (.ok (), t')) :
    t.Replaces (dir ++ [replacement.1]) replacement.entry t' := by
  obtain ⟨name, content⟩ := replacement
  have hne : dir ++ [name] ≠ [] := by simp
  have hplace : t.placeOf (output.joinText name) = .ok (dir ++ [name]) := by
    rcases placeOf_joinText hname hdir.placeOf_eq hdir.get?_eq with hplace | hplace
    · exact hplace
    · rw [run_apply_of_nameTooLong hplace] at h
      cases (Prod.mk.inj h).1
  cases content with
  | none => exact replaces_of_removeIfPresent hplace hne h
  | some text => exact replaces_of_writeText hplace hne h

/-- What a sequence of changes leaves behind. -/
structure Brings (t : FileTree) (dir : List String) (replacements : List Replacement)
    (t' : FileTree) : Prop where
  current_eq : t'.current = t.current
  get?_of_mem : ∀ r ∈ replacements, t'.get? (dir ++ [r.1]) = r.entry
  get?_of_ne : ∀ place, (∀ r ∈ replacements, place ≠ dir ++ [r.1]) → t'.get? place = t.get? place
  notDirectory : ∀ r ∈ replacements, t.get? (dir ++ [r.1]) ≠ some .directory

/-- Changes under distinct names that all succeed bring all their replacements about. -/
theorem brings_of_applyAll {replacements : List Replacement}
    (hnames : ∀ r ∈ replacements, Path.IsFileName r.1) (hnodup : (replacements.map (·.1)).Nodup)
    (hdir : t.HasDirectory output dir)
    (h : (applyAll (replacements.map (·.toChange output)) :
      ExceptT FileError (StateM FileTree) Unit).run.run t = (.ok (), t')) :
    Brings t dir replacements t' := by
  induction replacements generalizing t with
  | nil =>
    obtain rfl := (Prod.mk.inj h).2
    exact ⟨rfl, by simp, fun _ _ => rfl, by simp⟩
  | cons first rest ih =>
    rw [List.forall_mem_cons] at hnames
    rw [List.map_cons, List.nodup_cons] at hnodup
    rw [List.map_cons, applyAll, run_bind] at h
    rcases hfirst : (apply (first.toChange output) :
      ExceptT FileError (StateM FileTree) Unit).run.run t with ⟨e | done, t₁⟩
    · rw [hfirst] at h
      cases (Prod.mk.inj h).1
    · rw [hfirst] at h
      have hstep := replaces_of_apply hnames.1 hdir hfirst
      have hrest := ih hnames.2 hnodup.2 (hstep.hasDirectory hdir) h
      have hne : ∀ r ∈ rest, dir ++ [r.1] ≠ dir ++ [first.1] := by
        intro r hr heq
        apply hnodup.1
        rw [← (List.cons.inj (List.append_cancel_left heq)).1]
        exact List.mem_map_of_mem hr
      refine ⟨hrest.current_eq.trans hstep.current_eq, ?_, ?_, ?_⟩
      · rw [List.forall_mem_cons]
        refine ⟨?_, hrest.get?_of_mem⟩
        rw [hrest.get?_of_ne _ fun r hr => (hne r hr).symm]
        exact hstep.get?_self
      · intro place hplace
        rw [List.forall_mem_cons] at hplace
        rw [hrest.get?_of_ne _ hplace.2, hstep.get?_of_ne _ hplace.1]
      · rw [List.forall_mem_cons]
        refine ⟨hstep.notDirectory, ?_⟩
        intro r hr
        rw [← hstep.get?_of_ne _ (hne r hr)]
        exact hrest.notDirectory r hr

/-! ## The changes of one generation -/

def replacements (g : Generation) (previous : Option Manifest) : List Replacement :=
  (if g.options.clean then (g.orphans previous).map (·, none) else []) ++
    g.files.map (fun (name, text) => (name, some text)) ++
    if g.options.manifest then [(Manifest.fileName, some g.manifest.toText)] else []

theorem changes_eq_map (g : Generation) (previous : Option Manifest) :
    g.changes previous = (g.replacements previous).map (·.toChange g.output) := by
  rw [changes, replacements, writtenFiles, List.map_append, List.map_append, List.map_append]
  rw [List.append_assoc]
  congr 1
  · split
    · rw [List.map_map]
      rfl
    · rfl
  · congr 1
    · rw [List.map_map, List.map_map]
      rfl
    · split <;> rfl

/-- The replacements of a generation: what is left over goes away if the directory is to be cleaned,
every file comes with its text, and so does the manifest if there is to be one. -/
theorem mem_replacements {g : Generation} {previous : Option Manifest} {r : Replacement} :
    r ∈ g.replacements previous ↔
      (g.options.clean = true ∧ ∃ name ∈ g.orphans previous, r = (name, none)) ∨
        (∃ name text, (name, text) ∈ g.files ∧ r = (name, some text)) ∨
          (g.options.manifest = true ∧ r = (Manifest.fileName, some g.manifest.toText)) := by
  have horphans : r ∈ (if g.options.clean then (g.orphans previous).map
      fun name => ((name, none) : Replacement) else []) ↔
        g.options.clean = true ∧ ∃ name ∈ g.orphans previous, r = (name, none) := by
    split
    · rename_i hclean
      simp only [List.mem_map, hclean, true_and, eq_comm]
    · rename_i hclean
      simp [hclean]
  have hmanifest : r ∈ (if g.options.manifest then
      [((Manifest.fileName, some g.manifest.toText) : Replacement)] else []) ↔
        g.options.manifest = true ∧ r = (Manifest.fileName, some g.manifest.toText) := by
    split
    · rename_i hmanifest
      rw [List.mem_singleton, hmanifest]
      simp only [true_and]
    · rename_i hmanifest
      simp [hmanifest]
  rw [replacements, List.mem_append, List.mem_append, or_assoc, horphans, hmanifest,
    List.mem_map]
  simp only [Prod.exists, eq_comm]

/-- The replacements of a generation that cleans up and has a manifest. -/
theorem mem_replacements_iff {g : Generation} {previous : Option Manifest} {r : Replacement}
    (hclean : g.options.clean = true) (hmanifest : g.options.manifest = true) :
    r ∈ g.replacements previous ↔
      (∃ name ∈ g.orphans previous, r = (name, none)) ∨
        (∃ name text, (name, text) ∈ g.files ∧ r = (name, some text)) ∨
          r = (Manifest.fileName, some g.manifest.toText) := by
  rw [mem_replacements]
  simp only [hclean, hmanifest, true_and]

/-- The names of the replacements are distinct if what is left over is neither generated nor the
manifest. -/
theorem nodup_replacements {g : Generation} {previous : Option Manifest} (h : g.HasNames)
    (horphans : ∀ name ∈ g.orphans previous, name ∉ g.names ∧ name ≠ Manifest.fileName) :
    ((g.replacements previous).map (·.1)).Nodup := by
  have hnames : (g.replacements previous).map (·.1) =
      (if g.options.clean then g.orphans previous else []) ++
        (g.names ++ if g.options.manifest then [Manifest.fileName] else []) := by
    rw [replacements, names]
    cases g.options.clean <;> cases g.options.manifest <;> simp [Function.comp_def]
  have hmanifest : (if g.options.manifest then [Manifest.fileName] else []).Sublist
      [Manifest.fileName] := by
    split <;> simp
  have hclean : (if g.options.clean then g.orphans previous else []).Sublist
      (g.orphans previous) := by
    split <;> simp
  have hall : (g.orphans previous ++ (g.names ++ [Manifest.fileName])).Nodup := by
    rw [List.nodup_append, List.nodup_append]
    refine ⟨nodup_orphans g previous, ⟨h.nodup, by simp, ?_⟩, ?_⟩
    · rintro name hname _ hfile rfl
      rw [List.mem_singleton.1 hfile] at hname
      exact h.ne_manifest hname
    · rintro name hname other hother rfl
      rcases List.mem_append.1 hother with hother | hother
      · exact (horphans name hname).1 hother
      · exact (horphans name hname).2 (List.mem_singleton.1 hother)
  rw [hnames]
  exact hall.sublist (hclean.append ((List.Sublist.refl _).append hmanifest))

namespace Brings

variable {g : Generation} {previous : Option Manifest}
  (h : Brings t dir (g.replacements previous) t')

include h

theorem get?_file (hname : (name, text) ∈ g.files) :
    t'.get? (dir ++ [name]) = some (.file text.toUTF8) :=
  h.get?_of_mem (name, some text) (mem_replacements.2 (Or.inr (Or.inl ⟨name, text, hname, rfl⟩)))

theorem get?_manifest (hmanifest : g.options.manifest = true) :
    t'.get? (dir ++ [Manifest.fileName]) = some (.file g.manifest.toText.toUTF8) :=
  h.get?_of_mem (Manifest.fileName, some g.manifest.toText)
    (mem_replacements.2 (Or.inr (Or.inr ⟨hmanifest, rfl⟩)))

theorem get?_orphan (hclean : g.options.clean = true) (hname : name ∈ g.orphans previous) :
    t'.get? (dir ++ [name]) = none :=
  h.get?_of_mem (name, none) (mem_replacements.2 (Or.inl ⟨hclean, name, hname, rfl⟩))

theorem get?_other (hnames : name ∉ g.names)
    (hfile : g.options.manifest = true → name ≠ Manifest.fileName)
    (horphan : g.options.clean = true → name ∉ g.orphans previous) :
    t'.get? (dir ++ [name]) = t.get? (dir ++ [name]) := by
  refine h.get?_of_ne _ ?_
  intro r hr heq
  have hsame : name = r.1 := (List.cons.inj (List.append_cancel_left heq)).1
  rcases mem_replacements.1 hr with
    ⟨hclean, other, hother, rfl⟩ | ⟨other, text, hother, rfl⟩ | ⟨hmanifest, rfl⟩
  · rw [hsame] at horphan
    exact horphan hclean hother
  · rw [hsame] at hnames
    exact hnames (List.mem_map_of_mem (f := (·.1)) hother)
  · exact hfile hmanifest hsame

theorem file_ne_directory (hname : name ∈ g.names) :
    t.get? (dir ++ [name]) ≠ some .directory := by
  obtain ⟨⟨name, text⟩, hfile, rfl⟩ := List.mem_map.1 hname
  exact h.notDirectory (name, some text)
    (mem_replacements.2 (Or.inr (Or.inl ⟨name, text, hfile, rfl⟩)))

theorem manifest_ne_directory (hmanifest : g.options.manifest = true) :
    t.get? (dir ++ [Manifest.fileName]) ≠ some .directory :=
  h.notDirectory (Manifest.fileName, some g.manifest.toText)
    (mem_replacements.2 (Or.inr (Or.inr ⟨hmanifest, rfl⟩)))

end Brings

end Generation

end ProtocolBindings
