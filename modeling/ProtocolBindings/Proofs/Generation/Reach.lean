import ProtocolBindings.Proofs.Generation.History

/-!
# What a run reaches

A change reaches the place that its path leads to, and no other.  The generated files and the
manifest are entries of the directory.  The paths that are cleaned up are those that the previous
manifest records, and they may lead anywhere: a run stays inside its directory exactly if none of
them leads to a file elsewhere.
-/

namespace ProtocolBindings

namespace FileTree

variable {t t' : FileTree} {p : Path} {place dir : List String} {entry : Option FileEntry}

/-- A place is that of an entry of a directory. -/
def IsEntryOf (dir place : List String) : Prop :=
  ∃ name, place = dir ++ [name]

/-- Two trees differ in nothing but the entries of the directory that a path leads to and the
directories on the way there. -/
def StaysInside (t : FileTree) (p : Path) (t' : FileTree) : Prop :=
  ∀ place, ¬IsEntryOf (t.destination p) place →
    t'.get? place = t.get? place ∨
      t.get? place = none ∧ t'.get? place = some .directory ∧ t.Passes p place

end FileTree

namespace Generation

open FileTree

variable {t t' : FileTree} {p : Path} {place dir : List String} {g : Generation}
  {change : FileChange} {changes : List FileChange} {r : Except FileError Unit}

/-! ## Changes -/

/-- A change does nothing, or it removes the file that its path leads to, or it puts its text at
the place that its path leads to. -/
theorem apply_cases
    (h : (apply change : ExceptT FileError (StateM FileTree) Unit).run.run t = (r, t')) :
    t' = t ∨
      (∃ p place content, change = .remove p ∧ t.placeOf p = .ok place ∧
        t.get? place = some (.file content) ∧ t.Replaces place none t') ∨
      ∃ p text place, change = .write p text ∧ t.placeOf p = .ok place ∧
        t.Replaces place (some (.file text.toUTF8)) t' := by
  cases change with
  | remove p =>
    change (Files.removeIfPresent p : ExceptT FileError (StateM FileTree) Unit).run.run t = _ at h
    rw [Files.removeIfPresent, run_bind, Files.run_remove_lift] at h
    cases hremove : t.remove p with
    | ok left =>
      rw [hremove] at h
      obtain rfl := (Prod.mk.inj h).2
      obtain ⟨place, content, hplace, hfile, -⟩ := remove_eq_ok_iff.1 hremove
      have hne : place ≠ [] := by
        rintro rfl
        cases hfile
      exact Or.inr (Or.inl ⟨p, place, content, rfl, hplace, hfile,
        replaces_of_remove hplace hne hremove⟩)
    | error e =>
      rw [hremove] at h
      simp only at h
      split at h
      · exact Or.inl (Prod.mk.inj h).2.symm
      · exact Or.inl (Prod.mk.inj h).2.symm
  | write p text =>
    change (Files.writeText p text : ExceptT FileError (StateM FileTree) Unit).run.run t = _ at h
    rw [Files.run_writeText] at h
    cases hwrite : t.writeBytes p text.toUTF8 with
    | ok written =>
      rw [hwrite] at h
      obtain rfl := (Prod.mk.inj h).2
      obtain ⟨place, hplace, hfree, -⟩ := writeBytes_eq_ok_iff.1 hwrite
      have hne : place ≠ [] := by
        rintro rfl
        exact hfree rfl
      exact Or.inr (Or.inr ⟨p, text, place, rfl, hplace, replaces_of_writeBytes hplace hne hwrite⟩)
    | error e =>
      rw [hwrite] at h
      exact Or.inl (Prod.mk.inj h).2.symm

theorem sameDirectories_of_apply
    (h : (apply change : ExceptT FileError (StateM FileTree) Unit).run.run t = (r, t')) :
    t.SameDirectories t' := by
  rcases apply_cases h with rfl | ⟨p, place, content, -, -, -, hreplaces⟩ |
    ⟨p, text, place, -, -, hreplaces⟩
  · exact .refl t'
  · exact hreplaces.sameDirectories (by simp)
  · exact hreplaces.sameDirectories (by simp)

/-- A change leaves a place alone that it does not write to, unless it removes a file there. -/
theorem get?_of_apply
    (h : (apply change : ExceptT FileError (StateM FileTree) Unit).run.run t = (r, t'))
    (hwrite : ∀ p text, change = .write p text → t.placeOf p ≠ .ok place)
    (hremove : ∀ p, change = .remove p → t.placeOf p = .ok place →
      ∀ content, t.get? place ≠ some (.file content)) :
    t'.get? place = t.get? place := by
  rcases apply_cases h with rfl | ⟨p, other, content, hchange, hother, hfile, hreplaces⟩ |
    ⟨p, text, other, hchange, hother, hreplaces⟩
  · rfl
  · apply hreplaces.get?_of_ne
    rintro rfl
    exact hremove p hchange hother content hfile
  · apply hreplaces.get?_of_ne
    rintro rfl
    exact hwrite p text hchange hother

/-- The first of a sequence of changes is made, and then the others unless it has failed. -/
theorem applyAll_cons_cases {first : FileChange} {rest : List FileChange}
    (h : (applyAll (first :: rest) : ExceptT FileError (StateM FileTree) Unit).run.run t =
      (r, t')) :
    ∃ r₁ t₁, (apply first : ExceptT FileError (StateM FileTree) Unit).run.run t = (r₁, t₁) ∧
      ((∃ e, r₁ = .error e ∧ r = .error e ∧ t' = t₁) ∨
        r₁ = .ok () ∧
          (applyAll rest : ExceptT FileError (StateM FileTree) Unit).run.run t₁ = (r, t')) := by
  rw [applyAll, run_bind] at h
  rcases hfirst : (apply first : ExceptT FileError (StateM FileTree) Unit).run.run t with
    ⟨e | done, t₁⟩
  · rw [hfirst] at h
    obtain ⟨rfl, rfl⟩ := Prod.mk.inj h
    exact ⟨_, _, rfl, Or.inl ⟨e, rfl, rfl, rfl⟩⟩
  · rw [hfirst] at h
    exact ⟨_, _, rfl, Or.inr ⟨rfl, h⟩⟩

/-- Changes leave a place alone that none of them writes to and at which none of them finds a file
to remove, whether they succeed or not. -/
theorem get?_of_applyAll
    (h : (applyAll changes : ExceptT FileError (StateM FileTree) Unit).run.run t = (r, t'))
    (hwrite : ∀ p text, .write p text ∈ changes → t.placeOf p ≠ .ok place)
    (hremove : ∀ p, .remove p ∈ changes → t.placeOf p = .ok place →
      ∀ content, t.get? place ≠ some (.file content)) :
    t'.get? place = t.get? place := by
  induction changes generalizing t with
  | nil =>
    obtain rfl := (Prod.mk.inj h).2
    rfl
  | cons first rest ih =>
    obtain ⟨r₁, t₁, hfirst, hthen⟩ := applyAll_cons_cases h
    have hstep : t₁.get? place = t.get? place := by
      apply get?_of_apply hfirst
      · rintro p text rfl
        exact hwrite p text List.mem_cons_self
      · rintro p rfl
        exact hremove p List.mem_cons_self
    rcases hthen with ⟨e, -, -, rfl⟩ | ⟨-, hrest⟩
    · exact hstep
    · have hsame := sameDirectories_of_apply hfirst
      rw [← hstep]
      apply ih hrest
      · intro p text hmem
        rw [ne_eq, hsame.placeOf_iff]
        exact hwrite p text (List.mem_cons_of_mem _ hmem)
      · intro p hmem hplace
        rw [hsame.placeOf_iff] at hplace
        rw [hstep]
        exact hremove p (List.mem_cons_of_mem _ hmem) hplace

/-- When all changes succeed, nothing is left at a place that one of them removes and none
writes to. -/
theorem get?_eq_none_of_applyAll
    (h : (applyAll changes : ExceptT FileError (StateM FileTree) Unit).run.run t = (.ok (), t'))
    (hne : place ≠ []) (hwrite : ∀ p text, .write p text ∈ changes → t.placeOf p ≠ .ok place)
    (hgone : t.get? place = none ∨ ∃ p, .remove p ∈ changes ∧ t.placeOf p = .ok place) :
    t'.get? place = none := by
  induction changes generalizing t with
  | nil =>
    obtain rfl := (Prod.mk.inj h).2
    rcases hgone with hnone | ⟨p, hp, -⟩
    · exact hnone
    · cases hp
  | cons first rest ih =>
    obtain ⟨r₁, t₁, hfirst, ⟨e, -, herror, -⟩ | ⟨rfl, hrest⟩⟩ := applyAll_cons_cases h
    · cases herror
    have hsame := sameDirectories_of_apply hfirst
    refine ih hrest ?_ ?_
    · intro p text hmem
      rw [ne_eq, hsame.placeOf_iff]
      exact hwrite p text (List.mem_cons_of_mem _ hmem)
    · rcases hgone with hnone | ⟨p, hp, hplace⟩
      · left
        rw [← hnone]
        apply get?_of_apply hfirst
        · rintro p text rfl
          exact hwrite p text List.mem_cons_self
        · rintro p - - content hfile
          rw [hnone] at hfile
          cases hfile
      · rcases List.mem_cons.1 hp with rfl | hp
        · exact Or.inl (replaces_of_removeIfPresent hplace hne hfirst).get?_self
        · exact Or.inr ⟨p, hp, hsame.placeOf_iff.2 hplace⟩

/-! ## Generations -/

theorem remove_mem_changes_iff {previous : Option Manifest} (hclean : g.options.clean = true) :
    .remove p ∈ g.changes previous ↔ ∃ name ∈ g.orphans previous, g.output.joinText name = p := by
  rw [changes, if_pos hclean, List.mem_append, List.mem_map]
  simp

theorem isEntryOf_of_placeOf {name : String} (hname : Path.IsFileName name)
    (hdir : t.HasDirectory p dir) (hplace : t.placeOf (p.joinText name) = .ok place) :
    IsEntryOf dir place := by
  rcases placeOf_joinText hname hdir.placeOf_eq hdir.get?_eq with hentry | hlong
  · rw [hentry] at hplace
    exact ⟨name, (Except.ok.inj hplace).symm⟩
  · rw [hlong] at hplace
    cases hplace

/-- What a generation writes are entries of its directory. -/
theorem isEntryOf_of_write_mem_changes {previous : Option Manifest} {text : String}
    (hg : g.HasNames) (hdir : t.HasDirectory g.output dir)
    (hmem : .write p text ∈ g.changes previous) (hplace : t.placeOf p = .ok place) :
    IsEntryOf dir place := by
  have hname : ∃ name, Path.IsFileName name ∧ p = g.output.joinText name := by
    rw [changes, List.mem_append] at hmem
    rcases hmem with hmem | hmem
    · split at hmem
      · simp at hmem
      · cases hmem
    · obtain ⟨⟨_, _⟩, hfile, heq⟩ := List.mem_map.1 hmem
      obtain ⟨rfl, rfl⟩ := FileChange.write.inj heq
      rw [writtenFiles, List.mem_append] at hfile
      rcases hfile with hfile | hfile
      · obtain ⟨⟨name, content⟩, hentry, heq⟩ := List.mem_map.1 hfile
        obtain ⟨rfl, rfl⟩ := Prod.mk.inj heq
        exact ⟨name, hg.isFileName name (List.mem_map_of_mem (f := (·.1)) hentry), rfl⟩
      · split at hfile
        · obtain ⟨rfl, rfl⟩ := Prod.mk.inj (List.mem_singleton.1 hfile)
          exact ⟨Manifest.fileName, Manifest.isFileName_fileName, rfl⟩
        · cases hfile
  obtain ⟨name, hname, rfl⟩ := hname
  exact isEntryOf_of_placeOf hname hdir hplace

section

variable [Host]

/-- The files that a generation is to clean up, going by the manifest that it finds, are entries
of its directory. -/
def CleansInside (g : Generation) (t : FileTree) (dir : List String) : Prop :=
  ∀ name ∈ g.orphans (manifestAt? t (dir ++ [Manifest.fileName])), ∀ place content,
    t.placeOf (g.output.joinText name) = .ok place → t.get? place = some (.file content) →
      IsEntryOf dir place

/-- It is enough that the manifest records file names only. -/
theorem cleansInside_of_isFileName (hdir : t.HasDirectory g.output dir)
    (hnames : ∀ m ∈ manifestAt? t (dir ++ [Manifest.fileName]), ∀ name ∈ m.paths,
      Path.IsFileName name) :
    g.CleansInside t dir := by
  intro name hname place content hplace _
  have hfile : Path.IsFileName name := by
    cases hm : manifestAt? t (dir ++ [Manifest.fileName]) with
    | none =>
      rw [hm] at hname
      cases hname
    | some m =>
      rw [hm] at hname
      exact hnames m hm name (List.mem_of_mem_filter hname)
  exact isEntryOf_of_placeOf hfile hdir hplace

theorem get?_of_cleansInside (hg : g.HasNames) (hclean : g.options.clean = true)
    (hdir : t.HasDirectory g.output dir) (hinside : g.CleansInside t dir)
    (h : (applyAll (g.changes (manifestAt? t (dir ++ [Manifest.fileName]))) :
      ExceptT FileError (StateM FileTree) Unit).run.run t = (r, t'))
    (houtside : ¬IsEntryOf dir place) : t'.get? place = t.get? place := by
  apply get?_of_applyAll h
  · intro p text hmem hplace
    exact houtside (isEntryOf_of_write_mem_changes hg hdir hmem hplace)
  · intro p hmem hplace content hfile
    obtain ⟨name, hname, rfl⟩ := (remove_mem_changes_iff hclean).1 hmem
    exact houtside (hinside name hname place content hplace hfile)

theorem cleansInside_of_kept (hg : g.HasNames) (hclean : g.options.clean = true)
    (hdir : t.HasDirectory g.output dir)
    (hkept : ∀ place content, ¬IsEntryOf dir place → t.get? place = some (.file content) →
      t'.get? place ≠ none)
    (h : (applyAll (g.changes (manifestAt? t (dir ++ [Manifest.fileName]))) :
      ExceptT FileError (StateM FileTree) Unit).run.run t = (.ok (), t')) :
    g.CleansInside t dir := by
  intro name hname place content hplace hfile
  by_contra houtside
  have hne : place ≠ [] := by
    rintro rfl
    cases hfile
  have hgone : t'.get? place = none := by
    refine get?_eq_none_of_applyAll h hne ?_ (Or.inr ⟨_, ?_, hplace⟩)
    · intro p text hmem hwritten
      exact houtside (isEntryOf_of_write_mem_changes hg hdir hmem hwritten)
    · exact (remove_mem_changes_iff hclean).2 ⟨name, hname, rfl⟩
  exact hkept place content houtside hfile hgone

/-! ## Runs -/

variable {output : Path} {package : String} {schema : Schema} {options : Options}
  {transcript transcript' : Transcript} {result : Except Failure (List Path)}

end

/-! ## Recorded paths that stay inside and that do not -/

/-- The manifest of an earlier run that has written one file. -/
def recording (path : String) : Manifest where
  protocolVersion := "tot"
  package := "rpc"
  schemaHash := ""
  outputs := [{ path, hash := "" }]

/-- A file, and a directory with the manifest of an earlier run. -/
def recordingTree (path : String) : FileTree where
  entries :=
    [(["keep.txt"], .file "mine".toUTF8), (["out"], .directory),
      (["out", Manifest.fileName], .file (recording path).toText.toUTF8)]

theorem withDirectories_recordingTree (path : String) :
    (recordingTree path).withDirectories (.ofText "out") = recordingTree path := by
  rfl

theorem hasDirectory_recordingTree (path : String) :
    (recordingTree path).HasDirectory (.ofText "out") ["out"] :=
  ⟨rfl, rfl⟩

theorem manifestAt?_recordingTree (path : String) :
    manifestAt? (recordingTree path) ["out", Manifest.fileName] = some (recording path) :=
  manifestAt?_of_toText (rfl : _ = some (FileEntry.file (recording path).toText.toUTF8))

theorem destination_recordingTree (path : String) :
    (recordingTree path).destination (.ofText "out") = ["out"] := by
  rfl

theorem not_isEntryOf_keep : ¬IsEntryOf ["out"] ["keep.txt"] := by
  rintro ⟨name, hname⟩
  simp at hname

end Generation

end ProtocolBindings
