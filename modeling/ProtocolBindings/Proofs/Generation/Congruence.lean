import ProtocolBindings.Proofs.Generation.Changes

/-!
# The same changes in different trees

Two trees that have the same directories may still differ in the files at some places.  A change of
a generation fails in both of them or in neither, and where it has been made they agree.
-/

namespace ProtocolBindings

namespace FileTree

variable {t t' u u' v : FileTree} {p : Path} {place : List String} {entry : Option FileEntry}
  {places more : List String → Prop}

/-- Two trees have the same directories and differ at some places at most. -/
structure SameOutside (places : List String → Prop) (t u : FileTree) : Prop
    extends SameDirectories t u where
  get?_eq : ∀ place, ¬ places place → u.get? place = t.get? place

namespace SameOutside

theorem refl (t : FileTree) : SameOutside places t t :=
  ⟨.refl t, fun _ _ => rfl⟩

theorem symm (h : SameOutside places t u) : SameOutside places u t :=
  ⟨h.toSameDirectories.symm, fun place hplace => (h.get?_eq place hplace).symm⟩

theorem mono (h : SameOutside places t u) (hmore : ∀ place, places place → more place) :
    SameOutside more t u :=
  ⟨h.toSameDirectories, fun place hplace => h.get?_eq place fun hmem => hplace (hmore place hmem)⟩

theorem trans (h : SameOutside places t u) (h' : SameOutside places u v) :
    SameOutside places t v :=
  ⟨h.toSameDirectories.trans h'.toSameDirectories, fun place hplace =>
    (h'.get?_eq place hplace).trans (h.get?_eq place hplace)⟩

/-- If the same is put at a place in both trees, they agree there. -/
theorem of_replaces (h : SameOutside places t u) (ht : t.Replaces place entry t')
    (hu : u.Replaces place entry u') (hentry : entry ≠ some .directory) :
    SameOutside (fun other => places other ∧ other ≠ place) t' u' := by
  refine ⟨((ht.sameDirectories hentry).symm.trans h.toSameDirectories).trans
    (hu.sameDirectories hentry), fun other hnot => ?_⟩
  by_cases hother : other = place
  · rw [hother, hu.get?_self, ht.get?_self]
  · rw [hu.get?_of_ne other hother, ht.get?_of_ne other hother]
    exact h.get?_eq other fun hmem => hnot ⟨hmem, hother⟩

end SameOutside

end FileTree

namespace Generation

open FileTree

variable {t t' u u' : FileTree} {output : Path} {dir : List String} {r : Replacement}
  {replacements : List Replacement} {places : List String → Prop}

theorem Replacement.entry_ne_directory (r : Replacement) : r.entry ≠ some .directory := by
  obtain ⟨name, _ | text⟩ := r
  · simp [entry]
  · simp [entry]

/-- The places that replacements in a directory are about. -/
def placesOf (dir : List String) (replacements : List Replacement) (place : List String) : Prop :=
  ∃ r ∈ replacements, place = dir ++ [r.1]

theorem placesOf_of_subset {less more : List Replacement} (h : less ⊆ more) (place : List String)
    (hplace : placesOf dir less place) : placesOf dir more place := by
  obtain ⟨r, hr, rfl⟩ := hplace
  exact ⟨r, h hr, rfl⟩

/-- What is put in the place of a replacement makes no difference elsewhere. -/
theorem sameOutside_of_replaces {entry : Option FileEntry} (hr : r ∈ replacements)
    (h : t.Replaces (dir ++ [r.1]) entry t') (hentry : entry ≠ some .directory) :
    SameOutside (placesOf dir replacements) t t' := by
  refine ⟨h.sameDirectories hentry, fun place hplace => h.get?_of_ne place ?_⟩
  rintro rfl
  exact hplace ⟨r, hr, rfl⟩

/-- What a change gives and leaves. -/
def changed (output : Path) (r : Replacement) (t : FileTree) : Except FileError Unit × FileTree :=
  (apply (r.toChange output) : ExceptT FileError (StateM FileTree) Unit).run.run t

/-- What changes give and leave. -/
def changedAll (output : Path) (replacements : List Replacement) (t : FileTree) :
    Except FileError Unit × FileTree :=
  (applyAll (replacements.map (·.toChange output)) :
    ExceptT FileError (StateM FileTree) Unit).run.run t

theorem changedAll_cons (output : Path) (r : Replacement) (rest : List Replacement) (t : FileTree) :
    changedAll output (r :: rest) t =
      match changed output r t with
      | (.ok (), t') => changedAll output rest t'
      | (.error e, t') => (.error e, t') := by
  rw [changedAll, List.map_cons, applyAll, run_bind, changed]
  rcases (apply (r.toChange output) : ExceptT FileError (StateM FileTree) Unit).run.run t with
    ⟨e | _, t'⟩
  · rfl
  · rfl

theorem changedAll_append (output : Path) (front back : List Replacement) (t : FileTree) :
    changedAll output (front ++ back) t =
      match changedAll output front t with
      | (.ok (), t') => changedAll output back t'
      | (.error e, t') => (.error e, t') := by
  induction front generalizing t with
  | nil => rfl
  | cons first rest ih =>
    rw [List.cons_append, changedAll_cons, changedAll_cons]
    rcases changed output first t with ⟨e | _, t'⟩
    · rfl
    · exact ih t'

/-! ## One change -/

theorem changed_of_directory (hplace : t.placeOf (output.joinText r.1) = .ok place)
    (h : t.get? place = some .directory) :
    changed output r t = (.error ⟨.isADirectory, (output.joinText r.1).text⟩, t) := by
  obtain ⟨name, content⟩ := r
  cases content with
  | none =>
    have hremove : t.remove (output.joinText name) =
        .error ⟨.isADirectory, (output.joinText name).text⟩ :=
      withPath_bind_eq_error hplace (by rw [h]; rfl)
    change (Files.removeIfPresent (output.joinText name) :
      ExceptT FileError (StateM FileTree) Unit).run.run t = _
    rw [Files.removeIfPresent, run_bind, Files.run_remove_lift, hremove]
    rfl
  | some text =>
    have hwrite : t.writeBytes (output.joinText name) text.toUTF8 =
        .error ⟨.isADirectory, (output.joinText name).text⟩ :=
      withPath_bind_eq_error hplace (by rw [h]; rfl)
    change (Files.writeText (output.joinText name) text :
      ExceptT FileError (StateM FileTree) Unit).run.run t = _
    rw [Files.run_writeText, hwrite]

theorem exists_changed_of_not_directory (hplace : t.placeOf (output.joinText r.1) = .ok place)
    (h : t.get? place ≠ some .directory) : ∃ t', changed output r t = (.ok (), t') := by
  obtain ⟨name, content⟩ := r
  cases content with
  | none =>
    change ∃ t', (Files.removeIfPresent (output.joinText name) :
      ExceptT FileError (StateM FileTree) Unit).run.run t = (.ok (), t')
    rw [Files.removeIfPresent, run_bind, Files.run_remove_lift]
    rcases hentry : t.get? place with _ | content | _
    · have hremove : t.remove (output.joinText name) =
          .error ⟨.notFound, (output.joinText name).text⟩ :=
        withPath_bind_eq_error hplace (by rw [hentry]; rfl)
      rw [hremove]
      exact ⟨t, rfl⟩
    · rw [remove_eq_ok_iff.2 ⟨place, content, hplace, hentry, rfl⟩]
      exact ⟨_, rfl⟩
    · exact absurd hentry h
  | some text =>
    change ∃ t', (Files.writeText (output.joinText name) text :
      ExceptT FileError (StateM FileTree) Unit).run.run t = (.ok (), t')
    rw [Files.run_writeText, writeBytes_eq_ok_iff.2 ⟨place, hplace, h, rfl⟩]
    exact ⟨_, rfl⟩

/-- A change in a directory fails without a trace, in the same way wherever there are the same
directories, or it succeeds wherever there are. -/
theorem changed_cases (hname : Path.IsFileName r.1) (output : Path) (dir : List String)
    (blocked : Prop) :
    (∃ e, ∀ t : FileTree, t.HasDirectory output dir →
        (t.get? (dir ++ [r.1]) = some .directory ↔ blocked) →
          changed output r t = (.error e, t)) ∨
      ∀ t : FileTree, t.HasDirectory output dir →
        (t.get? (dir ++ [r.1]) = some .directory ↔ blocked) →
          ∃ t', changed output r t = (.ok (), t') ∧ t.Replaces (dir ++ [r.1]) r.entry t' := by
  by_cases hlong : maxPathSize < (output.joinText r.1).text.utf8ByteSize ∨
    maxNameSize < r.1.utf8ByteSize
  · refine Or.inl ⟨⟨.nameTooLong, (output.joinText r.1).text⟩, fun t hdir _ => ?_⟩
    apply run_apply_of_nameTooLong
    rw [placeOf_joinText_eq hname hdir.placeOf_eq hdir.get?_eq, if_pos hlong]
  · have hplace : ∀ t : FileTree, t.HasDirectory output dir →
        t.placeOf (output.joinText r.1) = .ok (dir ++ [r.1]) := by
      intro t hdir
      rw [placeOf_joinText_eq hname hdir.placeOf_eq hdir.get?_eq, if_neg hlong]
    by_cases hblocked : blocked
    · exact Or.inl ⟨⟨.isADirectory, (output.joinText r.1).text⟩, fun t hdir hiff =>
        changed_of_directory (hplace t hdir) (hiff.2 hblocked)⟩
    · refine Or.inr fun t hdir hiff => ?_
      obtain ⟨t', hchanged⟩ := exists_changed_of_not_directory (hplace t hdir) (hiff.not.2 hblocked)
      exact ⟨t', hchanged, replaces_of_apply hname hdir hchanged⟩

/-! ## All changes -/

/-- Changes make no difference but at the places that they are about. -/
theorem sameOutside_changedAll (hnames : ∀ r ∈ replacements, Path.IsFileName r.1)
    (hdir : t.HasDirectory output dir) :
    SameOutside (placesOf dir replacements) t (changedAll output replacements t).2 := by
  induction replacements generalizing t with
  | nil => exact .refl t
  | cons first rest ih =>
    rw [List.forall_mem_cons] at hnames
    rw [changedAll_cons]
    rcases changed_cases hnames.1 output dir (t.get? (dir ++ [first.1]) = some .directory) with
      ⟨e, hfails⟩ | hsucceeds
    · rw [hfails t hdir Iff.rfl]
      exact .refl t
    · obtain ⟨t₁, hchanged, hstep⟩ := hsucceeds t hdir Iff.rfl
      rw [hchanged]
      have hfirst : SameOutside (placesOf dir (first :: rest)) t t₁ :=
        sameOutside_of_replaces List.mem_cons_self hstep first.entry_ne_directory
      exact hfirst.trans ((ih hnames.2 (hstep.hasDirectory hdir)).mono
        (placesOf_of_subset (List.subset_cons_self first rest)))

/-- Changes under names that can be followed all succeed if none of them is that of a directory. -/
theorem exists_changedAll_eq_ok (hnames : ∀ r ∈ replacements, Path.IsFileName r.1)
    (hdir : t.HasDirectory output dir)
    (hplaces : ∀ r ∈ replacements, t.placeOf (output.joinText r.1) = .ok (dir ++ [r.1]))
    (hfree : ∀ r ∈ replacements, t.get? (dir ++ [r.1]) ≠ some .directory) :
    ∃ t', changedAll output replacements t = (.ok (), t') := by
  induction replacements generalizing t with
  | nil => exact ⟨t, rfl⟩
  | cons first rest ih =>
    rw [List.forall_mem_cons] at hnames hplaces hfree
    obtain ⟨t₁, hchanged⟩ := exists_changed_of_not_directory hplaces.1 hfree.1
    have hstep := replaces_of_apply hnames.1 hdir hchanged
    have hsame := hstep.sameDirectories first.entry_ne_directory
    rw [changedAll_cons, hchanged]
    exact ih hnames.2 (hstep.hasDirectory hdir)
      (fun r hr => hsame.placeOf_iff.2 (hplaces.2 r hr))
      fun r hr => (hsame.get?_iff _).not.2 (hfree.2 r hr)

/-- The same changes do the same in trees that differ at some places at most, and if they succeed
the trees agree at every place that the changes are about. -/
theorem changedAll_congr (hnames : ∀ r ∈ replacements, Path.IsFileName r.1)
    (hdir : t.HasDirectory output dir) (h : SameOutside places t u) :
    (changedAll output replacements u).1 = (changedAll output replacements t).1 ∧
      SameOutside places (changedAll output replacements t).2
        (changedAll output replacements u).2 ∧
      ((changedAll output replacements t).1 = .ok () →
        SameOutside (fun place => places place ∧ ¬ placesOf dir replacements place)
          (changedAll output replacements t).2 (changedAll output replacements u).2) := by
  induction replacements generalizing t u places with
  | nil =>
    refine ⟨rfl, h, fun _ => h.mono fun place hplace => ⟨hplace, ?_⟩⟩
    rintro ⟨r, hr, -⟩
    cases hr
  | cons first rest ih =>
    rw [List.forall_mem_cons] at hnames
    have hudir := h.hasDirectory hdir
    rw [changedAll_cons, changedAll_cons]
    rcases changed_cases hnames.1 output dir (t.get? (dir ++ [first.1]) = some .directory) with
      ⟨e, hfails⟩ | hsucceeds
    · rw [hfails t hdir Iff.rfl, hfails u hudir (h.get?_iff _)]
      refine ⟨rfl, h, fun hok => ?_⟩
      cases hok
    · obtain ⟨t₁, ht, htfirst⟩ := hsucceeds t hdir Iff.rfl
      obtain ⟨u₁, hu, hufirst⟩ := hsucceeds u hudir (h.get?_iff _)
      rw [ht, hu]
      have hfirst := h.of_replaces htfirst hufirst first.entry_ne_directory
      obtain ⟨hresult, hsame, hdone⟩ := ih hnames.2 (htfirst.hasDirectory hdir) hfirst
      refine ⟨hresult, hsame.mono fun place hplace => hplace.1, fun hok => (hdone hok).mono ?_⟩
      rintro place ⟨⟨hplace, hfirst⟩, hrest⟩
      refine ⟨hplace, ?_⟩
      rintro ⟨r, hr, rfl⟩
      rcases List.mem_cons.1 hr with rfl | hr
      · exact hfirst rfl
      · exact hrest ⟨r, hr, rfl⟩

end Generation

end ProtocolBindings
