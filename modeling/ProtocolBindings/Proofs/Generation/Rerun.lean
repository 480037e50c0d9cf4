import ProtocolBindings.Proofs.Files.Remaking
import ProtocolBindings.Proofs.Generation.Congruence
import ProtocolBindings.Proofs.Generation.History
import ProtocolBindings.Proofs.Generation.Previous
import ProtocolBindings.Proofs.Interruption

/-!
# Runs that are started again

A run of the writer can be stopped before it is done, in the middle of a file if need be.  Another
run with the same arguments then leaves what the first one would have left.  What is left over is
removed first and the manifest is written last: until then the manifest of the earlier run is there
and names the same files again, and a manifest that has been begun is either none or that of this
run, which leaves nothing over.
-/

namespace ProtocolBindings.Generation

open FileTree Interruptible

variable {t t' u u' : FileTree} {output : Path} {dir : List String} {r : Replacement}
  {replacements done rest : List Replacement} {g : Generation}

/-! ## Changes that are stopped -/

theorem tracks_apply (change : FileChange) :
    Tracks (apply change : ExceptT FileError Interruptible Unit).run
      (apply change : ExceptT FileError (StateM FileTree) Unit).run := by
  cases change with
  | remove path => exact Files.tracks_removeIfPresent path
  | write path text => exact Files.tracks_writeText path text

/-- What there is under the name of a replacement of which perhaps no more than the front of the
text has been written. -/
def Replacement.HasFront (r : Replacement) (entry : Option FileEntry) : Prop :=
  match r.2 with
  | none => entry = none
  | some text => ∃ count, entry = some (.file (text.toUTF8.extract 0 count))

theorem Replacement.hasFront_entry (r : Replacement) : r.HasFront r.entry := by
  obtain ⟨name, _ | text⟩ := r
  · rfl
  · exact ⟨text.toUTF8.size, by rw [entry, ByteArray.extract_zero_size]; rfl⟩

theorem Replacement.HasFront.ne_directory {entry : Option FileEntry} (h : r.HasFront entry) :
    entry ≠ some .directory := by
  obtain ⟨name, _ | text⟩ := r
  · obtain rfl : entry = none := h
    simp
  · obtain ⟨count, rfl⟩ := h
    simp

/-- What a change leaves that may be stopped: the tree as it was, or, if the change can be made, an
entry that has been begun. -/
theorem leaves_apply (hname : Path.IsFileName r.1) (hdir : t.HasDirectory output dir)
    (h : Leaves (apply (r.toChange output) : ExceptT FileError Interruptible Unit).run t u) :
    u = t ∨ (∃ t', changed output r t = (.ok (), t')) ∧
      ∃ entry, r.HasFront entry ∧ t.Replaces (dir ++ [r.1]) entry u := by
  have hdone : changed output r t = (.ok (), u) →
      (∃ t', changed output r t = (.ok (), t')) ∧
        ∃ entry, r.HasFront entry ∧ t.Replaces (dir ++ [r.1]) entry u := fun hchanged =>
    ⟨⟨u, hchanged⟩, r.entry, r.hasFront_entry, replaces_of_apply hname hdir hchanged⟩
  obtain ⟨name, _ | text⟩ := r
  · exact (Files.leaves_removeIfPresent h).imp_right hdone
  · rcases Files.leaves_writeText h with rfl | hwrite | ⟨count, hpart⟩
    · exact Or.inl rfl
    · refine Or.inr (hdone ?_)
      change (Files.writeText (output.joinText name) text :
        ExceptT FileError (StateM FileTree) Unit).run.run t = _
      rw [Files.run_writeText, hwrite]
    · -- Where a front of the text can be written, so can the whole.
      obtain ⟨place, hplace, hentry, -⟩ := writeBytes_eq_ok_iff.1 hpart
      obtain rfl : place = dir ++ [name] := by
        rcases placeOf_joinText hname hdir.placeOf_eq hdir.get?_eq with hsame | hlong
        · rw [hsame] at hplace
          exact (Except.ok.inj hplace).symm
        · rw [hlong] at hplace
          cases hplace
      exact Or.inr ⟨exists_changed_of_not_directory hplace hentry, _, ⟨count, rfl⟩,
        replaces_of_writeBytes hplace (by simp) hpart⟩

/-- What changes have left that were stopped: of some, each has been made at least in part, and
nothing has been changed besides. -/
structure PartlyBrings (t : FileTree) (dir : List String) (done : List Replacement)
    (u : FileTree) : Prop where
  sameOutside : SameOutside (placesOf dir done) t u
  hasFront : ∀ r ∈ done, r.HasFront (u.get? (dir ++ [r.1]))

/-- Changes that are stopped have been made up to one of them, which has been begun.  All of these
could have been made. -/
theorem exists_of_leaves_applyAll (hnames : ∀ r ∈ replacements, Path.IsFileName r.1)
    (hnodup : (replacements.map (·.1)).Nodup) (hdir : t.HasDirectory output dir)
    (h : Leaves (applyAll (replacements.map (·.toChange output)) :
      ExceptT FileError Interruptible Unit).run t u) :
    ∃ done rest t', replacements = done ++ rest ∧ changedAll output done t = (.ok (), t') ∧
      PartlyBrings t dir done u := by
  induction replacements generalizing t with
  | nil =>
    obtain rfl := eq_of_leaves_pure h
    exact ⟨[], [], u, rfl, rfl, .refl u, by simp⟩
  | cons first rest ih =>
    rw [List.forall_mem_cons] at hnames
    rw [List.map_cons, List.nodup_cons] at hnodup
    rcases leaves_except_bind (tracks_apply (first.toChange output)) h with
      hfirst | ⟨_, t₁, hfirst, hrest⟩
    · rcases leaves_apply hnames.1 hdir hfirst with rfl | ⟨⟨t', hchanged⟩, entry, hfront, hbegun⟩
      · exact ⟨[], first :: rest, u, rfl, rfl, .refl u, by simp⟩
      · refine ⟨[first], rest, t', rfl, ?_, ?_, ?_⟩
        · rw [changedAll_cons, hchanged]
          rfl
        · exact sameOutside_of_replaces (List.mem_singleton_self first) hbegun hfront.ne_directory
        · simp only [List.mem_singleton, forall_eq]
          rw [hbegun.get?_self]
          exact hfront
    · have hstep := replaces_of_apply hnames.1 hdir hfirst
      have hchanged : changed output first t = (.ok (), t₁) := hfirst
      obtain ⟨done, more, t', rfl, hdone, hpartly⟩ :=
        ih hnames.2 hnodup.2 (hstep.hasDirectory hdir) hrest
      refine ⟨first :: done, more, t', rfl, ?_, ?_, ?_⟩
      · rw [changedAll_cons, hchanged]
        exact hdone
      · have hbefore : SameOutside (placesOf dir (first :: done)) t t₁ :=
          sameOutside_of_replaces List.mem_cons_self hstep first.entry_ne_directory
        exact hbefore.trans (hpartly.sameOutside.mono
          (placesOf_of_subset (List.subset_cons_self first done)))
      · rw [List.forall_mem_cons]
        refine ⟨?_, hpartly.hasFront⟩
        have hother : ¬ placesOf dir done (dir ++ [first.1]) := by
          rintro ⟨r, hr, hsame⟩
          apply hnodup.1
          rw [(List.cons.inj (List.append_cancel_left hsame)).1]
          exact List.mem_map_of_mem (List.mem_append_left _ hr)
        rw [hpartly.sameOutside.get?_eq _ hother, hstep.get?_self]
        exact first.hasFront_entry

/-! ## Changes that are made again -/

/-- What there is after changes does not depend on the front of them that has been made before. -/
theorem changedAll_again (hnames : ∀ r ∈ done ++ rest, Path.IsFileName r.1)
    (hdir : t.HasDirectory output dir) (hdone : changedAll output done t = (.ok (), t'))
    (h : SameOutside (placesOf dir done) t u) :
    (changedAll output (done ++ rest) u).1 = (changedAll output (done ++ rest) t).1 ∧
      SameOutside (fun _ => False) (changedAll output (done ++ rest) t).2
        (changedAll output (done ++ rest) u).2 := by
  have hdoneNames : ∀ r ∈ done, Path.IsFileName r.1 := fun r hr =>
    hnames r (List.mem_append_left _ hr)
  have hrestNames : ∀ r ∈ rest, Path.IsFileName r.1 := fun r hr =>
    hnames r (List.mem_append_right _ hr)
  obtain ⟨hresult, -, hsame⟩ := changedAll_congr hdoneNames hdir h
  rw [hdone] at hresult hsame
  have hnow : SameOutside (fun _ => False) t' (changedAll output done u).2 :=
    (hsame rfl).mono fun _ hplace => hplace.2 hplace.1
  have hdir' : t'.HasDirectory output dir := by
    have hafter := sameOutside_changedAll hdoneNames hdir
    rw [hdone] at hafter
    exact hafter.hasDirectory hdir
  rw [changedAll_append, changedAll_append, hdone]
  rcases hu : changedAll output done u with ⟨e | _, u'⟩
  · rw [hu] at hresult
    cases hresult
  · rw [hu] at hnow
    obtain ⟨hresult', hsame', -⟩ := changedAll_congr hrestNames hdir' hnow
    exact ⟨hresult', hsame'⟩

/-- Nothing is left over of no run, nor of a run that has generated the same. -/
theorem orphans_eq_nil {m : Option Manifest} (hg : g.HasNames)
    (h : m = none ∨ m = some g.manifest) : g.orphans m = [] := by
  rcases h with rfl | rfl
  · rfl
  · rw [List.eq_nil_iff_forall_not_mem]
    intro name hname
    obtain ⟨hin, hout⟩ := (mem_orphans_iff hg hg).1 hname
    exact hout hin

theorem replacements_eq_append (g : Generation) (m : Option Manifest) :
    g.replacements m =
      (if g.options.clean then (g.orphans m).map (·, none) else []) ++ g.replacements none := by
  rw [replacements, replacements, List.append_assoc, List.append_assoc]
  congr 1
  cases g.options.clean with
  | true => rfl
  | false => rfl

/-- The manifest comes last: where it has been begun, all the changes have been made up to it. -/
theorem of_manifest_mem_done {previous : Option Manifest} (hg : g.HasNames)
    (hnodup : ((g.replacements previous).map (·.1)).Nodup)
    (horphans : ∀ name ∈ g.orphans previous, name ≠ Manifest.fileName)
    (hsplit : g.replacements previous = done ++ rest) (hr : r ∈ done)
    (hname : r.1 = Manifest.fileName) :
    rest = [] ∧ r = (Manifest.fileName, some g.manifest.toText) := by
  have hmem : r ∈ g.replacements previous := by
    rw [hsplit]
    exact List.mem_append_left _ hr
  obtain ⟨hoption, rfl⟩ :
      g.options.manifest = true ∧ r = (Manifest.fileName, some g.manifest.toText) := by
    rcases mem_replacements.1 hmem with
      ⟨-, name, horphan, rfl⟩ | ⟨name, text, hfile, rfl⟩ | hmanifest
    · exact absurd hname (horphans name horphan)
    · obtain rfl : name = Manifest.fileName := hname
      exact absurd (List.mem_map_of_mem (f := (·.1)) hfile) hg.ne_manifest
    · exact hmanifest
  refine ⟨?_, rfl⟩
  rcases List.eq_nil_or_concat rest with hnil | ⟨front, last, rfl⟩
  · exact hnil
  · rw [hsplit] at hnodup
    rw [replacements, hoption, if_pos rfl, List.concat_eq_append, ← List.append_assoc] at hsplit
    obtain ⟨-, hlast⟩ := List.append_inj' hsplit rfl
    obtain rfl := (List.cons.inj hlast).1
    rw [List.map_append, List.nodup_append] at hnodup
    refine absurd rfl (hnodup.2.2 _ (List.mem_map_of_mem hr) Manifest.fileName ?_)
    simp

/-- Files that have been removed do not have to be removed again. -/
theorem changedAll_of_removed {removed written : List Replacement}
    (hremoved : ∀ r ∈ removed, r.2 = none)
    (hnames : ∀ r ∈ removed ++ written, Path.IsFileName r.1)
    (hnodup : ((removed ++ written).map (·.1)).Nodup) (hdir : t.HasDirectory output dir)
    (hdone : changedAll output (removed ++ written) t = (.ok (), t'))
    (h : PartlyBrings t dir (removed ++ written) u) :
    (changedAll output written u).1 = .ok () ∧
      SameOutside (fun _ => False) t' (changedAll output written u).2 := by
  have hremovedNames : ∀ r ∈ removed, Path.IsFileName r.1 := fun r hr =>
    hnames r (List.mem_append_left _ hr)
  have hwrittenNames : ∀ r ∈ written, Path.IsFileName r.1 := fun r hr =>
    hnames r (List.mem_append_right _ hr)
  rw [List.map_append, List.nodup_append] at hnodup
  rw [changedAll_append] at hdone
  have hbetween := sameOutside_changedAll hremovedNames hdir
  rcases hfirst : changedAll output removed t with ⟨e | _, t₁⟩
  · rw [hfirst] at hdone
    cases (Prod.mk.inj hdone).1
  · rw [hfirst] at hdone hbetween
    have hwritten : changedAll output written t₁ = (.ok (), t') := hdone
    have hgone := brings_of_applyAll hremovedNames hnodup.1 hdir hfirst
    have hleft := (hbetween.symm.mono
      (placesOf_of_subset (List.subset_append_left removed written))).trans h.sameOutside
    have hsame : SameOutside (placesOf dir written) t₁ u := by
      refine ⟨hleft.toSameDirectories, fun place hplace => ?_⟩
      by_cases hin : placesOf dir removed place
      · obtain ⟨r, hr, rfl⟩ := hin
        have hfront := h.hasFront r (List.mem_append_left _ hr)
        rw [Replacement.HasFront, hremoved r hr] at hfront
        rw [hfront, hgone.get?_of_mem r hr, Replacement.entry, hremoved r hr]
        rfl
      · refine hleft.get?_eq place ?_
        rintro ⟨r, hr, rfl⟩
        rcases List.mem_append.1 hr with hr | hr
        · exact hin ⟨r, hr, rfl⟩
        · exact hplace ⟨r, hr, rfl⟩
    obtain ⟨hresult, -, hafter⟩ := changedAll_congr hwrittenNames (hbetween.hasDirectory hdir) hsame
    rw [hwritten] at hresult hafter
    exact ⟨hresult, (hafter rfl).mono fun _ hplace => hplace.2 hplace.1⟩

section

variable [Host]

/-- A generation that has been stopped in the middle of its changes has carried out all but a part
of the last one, which writes the manifest, or it has left the manifest as it was. -/
theorem manifestIn_of_partlyBrings {previous : Option Manifest} (hg : g.HasNames)
    (hnodup : ((g.replacements previous).map (·.1)).Nodup)
    (horphans : ∀ name ∈ g.orphans previous, name ≠ Manifest.fileName)
    (hsplit : g.replacements previous = done ++ rest) (h : PartlyBrings t dir done u) :
    rest = [] ∧ (manifestIn u (dir ++ [Manifest.fileName]) = .ok none ∨
        manifestIn u (dir ++ [Manifest.fileName]) = .ok (some g.manifest)) ∨
      manifestIn u (dir ++ [Manifest.fileName]) = manifestIn t (dir ++ [Manifest.fileName]) := by
  by_cases hbegun : ∃ r ∈ done, r.1 = Manifest.fileName
  · obtain ⟨r, hr, hname⟩ := hbegun
    obtain ⟨hrest, rfl⟩ := of_manifest_mem_done hg hnodup horphans hsplit hr hname
    obtain ⟨count, hcontent⟩ := h.hasFront _ hr
    refine Or.inl ⟨hrest, ?_⟩
    rw [manifestIn, hcontent]
    exact g.manifest.ofBytes?_extract_toText count
  · right
    apply manifestIn_congr
    apply h.sameOutside.get?_eq
    rintro ⟨r, hr, hplace⟩
    exact hbegun ⟨r, hr, (List.cons.inj (List.append_cancel_left hplace)).1.symm⟩

/-- The changes of a generation that has been stopped in the middle of them, for the manifest that
it has left, have the outcome that its changes have if it is not stopped. -/
theorem changedAll_replacements_again {previous now : Option Manifest} (hg : g.HasNames)
    (hdir : t.HasDirectory output dir)
    (hprevious : previous = manifestAt? t (dir ++ [Manifest.fileName]))
    (hnow : now = manifestAt? u (dir ++ [Manifest.fileName]))
    (hnames : ∀ r ∈ g.replacements previous, Path.IsFileName r.1)
    (hnodup : ((g.replacements previous).map (·.1)).Nodup)
    (horphans : ∀ name ∈ g.orphans previous, name ≠ Manifest.fileName)
    (hsplit : g.replacements previous = done ++ rest)
    (hdone : changedAll output done t = (.ok (), t')) (h : PartlyBrings t dir done u) :
    (changedAll output (g.replacements now) u).1 =
        (changedAll output (g.replacements previous) t).1 ∧
      SameOutside (fun _ => False) (changedAll output (g.replacements previous) t).2
        (changedAll output (g.replacements now) u).2 := by
  rcases manifestIn_of_partlyBrings hg hnodup horphans hsplit h with ⟨rfl, hfront⟩ | hsame
  · -- The manifest has been begun, so all is done, and from now on nothing is left over.
    rw [List.append_nil] at hsplit
    have hfront : now = none ∨ now = some g.manifest := by
      rw [hnow]
      exact hfront.imp manifestAt?_of_manifestIn manifestAt?_of_manifestIn
    have hwritten : g.replacements now = g.replacements none := by
      rw [replacements_eq_append, orphans_eq_nil hg hfront]
      cases g.options.clean with
      | true => rfl
      | false => rfl
    have hparts := replacements_eq_append g previous
    have hremoved : ∀ r ∈ (if g.options.clean then (g.orphans previous).map
        fun name => ((name, none) : Replacement) else []), r.2 = none := by
      intro r hr
      split at hr
      · obtain ⟨name, -, rfl⟩ := List.mem_map.1 hr
        rfl
      · cases hr
    rw [← hsplit] at hdone h
    rw [hparts] at hnames hnodup hdone h
    rw [hwritten, hparts, hdone]
    exact changedAll_of_removed hremoved hnames hnodup hdir hdone h
  · -- The manifest has not been begun, so it calls for the same changes.
    have hsame : now = previous := by
      rw [hnow, hprevious, manifestAt?, manifestAt?, hsame]
    rw [hsame, hsplit]
    rw [hsplit] at hnames
    exact changedAll_again hnames hdir hdone h.sameOutside

end

/-! ## The manifest that is read again -/

variable {package : String} {schema : Schema} {options : Options}
  {transcript transcript' : Transcript} {previous : Option Manifest}

section

variable [Host]

theorem tracks_readManifest (p : Path) :
    Tracks (readManifest p : ExceptT FileError Interruptible _).run
      (readManifest p : ExceptT FileError (StateM FileTree) _).run := by
  refine (Files.tracks_kindOf? p).except_bind fun kind => ?_
  cases kind with
  | none => exact tracks_pure _
  | some kind =>
    refine (Files.tracks_readBytes p).except_bind fun content => ?_
    cases Manifest.ofBytes? content with
    | error limit => exact tracks_pure _
    | ok found => exact tracks_pure _

theorem looks_readManifest (p : Path) :
    Looks (readManifest p : ExceptT FileError Interruptible _).run := by
  refine (Files.looks_kindOf? p).except_bind fun kind => ?_
  cases kind with
  | none => exact looks_pure _
  | some kind =>
    refine (Files.looks_readBytes p).except_bind fun content => ?_
    cases Manifest.ofBytes? content with
    | error limit => exact looks_pure _
    | ok found => exact looks_pure _

theorem tracks_findPrevious (output : Path) (options : Options) :
    Program.Tracks (findPrevious output options) (findPrevious output options) := by
  rw [findPrevious, findPrevious]
  split
  · exact Program.tracks_files (tracks_readManifest _)
  · exact Program.tracks_pure none

theorem eq_of_leaves_findPrevious
    (h : Program.Leaves (findPrevious output options) transcript t u) : u = t := by
  rw [findPrevious] at h
  split at h
  · exact (looks_readManifest _).eq (Program.leaves_files h)
  · exact Program.eq_of_leaves_pure h

/-! ## Runs of the writer that are stopped -/

omit [Host] in
theorem tracks_requireRecord (schema : Schema) :
    Program.Tracks (requireRecord schema) (requireRecord schema) := by
  rw [requireRecord, requireRecord]
  split
  · exact Program.tracks_pure ()
  · exact Program.tracks_throw _

omit [Host] in
theorem eq_of_leaves_requireRecord (h : Program.Leaves (requireRecord schema) transcript t u) :
    u = t := by
  rw [requireRecord] at h
  split at h
  · exact Program.eq_of_leaves_pure h
  · exact Program.eq_of_leaves_throw h

/-- The writer is stopped in its directory before it changes anything, or while it makes its
changes. -/
theorem of_leaves_writeInto (hdir : t.HasDirectory output dir)
    (h : Program.Leaves (writeInto package schema output options) transcript t u) :
    u = t ∨ ∃ g, ofSchema package schema output options = .ok g ∧ schema.isRecordable = true ∧
      Program.runOn (findPrevious output options) transcript t =
        ((.ok (if options.clean then manifestAt? t (dir ++ [Manifest.fileName]) else none),
          transcript), t) ∧
      Leaves (applyAll (g.changes (manifestAt? t (dir ++ [Manifest.fileName]))) :
        ExceptT FileError Interruptible Unit).run t u := by
  rcases Program.leaves_bind (Program.tracks_ofExcept _ _) h with
    hschema | ⟨g, _, _, hschema, hafterSchema⟩
  · exact Or.inl (Program.eq_of_leaves_ofExcept hschema)
  obtain ⟨hg, rfl, rfl⟩ := Program.of_runOn_ofExcept_eq_ok hschema
  rcases Program.leaves_bind (tracks_requireRecord schema) hafterSchema with
    hrequired | ⟨_, _, _, hrequired, hafterRecord⟩
  · exact Or.inl (eq_of_leaves_requireRecord hrequired)
  obtain ⟨hrecord, rfl, rfl⟩ := of_runOn_requireRecord hrequired
  rcases Program.leaves_bind (tracks_findPrevious output options) hafterRecord with
    hfound | ⟨previous, _, _, hfound, hafterFound⟩
  · exact Or.inl (eq_of_leaves_findPrevious hfound)
  obtain ⟨-, rfl, rfl, rfl⟩ := of_runOn_findPrevious hdir hfound
  have hchanges := Program.leaves_of_leaves_bind
    (fun _ _ _ _ hpure => Program.eq_of_leaves_pure hpure) hafterFound
  rw [changes_if_clean hg] at hchanges
  exact Or.inr ⟨g, hg, hrecord, hfound, Program.leaves_files hchanges⟩

/-- Two runs that leave the same tree and either both fail or both give the same. -/
structure SameOutcome (r r' : (Except Failure (List Path) × Transcript) × FileTree) : Prop where
  toOption_eq : r.1.1.toOption = r'.1.1.toOption
  current_eq : r.2.current = r'.2.current
  get?_eq : ∀ place, r.2.get? place = r'.2.get? place

omit [Host] in
theorem SameOutcome.refl (r : (Except Failure (List Path) × Transcript) × FileTree) :
    SameOutcome r r :=
  ⟨rfl, rfl, fun _ => rfl⟩

/-- In its directory, the writer does the same from what a stopped run of it has left. -/
theorem writeInto_again (h : WrittenBefore t output)
    (hdir : t.HasDirectory output (t.destination output))
    (hleaves : Program.Leaves (writeInto package schema output options) transcript t u) :
    u.HasDirectory output (t.destination output) ∧
      SameOutcome (Program.runOn (writeInto package schema output options) transcript u)
        (Program.runOn (writeInto package schema output options) transcript t) := by
  rcases of_leaves_writeInto hdir hleaves with rfl | ⟨g, hg, hrecord, hfound, hchanges⟩
  · exact ⟨hdir, .refl _⟩
  have hnames := hasNames_of_ofSchema hg
  rw [changes_eq_map, (output_of_ofSchema hg).1] at hchanges
  have hreads := h.readsPrevious
  have hfileNames := fun r hr => hreads.isFileName_replacements hnames (r := r) hr
  have hnodup := hreads.nodup_replacements hnames
  obtain ⟨done, rest, t', hsplit, hdone, hpartly⟩ :=
    exists_of_leaves_applyAll hfileNames hnodup hdir hchanges
  have horphans := fun (name : String) (hname : name ∈ _) =>
    (hreads.of_mem_orphans hnames hname).2.2
  have hin : options.clean = true → manifestIn u (t.destination output ++ [Manifest.fileName]) =
      .ok (manifestAt? u (t.destination output ++ [Manifest.fileName])) := by
    intro hclean
    rw [manifestAt?]
    rcases manifestIn_of_partlyBrings hnames hnodup horphans hsplit hpartly with
      ⟨-, hnow | hnow⟩ | hsame
    · rw [hnow]
    · rw [hnow]
    · rw [hsame, (of_runOn_findPrevious hdir hfound).1 hclean]
  have hfoundNow :=
    runOn_findPrevious_of_sameDirectories hdir hpartly.sameOutside.toSameDirectories hin hfound
  refine ⟨hpartly.sameOutside.hasDirectory hdir, ?_⟩
  obtain ⟨hresult, hsame⟩ := changedAll_replacements_again hnames hdir rfl rfl hfileNames hnodup
    horphans hsplit hdone hpartly
  rw [runOn_writeInto_replacements hg hrecord hfoundNow,
    runOn_writeInto_replacements hg hrecord hfound]
  rcases hnow : changedAll output _ u with ⟨result, u'⟩
  rcases hthen : changedAll output _ t with ⟨result', t''⟩
  rw [hnow, hthen] at hresult hsame
  obtain rfl : result = result' := hresult
  have hplaces : ∀ place, u'.get? place = t''.get? place := fun place =>
    hsame.get?_eq place not_false
  rcases result with e | _
  · exact ⟨rfl, hsame.current_eq, hplaces⟩
  · exact ⟨rfl, hsame.current_eq, hplaces⟩

/-- A schema with two domains that hold nothing. -/
def storageSchema : Schema :=
  { version := "tot", domains := [{ name := "Page" }, { name := "DOM" }] }

/-- Where the manifest, if there is one, was written by an earlier run, a run of the writer that is
stopped after any number of changes, in the middle of a file if need be, is made good by another run
with the same arguments: it leaves what a single run would have left, and has the same outcome. -/
theorem write_again (h : WrittenBefore t output) (package : String) (schema : Schema)
    (options : Options) (changes : Nat) (begun : Option Nat) :
    SameOutcome
      (Program.runOn (write package schema output options) {}
        ((write package schema output options).treeStopped changes begun t))
      (Program.runOn (write package schema output options) {} t) := by
  have hleaves := Program.leaves_treeStopped (write package schema output options) changes begun t
  generalize (write package schema output options).treeStopped changes begun t = u at hleaves ⊢
  rw [write_eq_bind] at hleaves
  rw [runOn_write u, runOn_write t]
  have hmakes := Program.tracks_files (Files.tracks_ensureDirectories output.steps.length output)
  rcases Program.leaves_bind hmakes hleaves with
    hmaking | ⟨_, transcript, t₁, hmade, hwriting⟩
  · -- The run has been stopped on the way to its directory.
    have hsame := Files.SameMade.of_leaves (Program.leaves_files hmaking)
    rcases hnow : Files.madeAll output.steps.length output u with ⟨result, u'⟩
    rcases hthen : Files.madeAll output.steps.length output t with ⟨result', t'⟩
    rw [hnow, hthen] at hsame
    obtain rfl : u' = t' := hsame.tree_eq
    have hok : result = .ok () ↔ result' = .ok () := hsame.ok_iff
    rcases result with e | _
    · rcases result' with e' | _
      · exact ⟨rfl, rfl, fun _ => rfl⟩
      · cases hok.2 rfl
    · obtain rfl := hok.1 rfl
      exact .refl _
  · -- The run has been stopped in its directory.
    obtain ⟨hrun, rfl⟩ := Program.of_runOn_files_eq_ok hmade
    have hdir := hasDirectory_withDirectories hrun
    have hadds := addsDirectories_withDirectories t output
    rw [withDirectories_eq hrun] at hdir hadds
    rw [← destination_congr hadds.current_eq] at hdir
    obtain ⟨hdir', hagain⟩ := writeInto_again (h.of_addsDirectories hadds) hdir hwriting
    have hmade' : Files.madeAll output.steps.length output t = (.ok (), t₁) := hrun
    rw [Files.madeAll_of_hasDirectory hdir', hmade']
    exact hagain

end

/-- A package of two modules has been written.  The run that reduces it to one of them is stopped
when it has removed the other and written three bytes of the first file. -/
theorem write_again_storage :
    ∃ t, (Program.runOn (write "rpc" storageSchema (.ofText "out") {}) {} {}).2 = t ∧
      (Program.runOn (write "rpc" storageSchema (.ofText "out") {}) {} {}).1.1.isOk = true ∧
      WrittenBefore t (.ofText "out") ∧
      SameOutcome
        (Program.runOn (write "rpc" pageSchema (.ofText "out") {}) {}
          ((write "rpc" pageSchema (.ofText "out") {}).treeStopped 1 (some 3) t))
        (Program.runOn (write "rpc" pageSchema (.ofText "out") {}) {} t) := by
  have hok : (Program.runOn (write "rpc" storageSchema (.ofText "out") {}) {} {}).1.1.isOk =
      true := by
    decide +kernel
  have hstart : WrittenBefore {} (.ofText "out") := by
    intro content hfile
    cases hfile
  refine ⟨_, rfl, hok, ?_⟩
  rcases hrun : Program.runOn (write "rpc" storageSchema (.ofText "out") {}) {} {} with
    ⟨⟨e | paths, transcript⟩, t⟩
  · rw [hrun] at hok
    cases hok
  · have hwritten := hstart.of_write_eq_ok hrun
    exact ⟨hwritten, write_again hwritten "rpc" pageSchema {} 1 (some 3)⟩

end ProtocolBindings.Generation
