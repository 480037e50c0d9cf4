import ProtocolBindings.Proofs.Files.Remaking
import ProtocolBindings.Proofs.Generation.Congruence

/-!
# Runs of the writer

A manifest that is written to a file is read back.  A run of the writer that succeeds makes the
directory, reads the manifest of the previous run and carries out the changes.  One that fails for
any reason but a file has only made the directory.
-/

namespace ProtocolBindings

namespace Generation

open FileTree

variable {t t' u : FileTree} {output p : Path} {dir place : List String}
  {previous : Option Manifest} {g : Generation} {package : String} {schema : Schema}
  {options : Options} {transcript transcript' : Transcript}

theorem runOn_requireRecord (schema : Schema) (transcript : Transcript) (t : FileTree) :
    Program.runOn (requireRecord schema) transcript t =
      ((if schema.isRecordable then .ok () else .error .unrecordable, transcript), t) := by
  rw [requireRecord]
  cases schema.isRecordable with
  | true => rfl
  | false => rfl

/-- A schema that has passed the demand has a record. -/
theorem of_runOn_requireRecord {r : Unit}
    (h : Program.runOn (requireRecord schema) transcript t = ((.ok r, transcript'), t')) :
    schema.isRecordable = true ∧ transcript = transcript' ∧ t = t' := by
  rw [runOn_requireRecord] at h
  split at h
  · rename_i hrecord
    obtain ⟨hresult, rfl⟩ := Prod.mk.inj h
    exact ⟨hrecord, (Prod.mk.inj hresult).2, rfl⟩
  · cases (Prod.mk.inj (Prod.mk.inj h).1).1

/-- Without cleaning up the changes do not depend on the manifest. -/
theorem changes_if_clean (hg : ofSchema package schema output options = .ok g)
    (m : Option Manifest) : g.changes (if options.clean then m else none) = g.changes m := by
  rw [← (output_of_ofSchema hg).2]
  cases hclean : g.options.clean with
  | true => rfl
  | false =>
    rw [changes, changes, hclean]
    rfl

section

variable [Host]

theorem run_readManifest (t : FileTree) (p : Path) :
    (readManifest p : ExceptT FileError (StateM FileTree) _).run.run t =
      (match t.kindAt? p with
        | .error e => .error e
        | .ok none => .ok none
        | .ok (some _) =>
          t.readBytes p >>= fun content =>
            (Manifest.ofBytes? content).mapError fun limit => ⟨.beyond limit, p.text⟩, t) := by
  rw [readManifest, run_bind, run_kindOf?]
  rcases t.kindAt? p with e | _ | kind
  · rfl
  · rfl
  · simp only
    rw [run_bind, Files.run_readBytes]
    rcases t.readBytes p with e | content
    · rfl
    · change (_, _) = ((Manifest.ofBytes? content).mapError _, t)
      cases Manifest.ofBytes? content with
      | error limit => rfl
      | ok found => rfl

/-- What reading the manifest at a place comes to: a file there may be beyond a limit. -/
def manifestIn (t : FileTree) (place : List String) : Except Limit (Option Manifest) :=
  match t.get? place with
  | some (.file content) => Manifest.ofBytes? content
  | _ => .ok none

/-- The manifest at a place, if there is a file there and it holds one. -/
def manifestAt? (t : FileTree) (place : List String) : Option Manifest :=
  match manifestIn t place with
  | .ok found => found
  | .error _ => none

theorem manifestAt?_of_manifestIn {found : Option Manifest} (h : manifestIn t place = .ok found) :
    manifestAt? t place = found := by
  rw [manifestAt?, h]

theorem manifestIn_congr (h : t.get? place = t'.get? place) :
    manifestIn t place = manifestIn t' place := by
  rw [manifestIn, manifestIn, h]

theorem manifestAt?_congr (h : t.get? place = t'.get? place) :
    manifestAt? t place = manifestAt? t' place := by
  rw [manifestAt?, manifestAt?, manifestIn_congr h]

theorem manifestIn_of_toText {m : Manifest} (h : t.get? place = some (.file m.toText.toUTF8)) :
    manifestIn t place = .ok (some m) := by
  rw [manifestIn, h]
  exact m.ofBytes?_toText

theorem manifestAt?_of_toText {m : Manifest} (h : t.get? place = some (.file m.toText.toUTF8)) :
    manifestAt? t place = some m :=
  manifestAt?_of_manifestIn (manifestIn_of_toText h)

theorem manifestIn_of_no_file (h : ∀ content, t.get? place ≠ some (.file content)) :
    manifestIn t place = .ok none := by
  rw [manifestIn]
  split
  · rename_i content hfile
    exact absurd hfile (h content)
  · rfl

/-- Reading a manifest reads the file at the place of the path, if there is no directory. -/
theorem run_readManifest_of_placeOf (hplace : t.placeOf p = .ok place)
    (h : t.get? place ≠ some .directory) :
    (readManifest p : ExceptT FileError (StateM FileTree) _).run.run t =
      ((manifestIn t place).mapError fun limit => ⟨.beyond limit, p.text⟩, t) := by
  rw [run_readManifest, manifestIn]
  rcases hentry : t.get? place with _ | content | _
  · rw [kindAt?_of_get?_eq_none hplace hentry]
    rfl
  · have hkind : t.kindAt? p = .ok (some .file) :=
      kindAt?_eq_some_iff.2 (kindOf_eq_ok_iff.2 ⟨place, hplace, content, hentry⟩)
    rw [hkind, readBytes_eq_ok_iff.2 ⟨place, hplace, hentry⟩]
    rfl
  · exact absurd hentry h

/-- Where a file can be written, a manifest that is written there is read back. -/
theorem readManifest_writeText (hplace : t.placeOf p = .ok place)
    (h : t.get? place ≠ some .directory) (m : Manifest) :
    ∃ t', (Files.writeText p m.toText : ExceptT FileError (StateM FileTree) Unit).run.run t =
        (.ok (), t') ∧
      (readManifest p : ExceptT FileError (StateM FileTree) _).run.run t' = (.ok (some m), t') := by
  have hne : place ≠ [] := by
    rintro rfl
    exact h rfl
  have hwrite : t.writeBytes p m.toText.toUTF8 = .ok (t.put place (.file m.toText.toUTF8)) :=
    writeBytes_eq_ok_iff.2 ⟨place, hplace, h, rfl⟩
  have hreplaces := replaces_of_writeBytes hplace hne hwrite
  have hplace' : (t.put place (.file m.toText.toUTF8)).placeOf p = .ok place :=
    placeOf_mono hreplaces.current_eq (fun _ => hreplaces.get?_directory) hplace
  have hentry := hreplaces.get?_self
  refine ⟨t.put place (.file m.toText.toUTF8), ?_, ?_⟩
  · rw [Files.run_writeText, hwrite]
  · rw [run_readManifest_of_placeOf hplace' (by rw [hentry]; simp), manifestIn_of_toText hentry]
    rfl

end

/-- A manifest with a path that is recorded twice, a text that needs escapes and a file of no
domain. -/
def sampleManifest : Manifest where
  protocolVersion := "tot"
  package := "a \"b\"\r\n😀"
  schemaHash := ""
  outputs := [{ path := "Page.py", hash := "1", domain := some "Page" }, { path := "", hash := "" },
    { path := "Page.py", hash := "2" }]

theorem readManifest_writeText_sample :
    ∃ t', (Files.writeText (.ofText "m.json") sampleManifest.toText :
        ExceptT FileError (StateM FileTree) Unit).run.run {} = (.ok (), t') ∧
      (readManifest (.ofText "m.json") : ExceptT FileError (StateM FileTree) _).run.run t' =
        (.ok (some sampleManifest), t') := by
  have hplace : FileTree.placeOf {} (.ofText "m.json") = .ok ["m.json"] := rfl
  have hfree : FileTree.get? {} ["m.json"] ≠ some .directory := by
    intro hentry
    cases hentry
  exact readManifest_writeText hplace hfree sampleManifest

variable [Host]

/-- The manifest of a directory can be read only where its path can be followed and leads to no
directory. -/
theorem placeOf_of_readManifest_eq_ok (hdir : t.HasDirectory output dir)
    (h : (readManifest (manifestPath output) : ExceptT FileError (StateM FileTree) _).run.run t =
      (.ok previous, t')) :
    t.placeOf (manifestPath output) = .ok (dir ++ [Manifest.fileName]) ∧
      t.get? (dir ++ [Manifest.fileName]) ≠ some .directory := by
  rw [run_readManifest] at h
  have hread := (Prod.mk.inj h).1
  have hplace : t.placeOf (manifestPath output) = .ok (dir ++ [Manifest.fileName]) := by
    rw [manifestPath] at hread ⊢
    rcases placeOf_joinText Manifest.isFileName_fileName hdir.placeOf_eq hdir.get?_eq with
      hplace | hplace
    · exact hplace
    · rw [kindAt?, kindOf, hplace] at hread
      cases hread
  refine ⟨hplace, fun hentry => ?_⟩
  have hkind : t.kindAt? (manifestPath output) = .ok (some .directory) :=
    kindAt?_eq_some_iff.2 (kindOf_eq_ok_iff.2 ⟨_, hplace, hentry⟩)
  rw [hkind] at hread
  obtain ⟨content, hcontent, -⟩ := Results.bind_eq_ok_iff.1 hread
  obtain ⟨_, hsame, hfile⟩ := readBytes_eq_ok_iff.1 hcontent
  rw [hplace] at hsame
  rw [← Except.ok.inj hsame, hentry] at hfile
  cases hfile

/-- Reading the manifest of a directory reads the file at the place of its name. -/
theorem manifestIn_of_readManifest (hdir : t.HasDirectory output dir)
    (h : (readManifest (manifestPath output) : ExceptT FileError (StateM FileTree) _).run.run t =
      (.ok previous, t')) :
    manifestIn t (dir ++ [Manifest.fileName]) = .ok previous ∧ t' = t := by
  obtain ⟨hplace, hentry⟩ := placeOf_of_readManifest_eq_ok hdir h
  rw [run_readManifest_of_placeOf hplace hentry] at h
  obtain ⟨hprevious, rfl⟩ := Prod.mk.inj h
  exact ⟨Results.mapError_eq_ok_iff.1 hprevious, rfl⟩

/-! ## The writer in its directory -/

def findPrevious {m : Type → Type} [Monad m] [FileSystem m] (output : Path) (options : Options) :
    Program m (Option Manifest) :=
  if options.clean then Program.files (readManifest (manifestPath output)) else pure none

/-- Where the manifest can be read, it can be read in every tree with the same directories in which
it is within the limits. -/
theorem runOn_findPrevious_of_sameDirectories {now : Option Manifest}
    (hdir : t.HasDirectory output dir) (h : t.SameDirectories u)
    (hnow : options.clean = true → manifestIn u (dir ++ [Manifest.fileName]) = .ok now)
    (hfound : Program.runOn (findPrevious output options) transcript t =
      ((.ok previous, transcript'), t')) :
    Program.runOn (findPrevious output options) transcript u =
      ((.ok (if options.clean then now else none), transcript), u) := by
  rw [findPrevious] at hfound ⊢
  split
  · rename_i hclean
    rw [hclean, if_pos rfl] at hfound
    obtain ⟨hplace, hentry⟩ :=
      placeOf_of_readManifest_eq_ok hdir (Program.of_runOn_files_eq_ok hfound).1
    rw [Program.runOn_files,
      run_readManifest_of_placeOf (h.placeOf_iff.2 hplace) ((h.get?_iff _).not.2 hentry),
      hnow hclean]
    rfl
  · rfl

/-- The manifest that has been found is the one in the directory. -/
theorem of_runOn_findPrevious (hdir : t.HasDirectory output dir)
    (hfound : Program.runOn (findPrevious output options) transcript t =
      ((.ok previous, transcript'), t')) :
    (options.clean = true → manifestIn t (dir ++ [Manifest.fileName]) = .ok previous) ∧
      previous = (if options.clean then manifestAt? t (dir ++ [Manifest.fileName]) else none) ∧
      transcript = transcript' ∧ t = t' := by
  rw [findPrevious] at hfound
  split at hfound
  · rename_i hclean
    obtain ⟨hread, rfl⟩ := Program.of_runOn_files_eq_ok hfound
    obtain ⟨hin, rfl⟩ := manifestIn_of_readManifest hdir hread
    rw [if_pos hclean]
    exact ⟨fun _ => hin, (manifestAt?_of_manifestIn hin).symm, rfl, rfl⟩
  · rename_i hclean
    obtain ⟨hresult, rfl⟩ := Prod.mk.inj hfound
    obtain ⟨hprevious, rfl⟩ := Prod.mk.inj hresult
    rw [if_neg hclean]
    exact ⟨fun h => absurd h hclean, (Except.ok.inj hprevious).symm, rfl, rfl⟩

/-- Only a file is in the way of finding the manifest, and looking for it leaves the tree as it
is. -/
theorem of_runOn_findPrevious_eq_error {failure : Failure}
    (h : Program.runOn (findPrevious output options) transcript t =
      ((.error failure, transcript'), t')) :
    ∃ e, failure = .file e ∧ t' = t := by
  rw [findPrevious] at h
  split at h
  · obtain ⟨e, he, hread⟩ := Program.run_of_runOn_files_eq_error h
    rw [run_readManifest] at hread
    exact ⟨e, he, (Prod.mk.inj hread).2.symm⟩
  · cases (Prod.mk.inj (Prod.mk.inj h).1).1

/-- What the writer does in its directory. -/
def writeInto {m : Type → Type} [Monad m] [FileSystem m] (package : String) (schema : Schema)
    (output : Path) (options : Options) : Program m (List Path) := do
  let g ← Program.ofExcept .generation (ofSchema package schema output options)
  requireRecord schema
  let previous ← findPrevious output options
  Program.files (applyAll (g.changes previous))
  return g.writtenFiles.map (·.1)

/-- Once the manifest has been found, the outcome of the writer is that of its changes. -/
theorem runOn_writeInto (hg : ofSchema package schema output options = .ok g)
    (hrecord : schema.isRecordable = true)
    (hfound : Program.runOn (findPrevious output options) transcript t =
      ((.ok previous, transcript), t)) :
    Program.runOn (writeInto package schema output options) transcript t =
      match (applyAll (g.changes previous) :
        ExceptT FileError (StateM FileTree) Unit).run.run t with
      | (.ok _, t') => ((.ok (g.writtenFiles.map (·.1)), transcript), t')
      | (.error e, t') => ((.error (.file e), transcript), t') := by
  rw [writeInto, Program.runOn_bind, Program.runOn_ofExcept, hg]
  simp only [Except.mapError]
  rw [Program.runOn_bind, runOn_requireRecord, if_pos hrecord]
  simp only
  rw [Program.runOn_bind, hfound]
  simp only
  rw [Program.runOn_bind, Program.runOn_files]
  rcases (applyAll (g.changes previous) : ExceptT FileError (StateM FileTree) Unit).run.run t
    with ⟨e | _, t'⟩
  · rfl
  · rfl

/-- Once the manifest has been found, the outcome of the writer is that of its replacements. -/
theorem runOn_writeInto_replacements (hg : ofSchema package schema output options = .ok g)
    (hrecord : schema.isRecordable = true) {m : Option Manifest}
    (hfound : Program.runOn (findPrevious output options) transcript t =
      ((.ok (if options.clean then m else none), transcript), t)) :
    Program.runOn (writeInto package schema output options) transcript t =
      match changedAll output (g.replacements m) t with
      | (.ok _, t') => ((.ok (g.writtenFiles.map (·.1)), transcript), t')
      | (.error e, t') => ((.error (.file e), transcript), t') := by
  rw [runOn_writeInto hg hrecord hfound, changes_if_clean hg, changes_eq_map,
    (output_of_ofSchema hg).1, ← changedAll]
  rfl

/-- A run of the writer that succeeds in its directory has shown nothing, and has carried out the
changes for the manifest that it has found there. -/
theorem exists_of_runOn_writeInto_eq_ok {paths : List Path} (hdir : t.HasDirectory output dir)
    (h : Program.runOn (writeInto package schema output options) transcript t =
      ((.ok paths, transcript'), t')) :
    ∃ g, ofSchema package schema output options = .ok g ∧ schema.isRecordable = true ∧
      Program.runOn (findPrevious output options) transcript t =
        ((.ok (if options.clean then manifestAt? t (dir ++ [Manifest.fileName]) else none),
          transcript), t) ∧
      (applyAll (g.changes (manifestAt? t (dir ++ [Manifest.fileName]))) :
        ExceptT FileError (StateM FileTree) Unit).run.run t = (.ok (), t') ∧
      paths = g.writtenFiles.map (·.1) ∧ transcript = transcript' := by
  obtain ⟨g, _, _, hschema, hafterSchema⟩ := Program.exists_of_runOn_bind_eq_ok h
  obtain ⟨hg, rfl, rfl⟩ := Program.of_runOn_ofExcept_eq_ok hschema
  obtain ⟨_, _, _, hrequired, hafterRecord⟩ := Program.exists_of_runOn_bind_eq_ok hafterSchema
  obtain ⟨hrecord, rfl, rfl⟩ := of_runOn_requireRecord hrequired
  obtain ⟨previous, _, _, hfound, -⟩ := Program.exists_of_runOn_bind_eq_ok hafterRecord
  obtain ⟨-, rfl, rfl, rfl⟩ := of_runOn_findPrevious hdir hfound
  rw [runOn_writeInto hg hrecord hfound, changes_if_clean hg] at h
  rcases happly : (applyAll (g.changes (manifestAt? t (dir ++ [Manifest.fileName]))) :
    ExceptT FileError (StateM FileTree) Unit).run.run t with ⟨e | _, t₁⟩
  · rw [happly] at h
    cases (Prod.mk.inj (Prod.mk.inj h).1).1
  · rw [happly] at h
    obtain ⟨hresult, rfl⟩ := Prod.mk.inj h
    obtain ⟨hpaths, rfl⟩ := Prod.mk.inj hresult
    exact ⟨g, hg, hrecord, hfound, happly, (Except.ok.inj hpaths).symm, rfl⟩

/-- A run of the writer that fails in its directory has generated nothing, or the schema has no
record, or a file is in the way.  Only in the last case it has changed something, if the file has
put an end to its changes. -/
theorem of_runOn_writeInto_eq_error {failure : Failure} (hdir : t.HasDirectory output dir)
    (h : Program.runOn (writeInto package schema output options) transcript t =
      ((.error failure, transcript'), t')) :
    (∃ e, ofSchema package schema output options = .error e ∧ failure = .generation e ∧ t' = t) ∨
      ∃ g, ofSchema package schema output options = .ok g ∧
        (failure = .unrecordable ∧ t' = t ∨
          ∃ e, failure = .file e ∧ (t' = t ∨
            (applyAll (g.changes (manifestAt? t (dir ++ [Manifest.fileName]))) :
              ExceptT FileError (StateM FileTree) Unit).run.run t = (.error e, t'))) := by
  rcases Program.exists_of_runOn_bind_eq_error h with hschema | ⟨g, _, _, hschema, hafterSchema⟩
  · exact Or.inl (Program.of_runOn_ofExcept_eq_error hschema)
  obtain ⟨hg, rfl, rfl⟩ := Program.of_runOn_ofExcept_eq_ok hschema
  refine Or.inr ⟨g, hg, ?_⟩
  rcases Program.exists_of_runOn_bind_eq_error hafterSchema with
    hrequired | ⟨_, _, _, hrequired, hafterRecord⟩
  · rw [runOn_requireRecord] at hrequired
    obtain ⟨hresult, rfl⟩ := Prod.mk.inj hrequired
    refine Or.inl ⟨?_, rfl⟩
    split at hresult
    · cases (Prod.mk.inj hresult).1
    · exact (Except.error.inj (Prod.mk.inj hresult).1).symm
  obtain ⟨-, rfl, rfl⟩ := of_runOn_requireRecord hrequired
  rcases Program.exists_of_runOn_bind_eq_error hafterRecord with
    hfound | ⟨previous, _, _, hfound, hafterFound⟩
  · obtain ⟨e, he, rfl⟩ := of_runOn_findPrevious_eq_error hfound
    exact Or.inr ⟨e, he, Or.inl rfl⟩
  obtain ⟨-, rfl, rfl, rfl⟩ := of_runOn_findPrevious hdir hfound
  rcases Program.exists_of_runOn_bind_eq_error hafterFound with happly | ⟨_, _, _, -, hend⟩
  · obtain ⟨e, he, happly⟩ := Program.run_of_runOn_files_eq_error happly
    rw [changes_if_clean hg] at happly
    exact Or.inr ⟨e, he, Or.inr happly⟩
  · cases (Prod.mk.inj (Prod.mk.inj hend).1).1

/-! ## The whole writer -/

theorem write_eq_bind {m : Type → Type} [Monad m] [LawfulMonad m] [FileSystem m] :
    (write package schema output options : Program m (List Path)) =
      Program.files (Files.makeDirectories output) >>= fun _ =>
        writeInto package schema output options := by
  rw [write]
  simp only [writeInto, findPrevious]
  cases options.clean with
  | true => rfl
  | false => simp only [Bool.false_eq_true, if_false, pure_bind]

theorem runOn_write (t : FileTree) :
    Program.runOn (write package schema output options) transcript t =
      match Files.madeAll output.steps.length output t with
      | (.ok _, t') => Program.runOn (writeInto package schema output options) transcript t'
      | (.error e, t') => ((.error (.file e), transcript), t') := by
  rw [write_eq_bind, Program.runOn_bind, Program.runOn_files, Files.makeDirectories,
    ← Files.madeAll]
  rcases Files.madeAll output.steps.length output t with ⟨e | _, t'⟩
  · rfl
  · rfl

/-- A run of the writer that succeeds has made its directory, and has succeeded in it. -/
theorem writeInto_of_write_eq_ok {paths : List Path}
    (h : Program.runOn (write package schema output options) transcript t =
      ((.ok paths, transcript'), t')) :
    (t.withDirectories output).HasDirectory output (t.destination output) ∧
      Program.runOn (writeInto package schema output options) transcript
        (t.withDirectories output) = ((.ok paths, transcript'), t') := by
  rw [write_eq_bind] at h
  obtain ⟨_, _, t₁, hmake, hinto⟩ := Program.exists_of_runOn_bind_eq_ok h
  obtain ⟨hmade, rfl⟩ := Program.of_runOn_files_eq_ok hmake
  have hdir := hasDirectory_withDirectories hmade
  obtain rfl := withDirectories_eq hmade
  exact ⟨hdir, hinto⟩

/-- A run of the writer that fails has found a file in the way of its directory, or it has made its
directory, and has failed in it. -/
theorem writeInto_of_write_eq_error {failure : Failure}
    (h : Program.runOn (write package schema output options) transcript t =
      ((.error failure, transcript'), t')) :
    (∃ e, failure = .file e ∧ t' = t.withDirectories output) ∨
      (Files.makeDirectories output : ExceptT FileError (StateM FileTree) Unit).run.run t =
          (.ok (), t.withDirectories output) ∧
        Program.runOn (writeInto package schema output options) transcript
          (t.withDirectories output) = ((.error failure, transcript'), t') := by
  rw [write_eq_bind] at h
  rcases Program.exists_of_runOn_bind_eq_error h with hmake | ⟨_, _, t₁, hmake, hinto⟩
  · obtain ⟨e, he, hmake⟩ := Program.run_of_runOn_files_eq_error hmake
    exact Or.inl ⟨e, he, (withDirectories_eq hmake).symm⟩
  · obtain ⟨hmade, rfl⟩ := Program.of_runOn_files_eq_ok hmake
    obtain rfl := withDirectories_eq hmade
    exact Or.inr ⟨hmade, hinto⟩

/-- What a run of the writer that succeeds has done: it has made the directory, and carried out
the changes for the manifest that it has found there. -/
theorem exists_of_write_eq_ok {paths : List Path}
    (h : Program.runOn (write package schema output options) transcript t =
      ((.ok paths, transcript'), t')) :
    (t.withDirectories output).HasDirectory output (t.destination output) ∧
      ∃ g, ofSchema package schema output options = .ok g ∧
        (applyAll (g.changes (manifestAt? (t.withDirectories output)
            (t.destination output ++ [Manifest.fileName]))) :
          ExceptT FileError (StateM FileTree) Unit).run.run (t.withDirectories output) =
            (.ok (), t') ∧
        paths = g.writtenFiles.map (·.1) := by
  obtain ⟨hdir, hinto⟩ := writeInto_of_write_eq_ok h
  obtain ⟨g, hg, -, -, happly, hpaths, -⟩ := exists_of_runOn_writeInto_eq_ok hdir hinto
  exact ⟨hdir, g, hg, happly, hpaths⟩

/-- A run of the writer that fails has done no more than make the directory, or it has found the
previous manifest in it and a file has put an end to its changes. -/
theorem exists_of_write_eq_error {failure : Failure}
    (h : Program.runOn (write package schema output options) transcript t =
      ((.error failure, transcript'), t')) :
    t' = t.withDirectories output ∨
      (t.withDirectories output).HasDirectory output (t.destination output) ∧
        ∃ g e, ofSchema package schema output options = .ok g ∧
          (applyAll (g.changes (manifestAt? (t.withDirectories output)
              (t.destination output ++ [Manifest.fileName]))) :
            ExceptT FileError (StateM FileTree) Unit).run.run (t.withDirectories output) =
              (.error e, t') ∧
          failure = .file e := by
  rcases writeInto_of_write_eq_error h with ⟨-, -, htree⟩ | ⟨hmade, hinto⟩
  · exact Or.inl htree
  have hdir := hasDirectory_withDirectories hmade
  rcases of_runOn_writeInto_eq_error hdir hinto with
    ⟨-, -, -, htree⟩ | ⟨g, hg, ⟨-, htree⟩ | ⟨e, he, htree | happly⟩⟩
  · exact Or.inl htree
  · exact Or.inl htree
  · exact Or.inl htree
  · exact Or.inr ⟨hdir, g, e, hg, happly, he⟩

/-- A run of the writer that ends in an error of the generation has made its directory and done no
more, and the error is that of the package. -/
theorem of_write_eq_generation_error {e : GenerationError}
    (h : Program.runOn (write package schema output options) transcript t =
      ((.error (.generation e), transcript'), t')) :
    (Files.makeDirectories output : ExceptT FileError (StateM FileTree) Unit).run.run t =
      (.ok (), t') ∧ ofSchema package schema output options = .error e := by
  rcases writeInto_of_write_eq_error h with ⟨_, hfile, -⟩ | ⟨hmade, hinto⟩
  · cases hfile
  rcases of_runOn_writeInto_eq_error (hasDirectory_withDirectories hmade) hinto with
    ⟨e', hschema, herror, rfl⟩ | ⟨-, -, ⟨hrecord, -⟩ | ⟨_, hfile, -⟩⟩
  · obtain rfl := Failure.generation.inj herror
    exact ⟨hmade, hschema⟩
  · cases hrecord
  · cases hfile

/-- A run of the writer that gets as far as its changes leaves what they leave. -/
theorem tree_of_write {t₁ : FileTree} (hclean : options.clean = true)
    (hmake : (Files.makeDirectories output : ExceptT FileError (StateM FileTree) Unit).run.run t =
      (.ok (), t₁))
    (hg : ofSchema package schema output options = .ok g) (hrecord : schema.isRecordable = true)
    (hread : (readManifest (manifestPath output) :
      ExceptT FileError (StateM FileTree) _).run.run t₁ = (.ok previous, t₁)) :
    (Program.runOn (write package schema output options) transcript t).2 =
      ((applyAll (g.changes previous) :
        ExceptT FileError (StateM FileTree) Unit).run.run t₁).2 := by
  have hfound : Program.runOn (findPrevious output options) transcript t₁ =
      ((.ok previous, transcript), t₁) := by
    rw [findPrevious, hclean, if_pos rfl, Program.runOn_files, hread]
  rw [write_eq_bind, Program.runOn_bind, Program.runOn_files, hmake]
  simp only
  rw [runOn_writeInto hg hrecord hfound]
  rcases (applyAll (g.changes previous) : ExceptT FileError (StateM FileTree) Unit).run.run t₁
    with ⟨e | _, t'⟩
  · rfl
  · rfl

/-- A run of the writer that fails for any reason but a file has done no more than make the
directory. -/
theorem addsDirectories_of_write_eq_error {failure : Failure}
    (hfailure : ∀ e, failure ≠ .file e)
    (h : Program.runOn (write package schema output options) transcript t =
      ((.error failure, transcript'), t')) :
    t.AddsDirectories output t' := by
  rcases exists_of_write_eq_error h with rfl | ⟨-, _, e, -, -, he⟩
  · exact addsDirectories_withDirectories t output
  · exact absurd he (hfailure e)

end Generation

end ProtocolBindings
