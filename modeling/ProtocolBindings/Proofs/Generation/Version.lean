import ProtocolBindings.Proofs.Config
import ProtocolBindings.Proofs.Files.Observation
import ProtocolBindings.Proofs.Generation.Agreement
import ProtocolBindings.Proofs.Generation.Reach
import ProtocolBindings.Proofs.Simulation
import ProtocolBindings.Proofs.Source.Version

/-!
# One version throughout a run

The version that is asked for decides which file of the protocol is read, and it is the one that the
schema, the list of the domains, the documentation of the modules and the manifest name.
-/

namespace ProtocolBindings

namespace Generation

open FileTree

variable {t t' : FileTree} {p : Path} {text : String} {g : Generation}
  {changes front back : List FileChange} {r : Except FileError Unit}

/-! ## Files that have been written -/

theorem sameDirectories_of_applyAll
    (h : (applyAll changes : ExceptT FileError (StateM FileTree) Unit).run.run t = (r, t')) :
    t.SameDirectories t' := by
  induction changes generalizing t with
  | nil =>
    obtain rfl := (Prod.mk.inj h).2
    exact .refl t
  | cons first rest ih =>
    obtain ⟨r₁, t₁, hfirst, ⟨e, -, -, rfl⟩ | ⟨-, hrest⟩⟩ := applyAll_cons_cases h
    · exact sameDirectories_of_apply hfirst
    · exact (sameDirectories_of_apply hfirst).trans (ih hrest)

/-- Changes that all succeed have succeeded up to any point and behind it. -/
theorem exists_of_applyAll_append
    (h : (applyAll (front ++ back) : ExceptT FileError (StateM FileTree) Unit).run.run t =
      (.ok (), t')) :
    ∃ t₁, (applyAll front : ExceptT FileError (StateM FileTree) Unit).run.run t = (.ok (), t₁) ∧
      (applyAll back : ExceptT FileError (StateM FileTree) Unit).run.run t₁ = (.ok (), t') := by
  induction front generalizing t with
  | nil => exact ⟨t, rfl, h⟩
  | cons first front ih =>
    rw [List.cons_append] at h
    obtain ⟨r₁, t₁, hfirst, ⟨e, -, herror, -⟩ | ⟨rfl, hrest⟩⟩ := applyAll_cons_cases h
    · cases herror
    obtain ⟨t₂, hfront, hback⟩ := ih hrest
    refine ⟨t₂, ?_, hback⟩
    rw [applyAll, run_bind, hfirst]
    exact hfront

/-- A file holds the text that was written to it, if no later change is made at its place. -/
theorem readBytes_of_applyAll
    (h : (applyAll (front ++ .write p text :: back) :
      ExceptT FileError (StateM FileTree) Unit).run.run t = (.ok (), t'))
    (hback : ∀ change ∈ back, ∀ place, t.placeOf p = .ok place →
      t.placeOf change.path ≠ .ok place) :
    t'.readBytes p = .ok text.toUTF8 := by
  obtain ⟨t₁, hfront, hrest⟩ := exists_of_applyAll_append h
  obtain ⟨r₁, t₂, hwrite, ⟨e, -, herror, -⟩ | ⟨rfl, hthen⟩⟩ := applyAll_cons_cases hrest
  · cases herror
  have hsame := sameDirectories_of_applyAll hfront
  have hsame' := hsame.trans (sameDirectories_of_apply hwrite)
  obtain ⟨place, hplace, hfile⟩ : ∃ place, t₁.placeOf p = .ok place ∧
      t₂.get? place = some (.file text.toUTF8) := by
    change (Files.writeText p text : ExceptT FileError (StateM FileTree) Unit).run.run t₁ = _
      at hwrite
    rw [Files.run_writeText] at hwrite
    cases hbytes : t₁.writeBytes p text.toUTF8 with
    | error e =>
      rw [hbytes] at hwrite
      cases (Prod.mk.inj hwrite).1
    | ok written =>
      rw [hbytes] at hwrite
      obtain rfl := (Prod.mk.inj hwrite).2
      obtain ⟨place, hplace, hfree, rfl⟩ := writeBytes_eq_ok_iff.1 hbytes
      refine ⟨place, hplace, get?_put_self ?_⟩
      rintro rfl
      exact hfree rfl
  have hfirst := hsame.placeOf_iff.1 hplace
  have hkept : t'.get? place = t₂.get? place := by
    apply get?_of_applyAll hthen
    · intro q other hmem hq
      exact hback _ hmem place hfirst (hsame'.placeOf_iff.1 hq)
    · intro q hmem hq
      exact absurd (hsame'.placeOf_iff.1 hq) (hback _ hmem place hfirst)
  refine readBytes_eq_ok_iff.2 ⟨place, ?_, hkept.trans hfile⟩
  exact (hsame'.trans (sameDirectories_of_applyAll hthen)).placeOf_iff.2 hfirst

/-- The files of a generation and its manifest, if there is to be one, by their names. -/
def namedFiles (g : Generation) : List (String × String) :=
  g.files ++ if g.options.manifest then [(Manifest.fileName, g.manifest.toText)] else []

theorem writtenFiles_eq (g : Generation) :
    g.writtenFiles = g.namedFiles.map fun (name, text) => (g.output.joinText name, text) := by
  rw [writtenFiles, namedFiles, List.map_append]
  split <;> rfl

theorem isFileName_of_mem_namedFiles (hg : g.HasNames) {file : String × String}
    (h : file ∈ g.namedFiles) : Path.IsFileName file.1 := by
  rcases List.mem_append.1 h with h | h
  · exact hg.isFileName _ (List.mem_map_of_mem (f := (·.1)) h)
  · split at h
    · rw [List.mem_singleton.1 h]
      exact Manifest.isFileName_fileName
    · cases h

theorem nodup_namedFiles (hg : g.HasNames) : (g.namedFiles.map (·.1)).Nodup := by
  have hfiles : (g.files.map (·.1)).Nodup := hg.nodup
  rw [namedFiles, List.map_append]
  split
  · refine List.nodup_append.2 ⟨hfiles, by simp, ?_⟩
    rintro name hname _ hmanifest rfl
    rw [List.map_singleton, List.mem_singleton] at hmanifest
    rw [hmanifest] at hname
    exact hg.ne_manifest hname
  · simpa using hfiles

/-- Every file is written at the place of its name in the directory. -/
theorem place_eq_of_mem_namedFiles {dir place : List String} (hg : g.HasNames)
    (hdir : t.HasDirectory g.output dir) {file : String × String} (h : file ∈ g.namedFiles)
    (hplace : t.placeOf (g.output.joinText file.1) = .ok place) : place = dir ++ [file.1] := by
  rcases placeOf_joinText (isFileName_of_mem_namedFiles hg h) hdir.placeOf_eq hdir.get?_eq with
    hok | hlong
  · exact Except.ok.inj (hplace.symm.trans hok)
  · rw [hlong] at hplace
    cases hplace

/-- Once all changes have succeeded, every file holds its text. -/
theorem readBytes_of_applyAll_changes {dir : List String} {previous : Option Manifest}
    (hg : g.HasNames) (hdir : t.HasDirectory g.output dir)
    (h : (applyAll (g.changes previous) : ExceptT FileError (StateM FileTree) Unit).run.run t =
      (.ok (), t'))
    {name : String} (hmem : (name, text) ∈ g.namedFiles) :
    t'.readBytes (g.output.joinText name) = .ok text.toUTF8 := by
  obtain ⟨before, after, hsplit⟩ := List.append_of_mem hmem
  rw [changes, writtenFiles_eq, hsplit, List.map_append, List.map_cons, List.map_append,
    List.map_cons, ← List.append_assoc] at h
  refine readBytes_of_applyAll h fun change hchange place hplace hplace' => ?_
  rw [List.map_map, List.mem_map] at hchange
  obtain ⟨⟨other, otherText⟩, hother, rfl⟩ := hchange
  have hotherMem : (other, otherText) ∈ g.namedFiles := by
    rw [hsplit]
    exact List.mem_append_right _ (List.mem_cons_of_mem _ hother)
  -- Two files at one place have one name, and no name is written twice.
  have hsame : name = other := by
    have heq := (place_eq_of_mem_namedFiles hg hdir hmem hplace).symm.trans
      (place_eq_of_mem_namedFiles hg hdir hotherMem hplace')
    exact (List.cons.inj (List.append_cancel_left heq)).1
  have hnodup := nodup_namedFiles hg
  rw [hsplit, List.map_append, List.map_cons] at hnodup
  have hnew := (List.nodup_cons.1 (List.nodup_append.1 hnodup).2.1).1
  exact hnew (hsame ▸ List.mem_map_of_mem (f := (·.1)) hother)

variable {package : String} {schema : Schema} {output : Path} {options : Options}
  {transcript transcript' : Transcript} {paths : List Path}

/-- After a run that succeeds every file holds its text, and so does the manifest, whatever the
manifest of the previous run was. -/
theorem readBytes_of_write [Host] (hg : ofSchema package schema output options = .ok g)
    (h : Program.runOn (write package schema output options) transcript t =
      ((.ok paths, transcript'), t')) :
    paths = g.writtenFiles.map (·.1) ∧
      ∀ file ∈ g.writtenFiles, t'.readBytes file.1 = .ok file.2.toUTF8 := by
  obtain ⟨rfl, rfl⟩ := output_of_ofSchema hg
  obtain ⟨hdir, g', hg', happly, hpaths⟩ := exists_of_write_eq_ok h
  obtain rfl := Except.ok.inj (hg.symm.trans hg')
  refine ⟨hpaths, ?_⟩
  rw [writtenFiles_eq, List.forall_mem_map]
  exact fun file hfile =>
    readBytes_of_applyAll_changes (hasNames_of_ofSchema hg) hdir happly hfile

/-! ## The version that a package names -/

/-- The version of a schema is named wherever a generation from it names one. -/
structure IsOfVersion (g : Generation) (package : String) (schema : Schema) (version : String) :
    Prop where
  /-- The file that lists the domains assigns it. -/
  index : ∃ source, g.files.lookup "__init__.py" = some source ∧
    Lexical.assignedText? "PROTOCOL_VERSION" source = some version
  /-- The documentation of every module names it, and the other files are the modules. -/
  modules : ∃ modules, Package.modules package schema = .ok modules ∧
    g.files = Package.filesOf schema modules ∧
      ∀ m ∈ modules, ∃ documentation, Lexical.documentation? m.source = some documentation ∧
        Doc.namedVersion? documentation = some version
  manifest : g.manifest.protocolVersion = version

theorem isOfVersion_of_ofSchema {version : ProtocolVersion}
    (hversion : schema.version = version.name)
    (h : ofSchema package schema output options = .ok g) :
    g.IsOfVersion package schema version.name := by
  obtain ⟨files, hfiles, rfl⟩ := ofSchema_eq_ok_iff.1 h
  obtain ⟨modules, hmodules, rfl⟩ := Results.map_eq_ok_iff.1 hfiles
  obtain ⟨haccepts, hall⟩ := Package.modules_eq_ok_iff.1 hmodules
  have hplain : ∀ name ∈ schema.domainNames, Lexical.IsPlain name := by
    intro name hname
    obtain ⟨d, hd, rfl⟩ := List.mem_map.1 hname
    exact Lexical.isPlain_of_isIdentifier (haccepts d hd).domainName
  refine ⟨⟨_, Entries.lookup_set_self, Package.assignedText?_indexSource hversion hplain⟩,
    ⟨modules, hmodules, rfl, ?_⟩, hversion⟩
  intro m hm
  rw [hall] at hm
  obtain ⟨d, -, rfl⟩ := List.mem_map.1 hm
  rw [hversion]
  exact ⟨_, Module.documentation?_documented package d version.name,
    Doc.namedVersion?_domain d version⟩

end Generation

namespace Config

open Generation Program

variable {config : Config} {dryRun verbose : Bool} {t : FileTree} {schema : Schema}

/-! ## Runs -/

section

variable [Host]

/-- What a run gives, the tree that it leaves and what it does with files. -/
def observed (config : Config) (dryRun verbose : Bool) (t : FileTree) :
    (Except Failure RunReport × Transcript) × Observation :=
  Observed.observe ((config.generate dryRun verbose).run.run {}) t

/-- The one version of a run: its file is the only file of the protocol that is read, and the schema
is built from it; and the package and its manifest name that version, also on file if the run has
written them. -/
structure RunsWith (config : Config) (version : ProtocolVersion) (dryRun verbose : Bool)
    (t : FileTree) : Prop where
  reads : ∀ access ∈ (config.observed dryRun verbose t).2.accesses, access.use = .read →
    access.path = ProtocolFile.path config.protocolPath version ∨
      access.path = manifestPath config.outputPath
  schema : ∀ report, (config.observed dryRun verbose t).1.1 = .ok report →
    report.schema.version = version.name ∧ ∃ bytes document whole,
      t.readBytes (ProtocolFile.path config.protocolPath version) = .ok bytes ∧
        ProtocolFile.documentOfBytes bytes = .ok document ∧
          Schema.ofJson version document = .ok whole ∧
            report.schema = whole.select config.domains
  package : ∀ report, (config.observed dryRun verbose t).1.1 = .ok report →
    ∃ g, ofSchema config.package report.schema config.outputPath config.options = .ok g ∧
      g.IsOfVersion config.package report.schema version.name ∧
        (dryRun = false → report.paths = g.writtenFiles.map (·.1) ∧
          ∀ file ∈ g.writtenFiles,
            (config.observed dryRun verbose t).2.tree.readBytes file.1 = .ok file.2.toUTF8)

/-- Observing a run does not change what it does. -/
theorem observed_eq (config : Config) (dryRun verbose : Bool) (t : FileTree) :
    ∃ shown accesses, config.observed dryRun verbose t =
        ((config.result dryRun verbose t, shown),
          ⟨config.treeAfter dryRun verbose t, accesses⟩) ∧
      ∀ access ∈ accesses, access.use = .read →
        access.path = ProtocolFile.path config.protocolPath config.version ∨
          access.path = manifestPath config.outputPath := by
  have hfollows := (Observed.reading fun p =>
    p = ProtocolFile.path config.protocolPath config.version ∨
      p = manifestPath config.outputPath).corresponds_generate dryRun verbose trivial trivial
        (Or.inl rfl) (Or.inr rfl) {}
  rcases hrun : runOn (config.generate dryRun verbose) {} t with ⟨⟨r, shown⟩, t'⟩
  obtain ⟨accesses, hobserved, hreads⟩ := Observed.Follows.observe hfollows hrun
  rw [observed, hobserved, result, treeAfter, hrun]
  exact ⟨shown, accesses, rfl, hreads⟩

/-- A run that succeeds has prepared what it reports, and written it if it is not a dry one. -/
theorem exists_of_result_eq_ok {report : RunReport}
    (h : config.result dryRun verbose t = .ok report) :
    ∃ schema g previous paths, outcome (config.prepare verbose) t = .ok (schema, g, previous) ∧
      report = reportOf (schema, g, previous) paths ∧
        (dryRun = false → ∃ shown shown',
          runOn (Generation.write config.package schema config.outputPath config.options) shown t =
            ((.ok paths, shown'), config.treeAfter dryRun verbose t)) := by
  cases dryRun with
  | false =>
    obtain ⟨schema, g, previous, paths, shown, shown', hprepare, hreport, hwrite⟩ :=
      exists_of_result_real_eq_ok h
    exact ⟨schema, g, previous, paths, hprepare, hreport, fun _ => ⟨shown, shown', hwrite⟩⟩
  | true =>
    rw [result_dry] at h
    obtain ⟨⟨schema, g, previous⟩, hprepare, hreport⟩ := Results.bind_eq_ok_iff.1 h
    exact ⟨schema, g, previous, _, hprepare, (Except.ok.inj hreport).symm,
      fun hdry => nomatch hdry⟩

/-- A run uses the version of its configuration. -/
theorem runsWith_version (config : Config) (dryRun verbose : Bool) (t : FileTree) :
    config.RunsWith config.version dryRun verbose t := by
  obtain ⟨shown, accesses, hobserved, hreads⟩ := observed_eq config dryRun verbose t
  have hloaded : ∀ report, config.result dryRun verbose t = .ok report →
      ∃ bytes document whole,
        t.readBytes (ProtocolFile.path config.protocolPath config.version) = .ok bytes ∧
          ProtocolFile.documentOfBytes bytes = .ok document ∧
            Schema.ofJson config.version document = .ok whole ∧
              report.schema = whole.select config.domains := by
    intro report hreport
    obtain ⟨schema, g, previous, paths, hprepare, rfl, -⟩ := exists_of_result_eq_ok hreport
    exact exists_of_loadSchema_eq_ok (of_outcome_prepare_eq_ok hprepare).1
  have hversion : ∀ report, config.result dryRun verbose t = .ok report →
      report.schema.version = config.version.name := by
    intro report hreport
    obtain ⟨_, _, whole, -, -, hwhole, hselect⟩ := hloaded report hreport
    rw [hselect, Schema.version_select]
    exact (Schema.ofJson_eq_ok_iff.1 hwhole).version
  constructor
  case reads =>
    rw [hobserved]
    exact hreads
  case schema =>
    simp only [hobserved]
    exact fun report hreport => ⟨hversion report hreport, hloaded report hreport⟩
  case package =>
    simp only [hobserved]
    intro report hreport
    have hnamed := hversion report hreport
    obtain ⟨schema, g, previous, paths, hprepare, rfl, hwrite⟩ := exists_of_result_eq_ok hreport
    have hg := (of_outcome_prepare_eq_ok hprepare).2.1
    refine ⟨g, hg, isOfVersion_of_ofSchema hnamed hg, fun hreal => ?_⟩
    obtain ⟨shown', shown'', hrun⟩ := hwrite hreal
    exact readBytes_of_write hg hrun

/-- One version is used throughout a run: that of the request if there is one, else that of the
configuration's field for it if it is not null, else that of the environment.  Whatever was asked
for, it is one of the known versions. -/
theorem runsWith_requestedVersion {environment : Option String} {text : String}
    {document : Document} {loaded : Config} (hparse : Yaml.parse text = .ok document)
    (hload : ofYaml environment text = .ok loaded) (base : Path) (request : Option String)
    (dryRun verbose : Bool) (t : FileTree) :
    (requestedVersion environment request document).name ∈ ["1-2", "1-3", "tot"] ∧
      ((loaded.within base).withVersion request).version =
        requestedVersion environment request document ∧
      ((loaded.within base).withVersion request).RunsWith
        (requestedVersion environment request document) dryRun verbose t := by
  have hvalid : validate environment document = .ok loaded := by
    rw [ofYaml, hparse] at hload
    exact Results.mapError_eq_ok_iff.1 hload
  have hversion := version_withVersion hvalid base request
  refine ⟨?_, hversion, ?_⟩
  · cases requestedVersion environment request document <;> decide
  · rw [← hversion]
    exact runsWith_version _ dryRun verbose t

end

/-- A configuration that asks for an old version. -/
def datedText : String := "output: out\nversion: 1-2\n"

def datedTree : FileTree where
  entries :=
    [(["priv"], .directory), (["priv", "1-2"], .directory),
      (["priv", "1-2", "protocol.json"],
        .file "\x7b\"domains\": [\x7b\"domain\": \"Page\"\x7d]\x7d".toUTF8)]

theorem runsWith_requestedVersion_dated : ∃ document loaded,
    Yaml.parse datedText = .ok document ∧ ofYaml (some "1-3") datedText = .ok loaded ∧
      requestedVersion (some "1-3") none document = .v12 ∧
        ((loaded.within (.ofText ".")).withVersion none).RunsWith .v12 false false datedTree ∧
          (((loaded.within (.ofText ".")).withVersion none).observed false false
            datedTree).1.1.isOk = true := by
  have hasked : ((Yaml.parse datedText).map fun document =>
      requestedVersion (some "1-3") none document).toOption = some .v12 := by
    decide +kernel
  have hruns : ((ofYaml (some "1-3") datedText).bind fun loaded =>
      (((loaded.within (.ofText ".")).withVersion none).observed false false
        datedTree).1.1).isOk = true := by
    decide +kernel
  cases hparse : Yaml.parse datedText with
  | error failure =>
    rw [hparse] at hasked
    cases hasked
  | ok document =>
    cases hload : ofYaml (some "1-3") datedText with
    | error failure =>
      rw [hload] at hruns
      cases hruns
    | ok loaded =>
      rw [hparse] at hasked
      rw [hload] at hruns
      have hversion : requestedVersion (some "1-3") none document = .v12 :=
        Option.some.inj hasked
      obtain ⟨-, -, hwith⟩ :=
        runsWith_requestedVersion hparse hload (.ofText ".") none false false datedTree
      rw [hversion] at hwith
      exact ⟨document, loaded, rfl, rfl, hversion, hwith, hruns⟩

end Config

end ProtocolBindings
