import ProtocolBindings.Proofs.Generation.History
import ProtocolBindings.Proofs.Generation.Previous
import ProtocolBindings.Proofs.Source.Package

/-!
# What a manifest tells

A call of the writer may write no manifest, and then an earlier one stays as it is.  So the
manifest in a directory is that of the last call that has written one.  What has become of a file
that it records is decided by the last call that generates the file or cleans up.
-/

namespace ProtocolBindings.Generation

open FileTree

/-- What a call of the writer asks for. -/
structure Call where
  package : String
  schema : Schema
  options : Options

def Call.text? (c : Call) (name : String) : Option String :=
  match Package.files c.package c.schema with
  | .ok files => files.lookup name
  | .error _ => none

/-- What calls of the writer that succeed make of a tree, newest first. -/
inductive Calls [Host] (output : Path) (t₀ : FileTree) : List Call → FileTree → Prop where
  | start : Calls output t₀ [] t₀
  | call {calls : List Call} {t t' : FileTree} {c : Call} {transcript transcript' : Transcript}
      {paths : List Path} (h : Calls output t₀ calls t)
      (hrun : Program.runOn (write c.package c.schema output c.options) transcript t =
        ((.ok paths, transcript'), t')) :
      Calls output t₀ (c :: calls) t'

/-- The text that calls leave of a recorded file, newest first: it is that of the last call that
generates the file, and if the last one to do so or to clean up has not generated it, there is
none. -/
def textAfter (name : String) : List Call → Option String
  | [] => none
  | c :: earlier =>
    match c.text? name with
    | some text => some text
    | none => if c.options.clean then none else textAfter name earlier

variable {output : Path} {t₀ t t₁ t' : FileTree} {calls later earlier : List Call} {c last : Call}
  {g recorded : Generation} {name text : String} {transcript transcript' : Transcript}
  {paths : List Path}

/-! ## One call -/

def Call.generation (c : Call) (output : Path) : Except GenerationError Generation :=
  ofSchema c.package c.schema output c.options

theorem text?_eq_some_iff (hg : c.generation output = .ok g) :
    c.text? name = some text ↔ (name, text) ∈ g.files := by
  obtain ⟨files, hfiles, rfl⟩ := ofSchema_eq_ok_iff.1 hg
  rw [Call.text?, hfiles]
  constructor
  · intro h
    obtain ⟨before, after, hsplit, -⟩ := List.lookup_eq_some_iff.1 h
    change (name, text) ∈ files
    rw [hsplit]
    exact List.mem_append_right _ List.mem_cons_self
  · exact Entries.lookup_eq_some_of_mem (Package.nodup_names hfiles)

theorem text?_eq_none_iff (hg : c.generation output = .ok g) :
    c.text? name = none ↔ name ∉ g.names := by
  rw [Option.eq_none_iff_forall_ne_some]
  constructor
  · intro h hname
    obtain ⟨⟨name, text⟩, hfile, rfl⟩ := List.mem_map.1 hname
    exact h text ((text?_eq_some_iff hg).2 hfile)
  · intro h text htext
    exact h (List.mem_map_of_mem (f := (·.1)) ((text?_eq_some_iff hg).1 htext))

/-- What a directory holds of a generation whose manifest was written, after that call and later
ones. -/
structure Records (output : Path) (t₀ : FileTree) (calls : List Call) (g : Generation)
    (t : FileTree) : Prop where
  manifest : t.get? (t₀.destination output ++ [Manifest.fileName]) =
    some (.file g.manifest.toText.toUTF8)
  notPassed : ∀ name ∈ g.names, ¬t₀.Passes output (t₀.destination output ++ [name])
  file : ∀ name ∈ g.names, t.get? (t₀.destination output ++ [name]) =
    (textAfter name calls).map fun text => .file text.toUTF8

theorem Records.manifestAt?_eq [Host] (h : Records output t₀ calls g t) :
    manifestAt? t (t₀.destination output ++ [Manifest.fileName]) = some g.manifest :=
  manifestAt?_of_toText h.manifest

/-- A call that writes a manifest leaves its own files with it. -/
theorem Records.of_manifest (hcurrent : t.current = t₀.current)
    (hg : c.generation output = .ok g) (hmanifest : g.options.manifest = true)
    (hdir : t.HasDirectory output (t₀.destination output)) {previous : Option Manifest}
    (hbrings : Brings t (t₀.destination output) (g.replacements previous) t') :
    Records output t₀ (c :: calls) g t' := by
  refine ⟨hbrings.get?_manifest hmanifest, ?_, ?_⟩
  · intro name hname hpasses
    rw [← AddsDirectories.passes_iff hcurrent] at hpasses
    exact hbrings.file_ne_directory hname (get?_of_passes hdir.placeOf_eq hdir.get?_eq hpasses)
  · intro name hname
    obtain ⟨⟨name, text⟩, hfile, rfl⟩ := List.mem_map.1 hname
    rw [textAfter, (text?_eq_some_iff hg).2 hfile]
    exact hbrings.get?_file hfile

/-- Making the directory changes nothing of what is recorded. -/
theorem Records.addDirectories (h : Records output t₀ calls recorded t)
    (hcurrent : t.current = t₀.current) (hadds : t.AddsDirectories output t') :
    Records output t₀ calls recorded t' := by
  refine ⟨?_, h.notPassed, ?_⟩
  · rcases hadds.get?_eq (t₀.destination output ++ [Manifest.fileName]) with
      hsame | ⟨hnone, -, -⟩
    · rw [hsame, h.manifest]
    · rw [h.manifest] at hnone
      cases hnone
  · intro name hname
    rcases hadds.get?_eq (t₀.destination output ++ [name]) with hsame | ⟨-, -, hpasses⟩
    · rw [hsame, h.file name hname]
    · rw [AddsDirectories.passes_iff hcurrent] at hpasses
      exact absurd hpasses (h.notPassed name hname)

/-- A call that writes no manifest leaves the recorded one.  Of the recorded files it replaces those
that it generates, and the others are gone if it cleans up. -/
theorem Records.of_not_manifest (h : Records output t₀ calls recorded t)
    (hrecorded : recorded.HasNames) (hg : c.generation output = .ok g)
    (hmanifest : ¬g.options.manifest = true)
    (hbrings : Brings t (t₀.destination output) (g.replacements (some recorded.manifest)) t') :
    Records output t₀ (c :: calls) recorded t' := by
  have hnames : g.HasNames := hasNames_of_ofSchema hg
  have horphan : ∀ name, name ∈ g.orphans (some recorded.manifest) ↔
      name ∈ recorded.names ∧ name ∉ g.names :=
    fun name => mem_orphans_iff hrecorded hnames
  have hoptions : g.options = c.options := (output_of_ofSchema hg).2
  refine ⟨?_, h.notPassed, ?_⟩
  · rw [hbrings.get?_other hnames.ne_manifest (fun hon => absurd hon hmanifest)
      fun _ hmem => hrecorded.ne_manifest ((horphan _).1 hmem).1]
    exact h.manifest
  · intro name hname
    rw [textAfter]
    cases htext : c.text? name with
    | some text => exact hbrings.get?_file ((text?_eq_some_iff hg).1 htext)
    | none =>
      have hlost : name ∉ g.names := (text?_eq_none_iff hg).1 htext
      rw [← hoptions]
      by_cases hclean : g.options.clean = true
      · rw [if_pos hclean]
        exact hbrings.get?_orphan hclean ((horphan name).2 ⟨hname, hlost⟩)
      · rw [if_neg hclean, hbrings.get?_other hlost (fun hon => absurd hon hmanifest)
          fun hon => absurd hon hclean]
        exact h.file name hname

/-! ## Calls one after the other -/

/-- The manifest of a directory after some calls. -/
structure ManifestAfter (output : Path) (t₀ : FileTree) (calls : List Call) (t : FileTree) :
    Prop where
  current_eq : t.current = t₀.current
  writtenBefore : WrittenBefore t output
  unrecorded : calls.find? (·.options.manifest) = none →
    ∀ content, t.get? (t₀.destination output ++ [Manifest.fileName]) ≠ some (.file content)
  recorded : ∀ last, calls.find? (·.options.manifest) = some last →
    ∃ g, last.generation output = .ok g ∧ Records output t₀ calls g t

namespace ManifestAfter

theorem start (hstart : ∀ content,
    t₀.get? (t₀.destination output ++ [Manifest.fileName]) ≠ some (.file content)) :
    ManifestAfter output t₀ [] t₀ where
  current_eq := rfl
  writtenBefore content hfile := absurd hfile (hstart content)
  unrecorded _ := hstart
  recorded last hlast := by cases hlast

variable [Host]

/-- Where no manifest is read from the directory, a call that writes none leaves none. -/
theorem unrecorded_of_not_manifest
    (hnone : ∀ content, t.get? (t₀.destination output ++ [Manifest.fileName]) ≠
      some (.file content))
    (hadds : t.AddsDirectories output t₁) (hnames : g.HasNames)
    (hmanifest : ¬g.options.manifest = true)
    (hbrings : Brings t₁ (t₀.destination output)
      (g.replacements (manifestAt? t (t₀.destination output ++ [Manifest.fileName]))) t') :
    ∀ content, t'.get? (t₀.destination output ++ [Manifest.fileName]) ≠ some (.file content) := by
  have hprevious : manifestAt? t (t₀.destination output ++ [Manifest.fileName]) = none :=
    manifestAt?_of_manifestIn (manifestIn_of_no_file hnone)
  rw [hprevious] at hbrings
  intro content
  rw [hbrings.get?_other hnames.ne_manifest (fun hon => absurd hon hmanifest)
    fun _ horphan => List.not_mem_nil horphan]
  rcases hadds.get?_eq (t₀.destination output ++ [Manifest.fileName]) with
    hsame | ⟨-, hdirectory, -⟩
  · rw [hsame]
    exact hnone content
  · rw [hdirectory]
    simp

/-- What one more call makes of it. -/
theorem call (h : ManifestAfter output t₀ calls t)
    (hrun : Program.runOn (write c.package c.schema output c.options) transcript t =
      ((.ok paths, transcript'), t')) :
    ManifestAfter output t₀ (c :: calls) t' := by
  obtain ⟨hdir, -⟩ := exists_of_write_eq_ok hrun
  obtain ⟨g, hg, -, hbrings⟩ := h.writtenBefore.readsPrevious.brings_of_write_eq_ok hrun
  have hadds := addsDirectories_withDirectories t output
  have hnames : g.HasNames := hasNames_of_ofSchema hg
  have hoptions : g.options = c.options := (output_of_ofSchema hg).2
  have hcurrent := hadds.current_eq.trans h.current_eq
  have hwritten := h.writtenBefore.of_write_eq_ok hrun
  rw [destination_congr h.current_eq] at hdir hbrings
  by_cases hmanifest : c.options.manifest = true
  · have hon : g.options.manifest = true := by rw [hoptions, hmanifest]
    refine ⟨hbrings.current_eq.trans hcurrent, hwritten, ?_, ?_⟩
    · intro hnone
      rw [List.find?_cons, hmanifest] at hnone
      cases hnone
    · intro last hlast
      rw [List.find?_cons, hmanifest] at hlast
      obtain rfl := Option.some.inj hlast
      exact ⟨g, hg, .of_manifest hcurrent hg hon hdir hbrings⟩
  · have hoff : ¬g.options.manifest = true := by rwa [hoptions]
    have hearlier : (c :: calls).find? (·.options.manifest) =
        calls.find? (·.options.manifest) := by
      rw [List.find?_cons, Bool.eq_false_iff.2 hmanifest]
    refine ⟨hbrings.current_eq.trans hcurrent, hwritten, ?_, ?_⟩
    · intro hnone
      rw [hearlier] at hnone
      exact unrecorded_of_not_manifest (h.unrecorded hnone) hadds hnames hoff hbrings
    · intro last hlast
      rw [hearlier] at hlast
      obtain ⟨recorded, hrecorded, hrecords⟩ := h.recorded last hlast
      rw [hrecords.manifestAt?_eq] at hbrings
      exact ⟨recorded, hrecorded, (hrecords.addDirectories h.current_eq hadds).of_not_manifest
        (hasNames_of_ofSchema hrecorded) hg hoff hbrings⟩

end ManifestAfter

theorem Calls.manifestAfter [Host] (hstart : ∀ content,
    t₀.get? (t₀.destination output ++ [Manifest.fileName]) ≠ some (.file content))
    (h : Calls output t₀ calls t) : ManifestAfter output t₀ calls t := by
  induction h with
  | start => exact .start hstart
  | call h hrun ih => exact ih.call hrun

/-- Calls that generate a file with the text that it has, or leave it alone, leave the text. -/
theorem textAfter_append (hlater : ∀ c ∈ later, c.text? name = some text ∨
      c.text? name = none ∧ c.options.clean = false)
    (hlast : last.text? name = some text) :
    textAfter name (later ++ last :: earlier) = some text := by
  induction later with
  | nil => rw [List.nil_append, textAfter, hlast]
  | cons c later ih =>
    rw [List.forall_mem_cons] at hlater
    rw [List.cons_append, textAfter]
    rcases hlater.1 with hsame | ⟨hnone, hclean⟩
    · rw [hsame]
    · rw [hnone, hclean, ih hlater.2]
      rfl

/-- Nothing before the call that has generated a file takes part in what has become of it. -/
theorem textAfter_append_cons (hlast : last.text? name = some text) :
    textAfter name (later ++ last :: earlier) = textAfter name (later ++ [last]) := by
  induction later with
  | nil => rw [List.nil_append, List.nil_append, textAfter, textAfter, hlast]
  | cons c later ih => rw [List.cons_append, List.cons_append, textAfter, textAfter, ih]

/-- Calls are continued by a run that is seen to succeed. -/
theorem Calls.call_of_isOk [Host] (h : Calls output t₀ calls t) (c : Call)
    (hok : (Program.runOn (write c.package c.schema output c.options) {} t).1.1.isOk = true) :
    Calls output t₀ (c :: calls)
      (Program.runOn (write c.package c.schema output c.options) {} t).2 := by
  rcases hrun : Program.runOn (write c.package c.schema output c.options) {} t with
    ⟨⟨e | paths, transcript⟩, t'⟩
  · rw [hrun] at hok
    cases hok
  · exact h.call hrun

/-- The records of a generation are those of its files. -/
theorem exists_text?_of_mem_outputs (hg : last.generation output = .ok g) {o : OutputInfo}
    (ho : o ∈ g.manifest.outputs) :
    ∃ text, last.text? o.path = some text ∧ o.hash = Manifest.contentHash text := by
  have hfiles : o ∈ Manifest.outputsOf last.schema g.files := by
    obtain ⟨files, -, rfl⟩ := ofSchema_eq_ok_iff.1 hg
    exact ho
  obtain ⟨⟨name, text⟩, hfile, rfl⟩ :=
    List.mem_map.1 ((Manifest.outputsOf_perm last.schema g.files).subset hfiles)
  exact ⟨text, (text?_eq_some_iff hg).2 hfile, rfl⟩

/-- Generates two modules and their manifest. -/
def storageCall : Call where
  package := "rpc"
  schema := { version := "tot", domains := [{ name := "Page" }, { name := "DOM" }] }
  options := {}

/-- Generates one of the two from another version of the protocol, and no manifest. -/
def pageCall : Call where
  package := "rpc"
  schema := { version := "1-3", domains := [{ name := "Page" }] }
  options := { manifest := false, clean := false }

theorem calls_pageCall : ∃ t, Calls (.ofText "out") {} [pageCall, storageCall] t := by
  have hfirst : (Program.runOn (write storageCall.package storageCall.schema (.ofText "out")
      storageCall.options) {} {}).1.1.isOk = true := by
    decide +kernel
  have hsecond : (Program.runOn (write pageCall.package pageCall.schema (.ofText "out")
      pageCall.options) {} (Program.runOn (write storageCall.package storageCall.schema
        (.ofText "out") storageCall.options) {} {}).2).1.1.isOk = true := by
    decide +kernel
  exact ⟨_, (Calls.start.call_of_isOk storageCall hfirst).call_of_isOk pageCall hsecond⟩

/-- After calls that succeed there is a manifest exactly if one of them has written it, and it is
that of the last one to do so: it has the version of the protocol, the package, the digest of the
schema and the files of that call.  Every file that it records is as the later calls have left it.
As long as these generate the same text for it, or do neither generate it nor clean up, it is there
with the recorded digest. -/
theorem Calls.manifest_eq [Host] (hstart : ∀ content,
      t₀.get? (t₀.destination output ++ [Manifest.fileName]) ≠ some (.file content))
    (h : Calls output t₀ calls t) :
    ((∃ content, t.get? (t₀.destination output ++ [Manifest.fileName]) = some (.file content)) ↔
        ∃ c ∈ calls, c.options.manifest = true) ∧
      ∀ later last earlier, calls = later ++ last :: earlier → last.options.manifest = true →
        (∀ c ∈ later, c.options.manifest = false) →
        ∃ m : Manifest,
          manifestAt? t (t₀.destination output ++ [Manifest.fileName]) = some m ∧
          m.protocolVersion = last.schema.version ∧ m.package = last.package ∧
          m.schemaHash = last.schema.fingerprint ∧
          (∀ name, name ∈ m.outputs.map (·.path) ↔ last.text? name ≠ none) ∧
          ∀ o ∈ m.outputs, ∃ text, last.text? o.path = some text ∧
            o.hash = Manifest.contentHash text ∧
            t.get? (t₀.destination output ++ [o.path]) =
              ((textAfter o.path (later ++ [last])).map fun text => .file text.toUTF8) ∧
            ((∀ c ∈ later, c.text? o.path = some text ∨
                c.text? o.path = none ∧ c.options.clean = false) →
              t.get? (t₀.destination output ++ [o.path]) = some (.file text.toUTF8)) := by
  have hafter := h.manifestAfter hstart
  refine ⟨⟨?_, ?_⟩, ?_⟩
  · rintro ⟨content, hfile⟩
    by_contra hnone
    refine hafter.unrecorded (List.find?_eq_none.2 ?_) content hfile
    exact fun c hc hmanifest => hnone ⟨c, hc, hmanifest⟩
  · rintro ⟨c, hc, hmanifest⟩
    cases hfind : calls.find? (·.options.manifest) with
    | none => exact absurd hmanifest (List.find?_eq_none.1 hfind c hc)
    | some last =>
      obtain ⟨g, -, hrecords⟩ := hafter.recorded last hfind
      exact ⟨_, hrecords.manifest⟩
  · rintro later last earlier rfl hmanifest hlater
    have hfind : (later ++ last :: earlier).find? (·.options.manifest) = some last := by
      rw [List.find?_eq_some_iff_append]
      refine ⟨hmanifest, later, earlier, rfl, fun c hc => ?_⟩
      rw [hlater c hc]
      rfl
    obtain ⟨g, hg, hrecords⟩ := hafter.recorded last hfind
    have hnames : g.HasNames := hasNames_of_ofSchema hg
    have hmanifestEq : g.manifest = .ofFiles last.package last.schema g.files := by
      obtain ⟨files, -, rfl⟩ := ofSchema_eq_ok_iff.1 hg
      rfl
    refine ⟨g.manifest, hrecords.manifestAt?_eq, ?_, ?_, ?_, ?_, ?_⟩
    · rw [hmanifestEq, Manifest.ofFiles]
    · rw [hmanifestEq, Manifest.ofFiles]
    · rw [hmanifestEq, Manifest.ofFiles]
    · intro name
      rw [hnames.mem_outputs, Ne, text?_eq_none_iff hg, not_not]
    · intro o ho
      obtain ⟨text, htext, hhash⟩ := exists_text?_of_mem_outputs hg ho
      have hname : o.path ∈ g.names := (hnames.mem_outputs _).1 (List.mem_map_of_mem ho)
      have hfile := hrecords.file o.path hname
      refine ⟨text, htext, hhash, ?_, ?_⟩
      · rw [hfile, textAfter_append_cons htext]
      · intro hsame
        rw [hfile, textAfter_append hsame htext]
        rfl

/-- The second call leaves the manifest of the first one, and one of the files that it records. -/
theorem Calls.manifest_eq_pageCall : ∃ t m, Calls (.ofText "out") {} [pageCall, storageCall] t ∧
    manifestAt? t ["out", ".cri-manifest.json"] = some m ∧ m.protocolVersion = "tot" ∧
    ∃ o ∈ m.outputs, o.path = "DOM.py" ∧ ∃ text, o.hash = Manifest.contentHash text ∧
      t.get? ["out", "DOM.py"] = some (.file text.toUTF8) := by
  obtain ⟨t, h⟩ := calls_pageCall
  have hstart : ∀ content, FileTree.get? {} (FileTree.destination {} (.ofText "out") ++
      [Manifest.fileName]) ≠ some (.file content) := by
    intro content hfile
    cases hfile
  obtain ⟨-, hlast⟩ := h.manifest_eq hstart
  obtain ⟨m, hm, hversion, -, -, houtputs, hfiles⟩ :=
    hlast [pageCall] storageCall [] rfl rfl (by decide)
  have hgenerated : (storageCall.text? "DOM.py").isSome = true := by
    decide
  have hlater : (pageCall.text? "DOM.py").isNone = true := by
    decide
  have hrecorded := (houtputs "DOM.py").2 (Option.isSome_iff_ne_none.1 hgenerated)
  obtain ⟨o, ho, hpath⟩ := List.mem_map.1 hrecorded
  obtain ⟨text, -, hhash, -, hfile⟩ := hfiles o ho
  rw [hpath] at hfile
  refine ⟨t, m, h, hm, hversion, o, ho, hpath, text, hhash, hfile ?_⟩
  intro c hc
  rw [List.mem_singleton.1 hc]
  exact Or.inr ⟨Option.isNone_iff_eq_none.1 hlater, rfl⟩

/-- After the second call the version in the manifest is not that of its schema. -/
theorem Calls.exists_protocolVersion_ne : ∃ t m,
    Calls (.ofText "out") {} [pageCall, storageCall] t ∧
      FileTree.get? {} ["out", ".cri-manifest.json"] = none ∧
      manifestAt? t ["out", ".cri-manifest.json"] = some m ∧
      m.protocolVersion ≠ pageCall.schema.version := by
  obtain ⟨t, h⟩ := calls_pageCall
  have hafter := h.manifestAfter fun content hfile => by cases hfile
  obtain ⟨g, hg, hrecords⟩ := hafter.recorded storageCall rfl
  obtain ⟨files, -, rfl⟩ := ofSchema_eq_ok_iff.1 hg
  exact ⟨t, _, h, rfl, hrecords.manifestAt?_eq, by simp [Manifest.ofFiles, storageCall, pageCall]⟩

end ProtocolBindings.Generation
