import ProtocolBindings.Proofs.Files.Simulation
import ProtocolBindings.Proofs.Generation.Preparation

/-!
# Programs on two file systems

A program does the same on two file systems whose operations correspond for the paths that it uses:
loading a schema uses the file of its version, and a run uses besides what lies in the directory of
the package.
-/

namespace ProtocolBindings

def FileChange.path : FileChange → Path
  | .remove path => path
  | .write path _ => path

namespace Simulation

variable {m n : Type → Type} [Monad m] [FileSystem m] [Monad n] [FileSystem n]
  (S : Simulation m n) {ε α β : Type}

/-- Whatever has been shown before, the one program corresponds to the other. -/
def Corresponds (x : ExceptT ε (StateT Transcript m) α) (y : ExceptT ε (StateT Transcript n) α) :
    Prop :=
  ∀ transcript, S.Rel (x.run.run transcript) (y.run.run transcript)

/-! ## Steps of programs -/

theorem corresponds_pure (a : α) :
    S.Corresponds (Pure.pure a : ExceptT ε (StateT Transcript m) α)
      (Pure.pure a : ExceptT ε (StateT Transcript n) α) :=
  fun _ => S.pure _

theorem corresponds_throw (e : ε) :
    S.Corresponds (throw e : ExceptT ε (StateT Transcript m) α)
      (throw e : ExceptT ε (StateT Transcript n) α) :=
  fun _ => S.pure _

theorem Corresponds.bind {S : Simulation m n} {x : ExceptT ε (StateT Transcript m) α}
    {y : ExceptT ε (StateT Transcript n) α} {f : α → ExceptT ε (StateT Transcript m) β}
    {g : α → ExceptT ε (StateT Transcript n) β} (hx : S.Corresponds x y)
    (hf : ∀ a, S.Corresponds (f a) (g a)) : S.Corresponds (x >>= f) (y >>= g) := by
  intro transcript
  refine S.bind (hx transcript) fun r => ?_
  rcases r with ⟨e | a, transcript'⟩
  · exact S.pure _
  · exact hf a transcript'

theorem corresponds_files {x : ExceptT FileError m α} {y : ExceptT FileError n α}
    (h : S.Rel x.run y.run) : S.Corresponds (Program.files x) (Program.files y) := by
  intro transcript
  refine S.bind h fun r => ?_
  cases r with
  | error e => exact S.pure _
  | ok a => exact S.pure _

theorem corresponds_ofExcept (f : ε → Failure) (result : Except ε α) :
    S.Corresponds (Program.ofExcept f result) (Program.ofExcept f result) := by
  cases result with
  | error e => exact S.corresponds_throw _
  | ok a => exact S.corresponds_pure _

theorem corresponds_write (text : String) :
    S.Corresponds (Program.write text) (Program.write text) :=
  fun _ => S.bind (S.pure _) fun _ => S.pure _

theorem corresponds_writeError (text : String) :
    S.Corresponds (Program.writeError text) (Program.writeError text) :=
  fun _ => S.bind (S.pure _) fun _ => S.pure _

theorem corresponds_requireRecord (schema : Schema) :
    S.Corresponds (Generation.requireRecord schema) (Generation.requireRecord schema) := by
  unfold Generation.requireRecord
  split
  · exact S.corresponds_pure ()
  · exact S.corresponds_throw _

variable [Host]

theorem corresponds_print (message : String) :
    S.Corresponds (Program.print message) (Program.print message) :=
  (S.corresponds_ofExcept _ _).bind S.corresponds_write

theorem corresponds_printError (message : String) :
    S.Corresponds (Program.printError message) (Program.printError message) :=
  (S.corresponds_ofExcept _ _).bind S.corresponds_writeError

theorem corresponds_printTree (root : String) (labels : List String) :
    S.Corresponds (Program.printTree root labels) (Program.printTree root labels) :=
  (S.corresponds_ofExcept _ _).bind S.corresponds_write

theorem corresponds_printAll (lines : List String) :
    S.Corresponds (Config.printAll lines) (Config.printAll lines) := by
  induction lines with
  | nil => exact S.corresponds_pure ()
  | cons line rest ih => exact (S.corresponds_print line).bind fun _ => ih

/-! ## Runs -/

variable {p directory output : Path} {config : Config}

omit [Host] in
/-- Every change of a generation is made at a path below its directory. -/
theorem uses_of_mem_changes {g : Generation} {previous : Option Manifest} {change : FileChange}
    (huses : S.Uses g.output) (h : change ∈ g.changes previous) : S.Uses change.path := by
  rw [Generation.changes, List.mem_append] at h
  rcases h with h | h
  · split at h
    · obtain ⟨name, -, rfl⟩ := List.mem_map.1 h
      exact S.uses_joinText _ huses
    · cases h
  · obtain ⟨⟨path, text⟩, hfile, rfl⟩ := List.mem_map.1 h
    rw [Generation.writtenFiles, List.mem_append] at hfile
    rcases hfile with hfile | hfile
    · obtain ⟨⟨name, content⟩, -, heq⟩ := List.mem_map.1 hfile
      obtain ⟨rfl, rfl⟩ := Prod.mk.inj heq
      exact S.uses_joinText _ huses
    · split at hfile
      · obtain ⟨rfl, rfl⟩ := Prod.mk.inj (List.mem_singleton.1 hfile)
        exact S.uses_joinText Manifest.fileName huses
      · cases hfile

variable [LawfulMonad m] [LawfulMonad n]

omit [Host] in
/-- What follows a result need only correspond for the value that the result has. -/
theorem Corresponds.ofExcept_bind {S : Simulation m n} {e : ε → Failure} {result : Except ε α}
    {f : α → Program m β} {g : α → Program n β}
    (h : ∀ a, result = .ok a → S.Corresponds (f a) (g a)) :
    S.Corresponds (Program.ofExcept e result >>= f) (Program.ofExcept e result >>= g) := by
  cases result with
  | error e =>
    rw [Program.ofExcept, Program.ofExcept, ExceptT.bind_throw, ExceptT.bind_throw]
    exact S.corresponds_throw _
  | ok a =>
    rw [Program.ofExcept, Program.ofExcept, pure_bind, pure_bind]
    exact h a rfl

theorem corresponds_read {p : Path} (failure : Failure) (huses : S.Uses p) (hreads : S.Reads p) :
    S.Corresponds (ProtocolFile.read p failure) (ProtocolFile.read p failure) := by
  rw [ProtocolFile.read, ProtocolFile.read]
  refine (S.corresponds_files (S.isFile huses)).bind fun found => ?_
  split
  · exact (S.corresponds_files (S.readFile hreads)).bind fun _ => S.corresponds_ofExcept _ _
  · exact S.corresponds_throw _

theorem corresponds_load (version : ProtocolVersion) (verbose : Bool) (huses : S.Uses directory)
    (hreads : S.Reads (ProtocolFile.path directory version)) :
    S.Corresponds (ProtocolFile.load directory version verbose)
      (ProtocolFile.load directory version verbose) := by
  have hread := S.corresponds_read (ProtocolFile.notFound directory version)
    (S.uses_joinText _ (S.uses_joinText _ huses)) hreads
  cases verbose with
  | false =>
    rw [ProtocolFile.load_false, ProtocolFile.load_false]
    exact hread
  | true =>
    rw [ProtocolFile.load_true, ProtocolFile.load_true]
    exact (S.corresponds_printError _).bind fun _ => hread

theorem corresponds_loadSchema (verbose : Bool) (huses : S.Uses config.protocolPath)
    (hreads : S.Reads (ProtocolFile.path config.protocolPath config.version)) :
    S.Corresponds (config.loadSchema verbose) (config.loadSchema verbose) := by
  unfold Config.loadSchema
  have hschema : S.Corresponds (ProtocolFile.schema config.protocolPath config.version verbose)
      (ProtocolFile.schema config.protocolPath config.version verbose) :=
    (S.corresponds_load _ _ huses hreads).bind fun _ => S.corresponds_ofExcept _ _
  refine hschema.bind fun schema => ?_
  dsimp only
  split
  · exact (S.corresponds_print _).bind fun _ => S.corresponds_pure _
  · exact S.corresponds_pure _

theorem readManifest (huses : S.Uses p) (hreads : S.Reads p) :
    S.Rel (Generation.readManifest p : ExceptT FileError m _).run
      (Generation.readManifest p : ExceptT FileError n _).run := by
  refine S.except_bind (S.kindOf? huses) fun kind => ?_
  cases kind with
  | none => exact S.except_pure _
  | some kind =>
    refine S.except_bind (S.readFile hreads) fun content => ?_
    cases Manifest.ofBytes? content with
    | error limit => exact S.except_throw _
    | ok found => exact S.except_pure _

omit [Host] in
theorem applyAll {changes : List FileChange} (h : ∀ change ∈ changes, S.Uses change.path) :
    S.Rel (Generation.applyAll changes : ExceptT FileError m _).run
      (Generation.applyAll changes : ExceptT FileError n _).run := by
  induction changes with
  | nil => exact S.except_pure ()
  | cons change rest ih =>
    rw [List.forall_mem_cons] at h
    obtain ⟨hchange, hrest⟩ := h
    refine S.except_bind ?_ fun _ => ih hrest
    cases change with
    | remove path => exact S.removeIfPresent hchange
    | write path text => exact S.writeText text hchange


theorem corresponds_writePackage (package : String) (schema : Schema) (options : Options)
    (huses : S.Uses output) (hreads : S.Reads (Generation.manifestPath output)) :
    S.Corresponds (Generation.write package schema output options)
      (Generation.write package schema output options) := by
  have hmanifest : S.Uses (Generation.manifestPath output) := S.uses_joinText _ huses
  unfold Generation.write
  refine (S.corresponds_files (S.makeDirectories huses)).bind fun _ => .ofExcept_bind fun g hg => ?_
  have hchanges (previous : Option Manifest) :
      S.Corresponds (Program.files (Generation.applyAll (g.changes previous)))
        (Program.files (Generation.applyAll (g.changes previous))) := by
    rw [← (Generation.output_of_ofSchema hg).1] at huses
    exact S.corresponds_files (S.applyAll fun change => S.uses_of_mem_changes huses)
  refine (S.corresponds_requireRecord schema).bind fun _ => ?_
  dsimp only
  split
  · refine (S.corresponds_files (S.readManifest hmanifest hreads)).bind fun previous => ?_
    exact (hchanges previous).bind fun _ => S.corresponds_pure _
  · refine (S.corresponds_pure none).bind fun previous => ?_
    exact (hchanges previous).bind fun _ => S.corresponds_pure _

theorem corresponds_inspect (schema : Schema) (houtput : S.Uses config.outputPath)
    (hmanifest : S.Reads (Generation.manifestPath config.outputPath)) :
    S.Corresponds (config.inspect schema) (config.inspect schema) := by
  have huses : S.Uses (Generation.manifestPath config.outputPath) := S.uses_joinText _ houtput
  refine (S.corresponds_ofExcept _ _).bind fun g => ?_
  refine (S.corresponds_files (S.readManifest huses hmanifest)).bind fun previous => ?_
  unfold Config.keepPrevious
  split
  · exact (S.corresponds_requireRecord schema).bind fun _ => S.corresponds_pure _
  · exact S.corresponds_pure _

/-- A run uses what lies in the directories of the protocol and of the package, and it reads the
file of its version and the manifest. -/
theorem corresponds_generate (dryRun verbose : Bool) (hprotocol : S.Uses config.protocolPath)
    (houtput : S.Uses config.outputPath)
    (hfile : S.Reads (ProtocolFile.path config.protocolPath config.version))
    (hmanifest : S.Reads (Generation.manifestPath config.outputPath)) :
    S.Corresponds (config.generate dryRun verbose) (config.generate dryRun verbose) := by
  rw [Config.generate_eq, Config.generate_eq]
  refine Corresponds.bind ?_ fun prepared => ?_
  · refine (S.corresponds_printAll _).bind fun _ => ?_
    refine (S.corresponds_loadSchema true hprotocol hfile).bind fun schema => ?_
    exact (S.corresponds_printAll _).bind fun _ => S.corresponds_inspect schema houtput hmanifest
  · obtain ⟨schema, g, previous⟩ := prepared
    unfold Config.report
    dsimp only
    split
    · exact (S.corresponds_pure _).bind fun _ => S.corresponds_pure _
    · refine (S.corresponds_writePackage _ schema _ houtput hmanifest).bind fun _ => ?_
      exact S.corresponds_pure _

end Simulation

end ProtocolBindings
