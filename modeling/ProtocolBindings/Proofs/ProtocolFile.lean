import ProtocolBindings.Json.Write
import ProtocolBindings.Proofs.Console.Message
import ProtocolBindings.Proofs.Files.Steps
import ProtocolBindings.Proofs.Program
import ProtocolBindings.Proofs.Schema.Escapes
import ProtocolBindings.ProtocolFile

/-!
# Schemas of protocol files

Whatever bytes the file of a version holds, loading it gives a schema or an error that says what
is wrong with the protocol, unless its document is beyond a limit of its reader or the first fault
in it escapes the construction.
-/

namespace ProtocolBindings

open Results Building

/-- The failures that are reported with a reason that lies in the protocol. -/
def Failure.IsOfProtocol : Failure → Prop
  | .generation e => e.cause.IsOfProtocol
  | _ => False

theorem Failure.isOfProtocol_ofBuilding {e : BuildError} :
    (Failure.ofBuilding e).IsOfProtocol ↔ e.IsOfProtocol := by
  cases e with
  | generation e => rfl
  | invalidRecord e => rfl
  | tooDeep => rfl

namespace Program

variable [Host] {transcript : Transcript} {t : FileTree} {message text : String}

theorem runOn_printError (h : Console.render message = .ok text) :
    runOn (printError message) transcript t =
      ((.ok (), { transcript with err := transcript.err ++ text }), t) := by
  rw [printError, runOn_bind, shown, runOn_ofExcept, h]
  rfl

end Program

namespace ProtocolFile

section

variable [Host] {m : Type → Type} [Monad m] [FileSystem m]

/-- Reads the document of the file at `p`.  Where there is no file, that is the given failure. -/
def read (p : Path) (notFound : Failure) : Program m Json := do
  if ← Program.files (Files.isFile p) then
    let bytes ← Program.files (Files.readBytes p)
    Program.ofExcept (Obstacle.toFailure p) (documentOfBytes bytes)
  else throw notFound

/-- The failure where the file of a version is not there. -/
def notFound (directory : Path) (version : ProtocolVersion) : Failure :=
  .generation { cause := .schemaNotFound version.name (path directory version).text }

def versionLine (version : ProtocolVersion) : String :=
  "[dim]Using Chrome DevTools Protocol version:[/dim] '" ++ version.name ++ "'"

theorem load_false (directory : Path) (version : ProtocolVersion) :
    (load directory version false : Program m Json) =
      read (path directory version) (notFound directory version) :=
  rfl

theorem load_true (directory : Path) (version : ProtocolVersion) :
    (load directory version true : Program m Json) =
      Program.printError (versionLine version) >>= fun _ =>
        read (path directory version) (notFound directory version) :=
  rfl

end

variable {t : FileTree} {directory : Path} {bytes : ByteArray}

theorem run_isFile {p : Path} (h : t.readBytes p = .ok bytes) :
    (Files.isFile p : ExceptT FileError (StateM FileTree) Bool).run.run t = (.ok true, t) := by
  obtain ⟨place, hplace, hentry⟩ := FileTree.readBytes_eq_ok_iff.1 h
  have hkind : t.kindAt? p = .ok (some .file) :=
    FileTree.kindAt?_eq_some_iff.2 (FileTree.kindOf_eq_ok_iff.2 ⟨place, hplace, bytes, hentry⟩)
  rw [Files.isFile, run_bind, FileTree.run_kindOf?, hkind]
  rfl

theorem Obstacle.isOfProtocol_toFailure {p : Path} {obstacle : Obstacle} :
    (obstacle.toFailure p).IsOfProtocol ↔ ∀ limit, obstacle ≠ .beyond limit := by
  cases obstacle with
  | malformed malformation => simp [toFailure, Failure.IsOfProtocol,
      GenerationError.Cause.IsOfProtocol]
  | beyond limit => simp [toFailure, Failure.IsOfProtocol]

section

variable [Host]

theorem render_versionLine (version : ProtocolVersion) :
    ∃ text, Console.render (versionLine version) = .ok text := by
  have hfront : "[dim]Using Chrome DevTools Protocol version:[/dim] '".toList =
      [] ++ '[' :: ("dim".toList ++ ']' :: ("Using Chrome DevTools Protocol version:".toList ++
        '[' :: '/' :: ("dim".toList ++ ']' :: " '".toList))) := by
    decide
  have hname : Markup.IsPlain version.name.toList := by
    cases version <;> decide
  apply Console.exists_render_eq_ok
  delta versionLine
  simp only [String.toList_append]
  rw [hfront]
  simp only [List.append_assoc, List.cons_append]
  exact .tagged (by decide) (by decide) (by decide)
    (Markup.IsPlain.isPaired (.append (by decide) (hname.append (by decide))))

/-- The document of a file, or the failure that reading it is. -/
def documentAt (p : Path) (bytes : ByteArray) : Except Failure Json :=
  (documentOfBytes bytes).mapError (Obstacle.toFailure p)

/-- Reading a file that is there decodes its bytes and changes nothing. -/
theorem runOn_read {p : Path} {failure : Failure} {transcript : Transcript}
    (h : t.readBytes p = .ok bytes) :
    Program.runOn (read p failure) transcript t = ((documentAt p bytes, transcript), t) := by
  rw [read, Program.runOn_bind, Program.runOn_files, run_isFile h]
  simp only [if_true]
  rw [Program.runOn_bind, Program.runOn_files, Files.run_readBytes, h]
  exact Program.runOn_ofExcept _ _

theorem exists_runOn_load (version : ProtocolVersion) (verbose : Bool) (transcript : Transcript)
    (h : t.readBytes (path directory version) = .ok bytes) :
    ∃ transcript', Program.runOn (load directory version verbose) transcript t =
      ((documentAt (path directory version) bytes, transcript'), t) := by
  cases verbose with
  | false =>
    rw [load_false]
    exact ⟨_, runOn_read h⟩
  | true =>
    obtain ⟨text, htext⟩ := render_versionLine version
    refine ⟨{ transcript with err := transcript.err ++ text }, ?_⟩
    rw [load_true, Program.runOn_bind, Program.runOn_printError htext]
    exact runOn_read h

/-- The schema of a file, or the failure that building it is. -/
def schemaAt (p : Path) (version : ProtocolVersion) (bytes : ByteArray) : Except Failure Schema :=
  documentAt p bytes >>= fun document =>
    (Schema.ofJson version document).mapError Failure.ofBuilding

theorem exists_runOn_schema (version : ProtocolVersion) (verbose : Bool) (transcript : Transcript)
    (h : t.readBytes (path directory version) = .ok bytes) :
    ∃ transcript', Program.runOn (schema directory version verbose) transcript t =
      ((schemaAt (path directory version) version bytes, transcript'), t) := by
  obtain ⟨transcript', hload⟩ := exists_runOn_load version verbose transcript h
  refine ⟨transcript', ?_⟩
  rw [schema, Program.runOn_bind, hload, schemaAt]
  cases documentAt (path directory version) bytes with
  | error failure => rfl
  | ok document => exact Program.runOn_ofExcept _ _

/-- A construction fails for a reason that is not one of the protocol if its document is beyond a
limit of the reader, or if its first fault escapes. -/
theorem exists_not_isOfProtocol_iff (p : Path) (version : ProtocolVersion) (bytes : ByteArray) :
    (∃ failure, schemaAt p version bytes = .error failure ∧ ¬failure.IsOfProtocol) ↔
      (∃ limit, documentOfBytes bytes = .error (.beyond limit)) ∨
        ∃ document, documentOfBytes bytes = .ok document ∧ Schema.HasEscape document := by
  constructor
  · rintro ⟨failure, h, hfailure⟩
    rcases bind_eq_error_iff.1 h with hread | ⟨document, hread, hbuild⟩
    · obtain ⟨obstacle, hobstacle, rfl⟩ := mapError_eq_error_iff.1 hread
      simp only [Obstacle.isOfProtocol_toFailure, not_forall, not_not] at hfailure
      obtain ⟨limit, rfl⟩ := hfailure
      exact Or.inl ⟨limit, hobstacle⟩
    · obtain ⟨e, he, rfl⟩ := mapError_eq_error_iff.1 hbuild
      rw [Failure.isOfProtocol_ofBuilding] at hfailure
      exact Or.inr ⟨document, mapError_eq_ok_iff.1 hread,
        (Schema.escapes_ofJson_iff version document).1 ⟨e, he, hfailure⟩⟩
  · rintro (⟨limit, hread⟩ | ⟨document, hread, hescape⟩)
    · refine ⟨.beyond limit, bind_eq_error_iff.2 (Or.inl ?_), fun h => h⟩
      exact mapError_eq_error_iff.2 ⟨_, hread, rfl⟩
    · obtain ⟨e, he, hprotocol⟩ := (Schema.escapes_ofJson_iff version document).2 hescape
      refine ⟨.ofBuilding e, bind_eq_error_iff.2 (Or.inr ⟨document, ?_, ?_⟩), ?_⟩
      · exact mapError_eq_ok_iff.2 hread
      · exact mapError_eq_error_iff.2 ⟨e, he, rfl⟩
      · rwa [Failure.isOfProtocol_ofBuilding]

/-- Loading the file of a version, whose texts are no halves of pairs, gives a schema or fails for a
reason that lies in the protocol exactly if its document is not nested too deep to be read, none of
its integers has too many digits, and the first fault in it is none of those that escape: a
description in a property or a command that is not a text, or arrays too deep inside one
another. -/
theorem schema_or_isOfProtocol_iff (version : ProtocolVersion) (verbose : Bool)
    (transcript : Transcript) (h : t.readBytes (path directory version) = .ok bytes)
    (hpairs : documentOfBytes bytes ≠ .error (.beyond .pairs)) :
    (∃ result transcript',
        Program.runOn (schema directory version verbose) transcript t =
            ((result, transcript'), t) ∧
          ∀ failure, result = .error failure → failure.IsOfProtocol) ↔
      documentOfBytes bytes ≠ .error (.beyond .depth) ∧
        documentOfBytes bytes ≠ .error (.beyond .digits) ∧
          ∀ document, documentOfBytes bytes = .ok document → ¬Schema.HasEscape document := by
  have hiff := exists_not_isOfProtocol_iff (path directory version) version bytes
  obtain ⟨written, hrun⟩ := exists_runOn_schema version verbose transcript h
  constructor
  · rintro ⟨result, _, hresult, hfailure⟩
    rw [hrun] at hresult
    obtain rfl := (Prod.mk.inj (Prod.mk.inj hresult).1).1
    have hwithin : ∀ limit, documentOfBytes bytes ≠ .error (.beyond limit) := by
      intro limit hread
      obtain ⟨failure, hfail, hprotocol⟩ := hiff.2 (Or.inl ⟨limit, hread⟩)
      exact hprotocol (hfailure failure hfail)
    refine ⟨hwithin .depth, hwithin .digits, ?_⟩
    intro document hread hescape
    obtain ⟨failure, hfail, hprotocol⟩ := hiff.2 (Or.inr ⟨document, hread, hescape⟩)
    exact hprotocol (hfailure failure hfail)
  · rintro ⟨hdepth, hdigits, hescape⟩
    refine ⟨_, written, hrun, ?_⟩
    intro failure hfail
    by_contra hprotocol
    rcases hiff.1 ⟨failure, hfail, hprotocol⟩ with ⟨limit, hread⟩ | ⟨document, hread, hdocument⟩
    · cases limit with
      | depth => exact hdepth hread
      | digits => exact hdigits hread
      | pairs => exact hpairs hread
    · exact hescape document hread hdocument

end

/-- A tree that holds a document as the file of the newest version. -/
def storedTree (document : Json) : FileTree where
  entries := [(["p"], .directory), (["p", "tot"], .directory),
    (["p", "tot", "protocol.json"], .file document.toText.toUTF8)]

theorem readBytes_storedTree (document : Json) :
    (storedTree document).readBytes (path (.ofText "p") .tipOfTree) =
      .ok document.toText.toUTF8 :=
  FileTree.readBytes_eq_ok_iff.2 ⟨["p", "tot", "protocol.json"], rfl, rfl⟩

/-- The document that the characters of a text are. -/
def documentOfChars (cs : List Char) : Except Obstacle Json := do
  let document ← (Json.parse cs).mapError (Obstacle.ofFault cs)
  match document with
  | .object _ =>
    match document.get? "domains" with
    | some (.array _) => return document
    | _ => throw (.malformed .noDomains)
  | _ => throw (.malformed (.rootNotObject document.kindName))

theorem documentOfBytes_toText (document : Json) : documentOfBytes document.toText.toUTF8 =
    documentOfChars (Text.unifyNewlines document.write) := by
  rw [documentOfBytes, Text.Utf8.decode_toUTF8]
  change documentOfChars (Text.unifyNewlines document.toText.toList) = _
  rw [Json.toText, String.toList_ofList]

/-- A document with a described command and, in its second domain, a type whose description is not a
text. -/
def numberedType : Json :=
  .object [("domains", .array [
    .object [("domain", .string "DOM"), ("commands", .array [
      .object [("name", .string "enable"), ("description", .string "Enables.")]])],
    .object [("domain", .string "Page"), ("types", .array [
      .object [("id", .string "Frame"), ("type", .string "object")],
      .object [("id", .string "Url"), ("type", .string "string"), ("description", .integer 1)]])]])]

/-- The place at which a document has been refused as malformed. -/
def malformedAt? (document : Json) : Option String :=
  match Schema.ofJson .tipOfTree document with
  | .error (.generation ⟨.schemaMalformed _, location⟩) => location
  | _ => none

theorem schema_or_isOfProtocol_numbered : ∃ result transcript,
    Program.runOn (schema (.ofText "p") .tipOfTree true) {} (storedTree numberedType) =
        ((result, transcript), storedTree numberedType) ∧
      ∀ failure, result = .error failure → failure.IsOfProtocol := by
  have hread : (documentOfBytes numberedType.toText.toUTF8).map malformedAt? =
      .ok (some "Page.Url") := by
    rw [documentOfBytes_toText]
    decide +kernel
  have hok : ∀ obstacle, documentOfBytes numberedType.toText.toUTF8 ≠ .error obstacle := by
    intro obstacle h
    rw [h] at hread
    cases hread
  refine (schema_or_isOfProtocol_iff .tipOfTree true {} (readBytes_storedTree numberedType)
    (hok _)).2 ⟨hok _, hok _, ?_⟩
  intro document hdocument hescape
  rw [hdocument, Except.map] at hread
  have hrefused := Except.ok.inj hread
  obtain ⟨e, he, hprotocol⟩ := (Schema.escapes_ofJson_iff .tipOfTree document).2 hescape
  rw [malformedAt?, he] at hrefused
  split at hrefused
  · rename_i heq
    obtain rfl := Except.error.inj heq
    exact hprotocol trivial
  · cases hrefused

/-- A document whose only fault is the description of a command. -/
def numberedPage : Json :=
  .object [("domains", .array [.object [("domain", .string "Page"),
    ("commands", .array [.object [("name", .string "navigate"), ("description", .integer 1)]])]])]

def isInvalidRecord : Except Failure Schema → Bool
  | .error (.invalidRecord _) => true
  | _ => false

/-- Loading that document fails with the report of an invalid record. -/
theorem exists_invalidRecord : ∃ e transcript t,
    Program.runOn (schema (.ofText "p") .tipOfTree true) {} (storedTree numberedPage) =
      ((.error (.invalidRecord e), transcript), t) := by
  obtain ⟨written, hrun⟩ :=
    exists_runOn_schema .tipOfTree true {} (readBytes_storedTree numberedPage)
  have hrecord : isInvalidRecord (schemaAt (path (.ofText "p") .tipOfTree) .tipOfTree
      numberedPage.toText.toUTF8) := by
    rw [schemaAt, documentAt, documentOfBytes_toText]
    decide +kernel
  cases hresult : schemaAt (path (.ofText "p") .tipOfTree) .tipOfTree
      numberedPage.toText.toUTF8 with
  | ok schema =>
    rw [hresult] at hrecord
    cases hrecord
  | error failure =>
    rw [hresult] at hrun hrecord
    cases failure with
    | invalidRecord e => exact ⟨e, written, _, hrun⟩
    | _ => cases hrecord

end ProtocolFile

end ProtocolBindings
