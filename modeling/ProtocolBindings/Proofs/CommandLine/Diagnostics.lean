import ProtocolBindings.Proofs.CommandLine.Failures
import ProtocolBindings.Proofs.Console.Verbatim

/-!
# What is shown of an error in the protocol

An error in the protocol ends a command with a line on the console, which gives the error a label,
and one on the error output.  Both are to hold the text of the error.  The error output always does;
the console reads the text as it reads every message, so that parts of it may be lost.
-/

namespace ProtocolBindings

open Program OnTree

namespace CommandLine

open CommandLine.Command
open Config (CanShow printAll)

variable {environment : Option String} {args : List String} {t t' : FileTree} {a : Arguments}
  {debug : Bool} {named : Option Path} {p : Path} {config : Config} {e : GenerationError}
  {before written transcript : Transcript} {form : CommandForm}
  {lines : Arguments → Path → List String}

/-! ## Up to the error -/

theorem runOn_pathArgument (h : Names t a named) :
    Command.runOn (pathArgument configForm "Path" true a) transcript t =
      ((.ok named, transcript), t) := by
  rw [pathArgument_eq]
  cases h with
  | unnamed hvalue =>
    rw [hvalue]
    rfl
  | @named text hvalue hthere =>
    rw [hvalue]
    simp only [Command.runOn_bind, runOn_argumentKind]
    obtain ⟨kind, hkind⟩ := Option.isSome_iff_exists.1 hthere
    rw [hkind]
    rfl

/-- A command that gets past its arguments goes on with what is behind them. -/
theorem runOn_withArguments (h : Starts form args t a named)
    (body : Arguments → Option Path → Command (StateM FileTree) Unit) :
    Command.runOn (withArguments form args (pathArgument configForm "Path" true) body)
      transcript t = Command.runOn (body a named) transcript t := by
  rw [withArguments, h.read]
  simp only [h.help, Bool.false_eq_true, if_false]
  rw [Command.runOn_bind, runOn_pathArgument h.named]
  simp only [h.words, List.isEmpty_nil, if_true]

theorem isLabel_causeLabel (cause : GenerationError.Cause) :
    Console.IsLabel (causeLabel cause) := by
  have hlabels : ∀ label ∈ ["Protocol schema not found", "Malformed protocol schema",
      "Unresolved reference", "Generation error"], Markup.IsPlain (label ++ ":").toList ∧
        Markup.shown (label ++ ":").toList = (label ++ ":").toList := by
    decide
  have hmem : causeLabel cause ∈ ["Protocol schema not found", "Malformed protocol schema",
      "Unresolved reference", "Generation error"] := by
    cases cause <;> simp [causeLabel]
  exact ⟨(hlabels _ hmem).1, (hlabels _ hmem).2⟩

section

variable [Host]

/-- A command comes to its run: it gets past its arguments, reads its configuration and shows some
lines, with so much written then. -/
inductive Reaches (form : CommandForm) (environment : Option String) (args : List String)
    (t : FileTree) (lines : Arguments → Path → List String) (a : Arguments) (config : Config)
    (before : Transcript) : Prop where
  | intro {named : Option Path} {p : Path} {loaded : Transcript}
      (hstart : Starts form args t a named)
      (hload : Command.runOn
        (loadConfig (a.has .debug) environment named (a.value? .protocolVersion)) {} t =
          ((.ok (config, p), loaded), t))
      (hlines : Command.runOn (Command.run (printAll (lines a p))) loaded t =
        ((.ok (), before), t))

/-- The line in front of a validation. -/
def configLines (_ : Arguments) (p : Path) : List String :=
  ["[green]Config valid:[/green] " ++ p.text]

/-- The program comes to an error in the protocol, with so much written then: in the run of the
command that generates a package, or in that of the one that validates.  It was asked for the calls
in progress or not. -/
inductive EndsWith (environment : Option String) (t : FileTree) :
    List String → Bool → GenerationError → Transcript → Prop where
  | generate {args : List String} {a : Arguments} {config : Config} {e : GenerationError}
      {before written : Transcript} {t' : FileTree}
      (hreach : Reaches generateForm environment args t startLines a config before)
      (hrun : Program.runOn (config.generate (a.has .dryRun) (a.has .verbose)) before t =
        ((.error (.generation e), written), t')) :
      EndsWith environment t ("generate" :: args) (a.has .debug) e written
  | validate {args : List String} {a : Arguments} {config : Config} {e : GenerationError}
      {before written : Transcript} {t' : FileTree}
      (hreach : Reaches validateForm environment args t configLines a config before)
      (hrun : Program.runOn (checkProtocol config) before t =
        ((.error (.generation e), written), t')) :
      EndsWith environment t ("validate" :: args) (a.has .debug) e written

/-- A command that gets past its arguments and reads its configuration comes to its run, if its
lines can be shown. -/
theorem exists_reaches (hstart : Starts form args t a named)
    (hload : result (loadConfig (a.has .debug) environment named (a.value? .protocolVersion) :
      Command (StateM FileTree) _) t = .ok (config, p)) (hlines : CanShow (lines a p)) :
    ∃ before, Reaches form environment args t lines a config before := by
  obtain ⟨hloaded, hleft⟩ :=
    unmoved_loadConfig (a.has .debug) environment named (a.value? .protocolVersion)
  obtain ⟨loaded, hrun⟩ := hloaded {} t
  obtain ⟨before, hshown⟩ := (unmoved_printAll (lines a p)).1 loaded t
  rw [hload, (hleft t).1] at hrun
  rw [result_printAll_eq_ok_iff.2 hlines, (unmoved_printAll (lines a p)).2 t] at hshown
  exact ⟨before, hstart, hrun, hshown⟩

/-- A validation that comes to its run ends with the error of its protocol. -/
theorem Reaches.exists_endsWith
    (h : Reaches validateForm environment args t configLines a config before)
    (herror : generationError? (outcome (checkProtocol config) t) = some e) :
    ∃ written, EndsWith environment t ("validate" :: args) (a.has .debug) e written := by
  obtain ⟨written, hrun⟩ := Config.isReading_checkProtocol config before t
  cases houtcome : outcome (checkProtocol config) t with
  | ok schema =>
    rw [houtcome] at herror
    cases herror
  | error failure =>
    rw [houtcome] at herror hrun
    cases failure <;> cases herror
    exact ⟨written, .validate h hrun⟩

/-! ## The report -/

/-- What is shown in front of a report: the calls in progress if they were asked for. -/
def tracedText (debug : Bool) (message : String) : Except Markup.Fault String :=
  if debug then Console.render (Host.traceback message) else .ok ""

/-- What is written behind a report, where `written` is what was written before. -/
def reportedAfter (debug : Bool) (written : Transcript) (e : GenerationError) : Transcript :=
  match tracedText debug e.message with
  | .error _ => written
  | .ok trace =>
    match Console.render (Console.labelled (causeLabel e.cause) e.message) with
    | .error _ => { written with out := written.out ++ trace }
    | .ok text =>
      { out := written.out ++ trace ++ text, err := written.err ++ "Error: " ++ e.message ++ "\n" }

theorem runOn_fail {α : Type} (debug : Bool) (label message : String) :
    Command.runOn (fail debug label message : Command (StateM FileTree) α) transcript t =
      match tracedText debug message with
      | .error fault => ((.error (.escaped (.markup fault)), transcript), t)
      | .ok trace =>
        match Console.render (Console.labelled label message) with
        | .error fault =>
          ((.error (.escaped (.markup fault)), { transcript with out := transcript.out ++ trace }),
            t)
        | .ok text =>
          ((.error (.reported message),
            { transcript with out := transcript.out ++ trace ++ text }), t) := by
  rw [fail, Command.runOn_bind, runOn_run, ← Console.labelled, tracedText]
  unfold Program.print
  cases debug with
  | false =>
    cases Console.render (Console.labelled label message) with
    | error fault =>
      simp only [String.append_empty, Bool.false_eq_true, if_false]
      rfl
    | ok text =>
      simp only [String.append_empty, Bool.false_eq_true, if_false]
      rfl
  | true =>
    cases Console.render (Host.traceback message) with
    | error fault => rfl
    | ok trace =>
      cases Console.render (Console.labelled label message) with
      | error fault => rfl
      | ok text => rfl

/-- A command whose run comes to an error in the protocol ends with the report of it. -/
theorem Reaches.transcript_eq {α : Type} {program : Program (StateM FileTree) α}
    (h : Reaches form environment args t lines a config before)
    (hrun : Program.runOn program before t = ((.error (.generation e), written), t'))
    (body : Arguments → Config → Path → Command (StateM FileTree) Unit)
    (after : α → Command (StateM FileTree) Unit)
    (hbody : ∀ p, body a config p = (do
      Command.run (printAll (lines a p))
      Command.reporting (a.has .debug) runLabel? program >>= after)) :
    ((Command.outcome form (withArguments form args (pathArgument configForm "Path" true)
      fun a named => do
        let loaded ← loadConfig (a.has .debug) environment named (a.value? .protocolVersion)
        body a loaded.1 loaded.2)).run t).1.transcript =
      reportedAfter (a.has .debug) written e := by
  obtain ⟨hstart, hload, hlines⟩ := h
  have hreport : Command.runOn (Command.reporting (a.has .debug) runLabel? program) before t =
      Command.runOn (fail (a.has .debug) (causeLabel e.cause) e.message :
        Command (StateM FileTree) α) written t' := by
    rw [runOn_reporting, ← Program.runOn, hrun]
    rfl
  rw [run_outcome, result, ← Command.runOn, runOn_withArguments hstart, Command.runOn_bind, hload]
  simp only [hbody, Command.runOn_bind, hlines, hreport, runOn_fail, reportedAfter]
  cases tracedText (a.has .debug) e.message with
  | error fault => rfl
  | ok trace =>
    cases Console.render (Console.labelled (causeLabel e.cause) e.message) with
    | error fault => rfl
    | ok text => rfl

/-- Where the program comes to an error in the protocol, it ends with the report of it. -/
theorem EndsWith.transcript_eq (h : EndsWith environment t args debug e written) :
    (outcomeOf environment args t).transcript = reportedAfter debug written e := by
  cases h with
  | @generate args a config e before written t' hreach hrun =>
    rw [outcomeOf, run_generate]
    refine hreach.transcript_eq hrun generateWith
      (fun report => Command.run (showReport a config report)) fun p => ?_
    rw [generateWith, showStart_eq]
  | @validate args a config e before written t' hreach hrun =>
    rw [outcomeOf, run_validate]
    refine hreach.transcript_eq hrun (fun a => validateWith (a.has .debug))
      (fun schema => Command.run (showCounts schema)) fun p => ?_
    simp only [validateWith, configLines, printAll, bind_pure_unit]

/-! ## The text of the error -/

/-- The report of an error is shown as it is to be: behind what is shown in front of it, there are
the label and the text of the error on the console, and the text of the error on the error
output. -/
def ShowsWhole (debug : Bool) (written after : Transcript) (e : GenerationError) : Prop :=
  ∃ trace, tracedText debug e.message = .ok trace ∧
    after.out = written.out ++ trace ++ (causeLabel e.cause ++ ": " ++ e.message ++ "\n") ∧
      after.err = written.err ++ "Error: " ++ e.message ++ "\n"

theorem showsWhole_reportedAfter_iff :
    ShowsWhole debug written (reportedAfter debug written e) e ↔
      (∃ trace, tracedText debug e.message = .ok trace) ∧
        Console.render (Console.labelled (causeLabel e.cause) e.message) =
          .ok (causeLabel e.cause ++ ": " ++ e.message ++ "\n") := by
  rw [ShowsWhole, reportedAfter]
  cases tracedText debug e.message with
  | error fault => simp
  | ok trace =>
    cases Console.render (Console.labelled (causeLabel e.cause) e.message) with
    | error fault =>
      refine iff_of_false ?_ (by simp)
      rintro ⟨_, htrace, hout, -⟩
      obtain rfl := Except.ok.inj htrace
      have hempty := String.append_eq_left_iff.1 hout.symm
      simp [String.append_eq_empty_iff] at hempty
    | ok text => simp [String.append_right_inj]

end

/-- A tree with a protocol that has one domain, of the given name. -/
def domainTree (name : String) : FileTree where
  entries :=
    [(["cri.yml"], .file "output: out\n".toUTF8), (["priv"], .directory),
      (["priv", "tot"], .directory), (["priv", "tot", "protocol.json"],
        .file ("\x7b\"domains\":[\x7b\"domain\":\"" ++ name ++ "\"\x7d]\x7d").toUTF8)]

def domainError (name : String) : GenerationError :=
  { cause := .schemaMalformed (.badDomainName name), location := some name }

theorem exists_endsWith_domain (name : String)
    (herror : generationError? (outcome (checkProtocol
      { protocolDir := "/priv", output := "/out", version := .tipOfTree }) (domainTree name)) =
        some (domainError name)) :
    ∃ written, EndsWith none (domainTree name) ["validate"] false (domainError name) written := by
  have hread : (domainTree name).readBytes ⟨.top, ["cri.yml"]⟩ = .ok "output: out\n".toUTF8 := rfl
  have hconfig : Config.fileAt none (domainTree name) ⟨.top, ["cri.yml"]⟩ =
      .ok { output := "out", version := .tipOfTree } := by
    rw [Config.fileAt, hread]
    exact Results.toOption_eq_some_iff.1 (by decide +kernel)
  have hload : result (loadConfig false none none none : Command (StateM FileTree) _)
      (domainTree name) = .ok ({ protocolDir := "/priv", output := "/out", version := .tipOfTree },
        ⟨.top, ["cri.yml"]⟩) :=
    result_loadConfig_eq_ok_iff.2 ⟨rfl, _, hconfig, by decide⟩
  have hstart : Starts validateForm [] (domainTree name) {} none := ⟨rfl, rfl, .unnamed rfl, rfl⟩
  have hlines : CanShow (configLines {} ⟨.top, ["cri.yml"]⟩) := canShow_of_all (by decide +kernel)
  obtain ⟨before, hreach⟩ := exists_reaches hstart hload hlines
  exact hreach.exists_endsWith herror

end CommandLine

end ProtocolBindings
