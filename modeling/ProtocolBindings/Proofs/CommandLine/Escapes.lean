import ProtocolBindings.Proofs.CommandLine.Runs
import ProtocolBindings.Proofs.Generation.Preparation
import ProtocolBindings.Proofs.OnTree

/-!
# Failures that a command does not report

A command ends with such a failure exactly if one of its steps does: a step none of whose failures
is reported, or one with a failure that has no label, or whose label and message the console cannot
show.
-/

namespace ProtocolBindings.CommandLine

open OnTree

/-- The error output ends with a line that reports an error. -/
def Outcome.EndsInError (o : Outcome) : Prop :=
  ∃ before message, o.transcript.err = before ++ "Error: " ++ message ++ "\n"

/-- A command has done what it was to do, or it has reported an error. -/
def Outcome.IsReported (o : Outcome) : Prop :=
  o.escaped = none ∧ (o.exitCode = 0 ∨ (o.exitCode = 1 ∨ o.exitCode = 2) ∧ o.EndsInError)

/-- The program has met half a pair of units.  Nothing is said of how it goes on. -/
def Outcome.EndsAtHalfPair (o : Outcome) : Prop :=
  ∃ failure, o.escaped = some failure ∧ failure.IsHalfPair

def reportLine (label : String) (failure : Failure) : String :=
  "[red]" ++ label ++ ":[/red] " ++ failure.message

/-- Half pairs of units have no label. -/
def LeavesHalfPairs (label? : Failure → Option String) : Prop :=
  ∀ failure, failure.IsHalfPair → label? failure = none

theorem leavesHalfPairs_configLabel? : LeavesHalfPairs configLabel? := by
  rintro (_ | _ | e | _ | _ | ⟨_ | _ | _ | _, _⟩ | _ | _ | _) hpair
  case file =>
    have hproblem : e.problem = .beyond .pairs := hpair
    simp [configLabel?, hproblem]
  all_goals first | rfl | exact hpair.elim

theorem leavesHalfPairs_runLabel? : LeavesHalfPairs runLabel? := by
  rintro (_ | _ | e | _ | _ | _ | _ | _ | _) hpair
  case file =>
    have hproblem : e.problem = .beyond .pairs := hpair
    simp [runLabel?, hproblem]
  all_goals first | rfl | exact hpair.elim

namespace Command

variable {α β : Type} {t : FileTree}

/-- Whether a command ends with a failure that it does not report.  Half pairs of units are left
out. -/
def Escapes (c : Command (StateM FileTree) α) (t : FileTree) : Prop :=
  ∃ failure, result c t = .error (.escaped failure) ∧ ¬failure.IsHalfPair

theorem not_escapes_of_result_eq_ok {c : Command (StateM FileTree) α} {a : α}
    (h : result c t = .ok a) : ¬Escapes c t := by
  rintro ⟨failure, hfailure, -⟩
  rw [h] at hfailure
  cases hfailure

theorem not_escapes_misused (problem : UsageProblem) :
    ¬Escapes (throw (.misused problem) : Command (StateM FileTree) α) t := by
  rintro ⟨failure, hfailure, -⟩
  cases hfailure

theorem escapes_bind_iff {c : Command (StateM FileTree) α} {f : α → Command (StateM FileTree) β}
    (hc : IsUnmoved c) (hf : ∀ a, IsUnmoved (f a)) :
    Escapes (c >>= f) t ↔
      Escapes c t ∨ ∃ a, result c t = .ok a ∧ Escapes (f a) (treeAfter c t) := by
  simp only [Escapes, result_bind hc hf, Results.bind_eq_error_iff]
  constructor
  · rintro ⟨failure, hc | ⟨a, ha, hf⟩, hpair⟩
    · exact Or.inl ⟨failure, hc, hpair⟩
    · exact Or.inr ⟨a, ha, failure, hf, hpair⟩
  · rintro (⟨failure, hc, hpair⟩ | ⟨a, ha, failure, hf, hpair⟩)
    · exact ⟨failure, Or.inl hc, hpair⟩
    · exact ⟨failure, Or.inr ⟨a, ha, hf⟩, hpair⟩

/-! ## Steps none of whose failures is reported -/

theorem unmoved_run {program : Program (StateM FileTree) α} (h : IsUnmoved program) :
    IsUnmoved (run program) ∧ ∀ t,
      result (run program) t = (result program t).mapError .escaped ∧
        treeAfter (run program) t = treeAfter program t := by
  apply isUnmoved_of_eq
    (f := fun t => ((result program t).mapError Stop.escaped, treeAfter program t))
  intro transcript t
  obtain ⟨shown, hrun⟩ := h transcript t
  refine ⟨shown, ?_⟩
  change runOn (run program) transcript t = _
  rw [runOn_run, hrun]
  cases result program t with
  | error failure => rfl
  | ok a => rfl

theorem escapes_run_iff {program : Program (StateM FileTree) α} (h : IsUnmoved program) :
    Escapes (run program) t ↔
      Results.FailsWith (fun failure => ¬failure.IsHalfPair) (result program t) := by
  refine exists_congr fun failure => ?_
  rw [((unmoved_run h).2 t).1, Results.mapError_eq_error_iff]
  simp

/-! ## Outcomes -/

theorem endsInError_misuseText (form : CommandForm) (problem : UsageProblem) (err : String) :
    ∃ before message, err ++ form.misuseText problem = before ++ "Error: " ++ message ++ "\n" := by
  unfold CommandForm.misuseText
  split
  · exact ⟨err ++ ("Usage: " ++ form.path ++ " " ++ form.words ++ "\nTry '" ++ form.path ++
      " --help' for help.\n\n"), problem.message, by simp only [String.append_assoc]⟩
  · exact ⟨err ++ "", problem.message, by simp only [String.append_assoc]⟩

/-- The outcome of a command that has written a transcript, by what has become of it. -/
def outcomeAfter (form : CommandForm) (transcript : Transcript) : Except Stop Unit → Outcome
  | .ok () => { exitCode := 0, transcript }
  | .error (.reported message) =>
    { exitCode := 1
      transcript := { transcript with err := transcript.err ++ "Error: " ++ message ++ "\n" } }
  | .error (.misused problem) =>
    { exitCode := 2
      transcript := { transcript with err := transcript.err ++ form.misuseText problem } }
  | .error (.escaped failure) => { exitCode := 1, transcript, escaped := some failure }

theorem run_outcome (form : CommandForm) (c : Command (StateM FileTree) Unit) :
    ((outcome form c).run t).1 =
      outcomeAfter form (((ExceptT.run c).run {}).run t).1.2 (result c t) := by
  unfold outcome
  rw [StateT.run_bind, result]
  rcases ((ExceptT.run c).run {}).run t with ⟨⟨(message | problem | failure) | _, _⟩, _⟩
  · rfl
  · rfl
  · rfl
  · rfl

/-- The outcome of a command that does not end at half a pair of units is reported exactly if no
failure escapes from it. -/
theorem isReported_outcome_iff (form : CommandForm) (c : Command (StateM FileTree) Unit)
    (hpairs : ¬((outcome form c).run t).1.EndsAtHalfPair) :
    ((outcome form c).run t).1.IsReported ↔ ¬Escapes c t := by
  rw [run_outcome] at hpairs ⊢
  rw [Escapes]
  rcases hresult : result c t with (message | problem | failure) | _
  · refine iff_of_true ⟨rfl, Or.inr ⟨Or.inl rfl, _, message, rfl⟩⟩ ?_
    rintro ⟨_, ⟨⟩, -⟩
  · refine iff_of_true ⟨rfl, Or.inr ⟨Or.inr rfl, endsInError_misuseText form problem _⟩⟩ ?_
    rintro ⟨_, ⟨⟩, -⟩
  · rw [hresult] at hpairs
    refine iff_of_false (fun h => ?_) ?_
    · cases h.1
    · exact not_not.2 ⟨failure, rfl, fun hpair => hpairs ⟨failure, rfl, hpair⟩⟩
  · refine iff_of_true ⟨rfl, Or.inl rfl⟩ ?_
    rintro ⟨_, ⟨⟩, -⟩

end Command

/-! ## Steps with failures that are reported -/

variable [Host]

/-- The lines on a failure under a label.  With `debug`, the calls in progress come first. -/
def reportLines (debug : Bool) (label : String) (failure : Failure) : List String :=
  (if debug then [Host.traceback failure.message] else []) ++ [reportLine label failure]

/-- A failure that has no label, or that cannot be shown under it.  Half pairs of units are left
out. -/
def IsUnreported (debug : Bool) (label? : Failure → Option String) (failure : Failure) : Prop :=
  ¬failure.IsHalfPair ∧
    ∀ label, label? failure = some label → ¬Config.CanShow (reportLines debug label failure)

/-- A failure is not reported if it has no label, or if the lines under its label cannot be
shown. -/
theorem failsWith_isUnreported_iff {α : Type} {debug : Bool} {label? : Failure → Option String}
    (hleaves : LeavesHalfPairs label?) {x : Except Failure α} :
    Results.FailsWith (IsUnreported debug label?) x ↔
      Results.FailsWith (fun failure => label? failure = none ∧ ¬failure.IsHalfPair) x ∨
        ∃ failure label, x = .error failure ∧ label? failure = some label ∧
          ¬Config.CanShow (reportLines debug label failure) := by
  constructor
  · rintro ⟨failure, hfailure, hpair, hunreported⟩
    cases hlabel : label? failure with
    | none => exact Or.inl ⟨failure, hfailure, hlabel, hpair⟩
    | some label => exact Or.inr ⟨failure, label, hfailure, hlabel, hunreported label hlabel⟩
  · rintro (⟨failure, hfailure, hnone, hpair⟩ | ⟨failure, label, hfailure, hlabel, hshow⟩)
    · refine ⟨failure, hfailure, hpair, fun label hlabel => ?_⟩
      rw [hnone] at hlabel
      cases hlabel
    · refine ⟨failure, hfailure, fun hpair => ?_, fun label' hlabel' => ?_⟩
      · rw [hleaves failure hpair] at hlabel
        cases hlabel
      · rw [hlabel] at hlabel'
        obtain rfl := Option.some.inj hlabel'
        exact hshow

namespace Command

variable {α : Type} {t : FileTree}

/-- How a step ends that reports a failure under a label. -/
def reportStop (debug : Bool) (label : String) (failure : Failure) : Stop :=
  match (reportLines debug label failure).mapM Console.render with
  | .ok _ => .reported failure.message
  | .error fault => .escaped (.markup fault)

/-- How a step ends with a failure that is reported if it has a label. -/
def stopOf (debug : Bool) (label? : Failure → Option String) (failure : Failure) : Stop :=
  match label? failure with
  | some label => reportStop debug label failure
  | none => .escaped failure

theorem isUnreported_iff {debug : Bool} {label? : Failure → Option String}
    (hleaves : LeavesHalfPairs label?) {failure : Failure} :
    IsUnreported debug label? failure ↔
      ∃ escaped, stopOf debug label? failure = .escaped escaped ∧ ¬escaped.IsHalfPair := by
  rw [IsUnreported, stopOf]
  cases hlabel : label? failure with
  | none => simp
  | some label =>
    have hpair : ¬failure.IsHalfPair := by
      intro hpair
      rw [hleaves failure hpair] at hlabel
      cases hlabel
    have hshow : Config.CanShow (reportLines debug label failure) ↔ _ :=
      Results.exists_mapM_eq_ok_iff.symm
    simp only [Option.some.injEq, forall_eq', reportStop, hshow, hpair, not_false_eq_true,
      true_and]
    cases (reportLines debug label failure).mapM Console.render with
    | error fault => exact iff_of_true (by simp) ⟨_, rfl, id⟩
    | ok texts => simp

theorem exists_mapError_stopOf_iff {debug : Bool} {label? : Failure → Option String}
    (hleaves : LeavesHalfPairs label?) {x : Except Failure α} :
    (∃ escaped, x.mapError (stopOf debug label?) = .error (.escaped escaped) ∧
        ¬escaped.IsHalfPair) ↔
      Results.FailsWith (IsUnreported debug label?) x := by
  simp only [Results.mapError_eq_error_iff, Results.FailsWith, isUnreported_iff hleaves]
  constructor
  · rintro ⟨escaped, ⟨failure, hfailure, hstop⟩, hpair⟩
    exact ⟨failure, hfailure, escaped, hstop, hpair⟩
  · rintro ⟨failure, hfailure, escaped, hstop, hpair⟩
    exact ⟨escaped, ⟨failure, hfailure, hstop⟩, hpair⟩

theorem fail_eq {m : Type → Type} [Monad m] [LawfulMonad m] (debug : Bool) (label : String)
    (failure : Failure) :
    (fail debug label failure.message : Command m α) = (do
      run (Config.printAll (reportLines debug label failure))
      throw (.reported failure.message)) := by
  cases debug with
  | false => simp [fail, reportLines, reportLine, Config.printAll]
  | true => simp [fail, reportLines, reportLine, Config.printAll]

theorem outcome_printAll (lines : List String) (t : FileTree) :
    Program.outcome (Config.printAll lines : Program (StateM FileTree) Unit) t =
      ((lines.mapM Console.render).mapError .markup).map fun _ => () := by
  induction lines with
  | nil => rfl
  | cons line rest ih =>
    rw [Config.printAll, Program.outcome_bind (Program.isReading_print line)
      fun _ => Config.isReading_printAll rest, Program.outcome_print, ih, List.mapM_cons]
    cases Console.render line with
    | error fault => rfl
    | ok text =>
      cases rest.mapM Console.render with
      | error fault => rfl
      | ok texts => rfl

theorem unmoved_fail (debug : Bool) (label : String) (failure : Failure) :
    IsUnmoved (fail debug label failure.message : Command (StateM FileTree) α) ∧ ∀ t,
      result (fail debug label failure.message : Command (StateM FileTree) α) t =
          .error (reportStop debug label failure) ∧
        treeAfter (fail debug label failure.message : Command (StateM FileTree) α) t = t := by
  have hprint := unmoved_of_isReading
    (Config.isReading_printAll (reportLines debug label failure))
  have hlines := unmoved_run hprint.1
  have hthrow (_ : Unit) := isUnmoved_throw (α := α) (Stop.reported failure.message)
  rw [fail_eq]
  refine ⟨hlines.1.bind hthrow, fun t => ⟨?_, ?_⟩⟩
  · rw [result_bind hlines.1 hthrow, (hlines.2 t).1, (hprint.2 t).1, outcome_printAll, reportStop]
    cases (reportLines debug label failure).mapM Console.render with
    | error fault => rfl
    | ok texts => rfl
  · exact treeAfter_bind hlines.1 hthrow (by rw [(hlines.2 t).2, (hprint.2 t).2]) fun _ => rfl

theorem unmoved_reporting (debug : Bool) (label? : Failure → Option String)
    {program : Program (StateM FileTree) α} (h : IsUnmoved program) :
    IsUnmoved (reporting debug label? program) ∧ ∀ t,
      result (reporting debug label? program) t =
          (result program t).mapError (stopOf debug label?) ∧
        treeAfter (reporting debug label? program) t = treeAfter program t := by
  apply isUnmoved_of_eq
    (f := fun t => ((result program t).mapError (stopOf debug label?), treeAfter program t))
  intro transcript t
  obtain ⟨shown, hrun⟩ := h transcript t
  change ∃ shown, runOn (reporting debug label? program) transcript t = _
  rw [runOn_reporting, hrun]
  cases result program t with
  | ok a => exact ⟨shown, rfl⟩
  | error failure =>
    simp only [Except.mapError, stopOf]
    cases label? failure with
    | none => exact ⟨shown, rfl⟩
    | some label =>
      obtain ⟨hfail, htree⟩ := unmoved_fail (α := α) debug label failure
      obtain ⟨shown', hrun'⟩ := hfail shown (treeAfter program t)
      rw [(htree _).1, (htree _).2] at hrun'
      exact ⟨shown', hrun'⟩

theorem result_reporting_eq_ok_iff {debug : Bool} {label? : Failure → Option String} {a : α}
    {program : Program (StateM FileTree) α} (h : IsUnmoved program) :
    result (reporting debug label? program) t = .ok a ↔ result program t = .ok a := by
  rw [((unmoved_reporting debug label? h).2 t).1, Results.mapError_eq_ok_iff]

theorem escapes_reporting_iff {debug : Bool} {label? : Failure → Option String}
    (hleaves : LeavesHalfPairs label?) {program : Program (StateM FileTree) α}
    (h : IsUnmoved program) :
    Escapes (reporting debug label? program) t ↔
      Results.FailsWith (IsUnreported debug label?) (result program t) := by
  rw [Escapes, ((unmoved_reporting debug label? h).2 t).1, exists_mapError_stopOf_iff hleaves]

end Command

end ProtocolBindings.CommandLine
