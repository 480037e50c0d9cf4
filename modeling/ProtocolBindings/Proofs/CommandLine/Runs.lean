import ProtocolBindings.CommandLine.Command
import ProtocolBindings.Proofs.Results

/-!
# Runs of commands

What a command gives, shows and leaves behind, read off its steps.
-/

namespace ProtocolBindings.CommandLine.Command

variable {σ α β : Type}

/-- What a command gives and shows, and the state that it leaves. -/
def runOn (c : Command (StateM σ) α) (transcript : Transcript) (s : σ) :
    (Except Stop α × Transcript) × σ :=
  ((ExceptT.run c).run transcript).run s

variable {transcript : Transcript} {s : σ}

theorem runOn_bind (c : Command (StateM σ) α) (f : α → Command (StateM σ) β) :
    runOn (c >>= f) transcript s =
      match runOn c transcript s with
      | ((.ok a, transcript'), s') => runOn (f a) transcript' s'
      | ((.error stop, transcript'), s') => ((.error stop, transcript'), s') := by
  rw [runOn, ExceptT.run_bind, StateT.run_bind, StateT.run_bind, ← runOn]
  rcases runOn c transcript s with ⟨⟨_ | a, transcript'⟩, s'⟩
  · rfl
  · rfl

theorem runOn_run (program : Program (StateM σ) α) :
    runOn (run program) transcript s =
      match ((ExceptT.run program).run transcript).run s with
      | ((.ok a, transcript'), s') => ((.ok a, transcript'), s')
      | ((.error failure, transcript'), s') => ((.error (.escaped failure), transcript'), s') := by
  have hrun : runOn (run program) transcript s =
      (((((ExceptT.run program).run transcript).run s).1.1.mapError .escaped,
        (((ExceptT.run program).run transcript).run s).1.2),
          (((ExceptT.run program).run transcript).run s).2) := rfl
  rw [hrun]
  rcases ((ExceptT.run program).run transcript).run s with ⟨⟨_ | a, transcript'⟩, s'⟩
  · rfl
  · rfl

theorem runOn_reporting [Host] (debug : Bool) (label? : Failure → Option String)
    (program : Program (StateM σ) α) :
    runOn (reporting debug label? program) transcript s =
      match ((ExceptT.run program).run transcript).run s with
      | ((.ok a, transcript'), s') => ((.ok a, transcript'), s')
      | ((.error failure, transcript'), s') =>
        match label? failure with
        | some label => runOn (fail debug label failure.message) transcript' s'
        | none => ((.error (.escaped failure), transcript'), s') := by
  have hlift : runOn (ExceptT.lift (ExceptT.run program) : Command (StateM σ) _) transcript s =
      (((.ok (((ExceptT.run program).run transcript).run s).1.1),
        (((ExceptT.run program).run transcript).run s).1.2),
          (((ExceptT.run program).run transcript).run s).2) := rfl
  rw [reporting, runOn_bind, hlift]
  rcases ((ExceptT.run program).run transcript).run s with ⟨⟨failure | a, transcript'⟩, s'⟩
  · simp only
    cases label? failure with
    | some label => rfl
    | none => rfl
  · rfl

/-- The outcome of a command is read off its run. -/
theorem outcome_congr {c d : Command (StateM σ) Unit} {s' : σ} (form : CommandForm)
    (h : runOn c {} s = runOn d {} s') : (outcome form c).run s = (outcome form d).run s' := by
  rw [runOn, runOn] at h
  unfold outcome
  rw [StateT.run_bind, StateT.run_bind, h]

end ProtocolBindings.CommandLine.Command
