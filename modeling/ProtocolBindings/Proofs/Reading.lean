import ProtocolBindings.Proofs.Program

/-!
# Programs that only read

A program that reads files and shows messages leaves the tree as it is, and what it gives depends
on the tree alone.  So it has an outcome on every tree, and the outcome of two such programs one
after the other follows from those of the two.
-/

namespace ProtocolBindings.Program

variable {α β : Type} {transcript : Transcript} {t : FileTree}

def outcome (program : Program (StateM FileTree) α) (t : FileTree) : Except Failure α :=
  (runOn program {} t).1.1

/-- A program that leaves every tree as it is and gives the same whatever was shown before. -/
def IsReading (program : Program (StateM FileTree) α) : Prop :=
  ∀ transcript t, ∃ shown, runOn program transcript t = ((outcome program t, shown), t)

theorem isReading_of_eq {program : Program (StateM FileTree) α} {f : FileTree → Except Failure α}
    (h : ∀ transcript t, ∃ shown, runOn program transcript t = ((f t, shown), t)) :
    IsReading program ∧ ∀ t, outcome program t = f t := by
  have houtcome : ∀ t, outcome program t = f t := by
    intro t
    obtain ⟨shown, hrun⟩ := h {} t
    rw [outcome, hrun]
  refine ⟨?_, houtcome⟩
  intro transcript t
  obtain ⟨shown, hrun⟩ := h transcript t
  refine ⟨shown, ?_⟩
  rw [hrun, houtcome]

theorem bind_of_isReading {x : Program (StateM FileTree) α}
    {f : α → Program (StateM FileTree) β} (hx : IsReading x) (hf : ∀ a, IsReading (f a)) :
    IsReading (x >>= f) ∧
      ∀ t, outcome (x >>= f) t = outcome x t >>= fun a => outcome (f a) t := by
  apply isReading_of_eq
  intro transcript t
  obtain ⟨shown, hrun⟩ := hx transcript t
  rw [runOn_bind, hrun]
  cases outcome x t with
  | error e => exact ⟨shown, rfl⟩
  | ok a => exact hf a shown t

theorem IsReading.bind {x : Program (StateM FileTree) α} {f : α → Program (StateM FileTree) β}
    (hx : IsReading x) (hf : ∀ a, IsReading (f a)) : IsReading (x >>= f) :=
  (bind_of_isReading hx hf).1

/-- The outcome of two programs in a row. -/
theorem outcome_bind {x : Program (StateM FileTree) α} {f : α → Program (StateM FileTree) β}
    (hx : IsReading x) (hf : ∀ a, IsReading (f a)) (t : FileTree) :
    outcome (x >>= f) t = outcome x t >>= fun a => outcome (f a) t :=
  (bind_of_isReading hx hf).2 t

theorem isReading_pure (a : α) : IsReading (pure a : Program (StateM FileTree) α) :=
  fun transcript _ => ⟨transcript, rfl⟩

theorem isReading_throw (failure : Failure) :
    IsReading (throw failure : Program (StateM FileTree) α) :=
  fun transcript _ => ⟨transcript, rfl⟩

theorem isReading_ofExcept {ε : Type} (f : ε → Failure) (result : Except ε α) :
    IsReading (ofExcept f result : Program (StateM FileTree) α) := by
  cases result with
  | error e => exact isReading_throw (f e)
  | ok a => exact isReading_pure a

theorem outcome_ofExcept {ε : Type} (f : ε → Failure) (result : Except ε α) (t : FileTree) :
    outcome (ofExcept f result) t = result.mapError f := by
  rw [outcome, runOn_ofExcept]

theorem files_of_isReading {step : ExceptT FileError (StateM FileTree) α}
    (h : ∀ t, (step.run.run t).2 = t) :
    IsReading (files step) ∧ ∀ t, outcome (files step) t = (step.run.run t).1.mapError .file := by
  apply isReading_of_eq
  intro transcript t
  have htree := h t
  rw [runOn_files]
  rcases hstep : step.run.run t with ⟨e | a, t'⟩
  · rw [hstep] at htree
    obtain rfl := htree
    exact ⟨transcript, rfl⟩
  · rw [hstep] at htree
    obtain rfl := htree
    exact ⟨transcript, rfl⟩

/-- A step on files that leaves every tree as it is. -/
theorem isReading_files {step : ExceptT FileError (StateM FileTree) α}
    (h : ∀ t, (step.run.run t).2 = t) : IsReading (files step) :=
  (files_of_isReading h).1

theorem outcome_files {step : ExceptT FileError (StateM FileTree) α}
    (h : ∀ t, (step.run.run t).2 = t) (t : FileTree) :
    outcome (files step) t = (step.run.run t).1.mapError .file :=
  (files_of_isReading h).2 t

theorem isReading_write (text : String) : IsReading (write text : Program (StateM FileTree) Unit) :=
  fun transcript _ => ⟨{ transcript with out := transcript.out ++ text }, rfl⟩

theorem isReading_writeError (text : String) :
    IsReading (writeError text : Program (StateM FileTree) Unit) :=
  fun transcript _ => ⟨{ transcript with err := transcript.err ++ text }, rfl⟩

variable [Host]

theorem isReading_print (message : String) :
    IsReading (print message : Program (StateM FileTree) Unit) :=
  (isReading_ofExcept .markup _).bind isReading_write

theorem isReading_printError (message : String) :
    IsReading (printError message : Program (StateM FileTree) Unit) :=
  (isReading_ofExcept .markup _).bind isReading_writeError

/-- Showing a message fails only if the console cannot show it. -/
theorem outcome_print (message : String) (t : FileTree) :
    outcome (print message : Program (StateM FileTree) Unit) t =
      ((Console.render message).mapError .markup).map fun _ => () := by
  rw [print, shown, outcome_bind (isReading_ofExcept _ _) isReading_write, outcome_ofExcept]
  cases Console.render message with
  | error fault => rfl
  | ok text => rfl

end ProtocolBindings.Program
