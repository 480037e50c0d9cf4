import ProtocolBindings.Files.Tree
import ProtocolBindings.Program
import ProtocolBindings.Proofs.Results

/-!
# Runs of programs on a file tree

What a program gives and leaves behind, read off its steps.
-/

namespace ProtocolBindings

namespace Program

variable {α β : Type}

/-- What a program gives and leaves when it runs on a file tree. -/
def runOn (program : Program (StateM FileTree) α) (transcript : Transcript) (t : FileTree) :
    (Except Failure α × Transcript) × FileTree :=
  (program.run.run transcript).run t

variable {transcript transcript' : Transcript} {t t' : FileTree}

theorem runOn_bind (x : Program (StateM FileTree) α) (f : α → Program (StateM FileTree) β) :
    runOn (x >>= f) transcript t =
      match runOn x transcript t with
      | ((.ok a, transcript'), t') => runOn (f a) transcript' t'
      | ((.error e, transcript'), t') => ((.error e, transcript'), t') := by
  rw [runOn, ExceptT.run_bind, StateT.run_bind, StateT.run_bind, ← runOn]
  rcases runOn x transcript t with ⟨⟨_ | a, transcript'⟩, t'⟩
  · rfl
  · rfl

theorem runOn_files (step : ExceptT FileError (StateM FileTree) α) :
    runOn (files step) transcript t =
      match step.run.run t with
      | (.ok a, t') => ((.ok a, transcript), t')
      | (.error e, t') => ((.error (.file e), transcript), t') := by
  change ((step.run >>= _ : StateM FileTree _).run t) = _
  rw [StateT.run_bind]
  rcases step.run.run t with ⟨_ | a, t'⟩
  · rfl
  · rfl

theorem runOn_ofExcept {ε : Type} (f : ε → Failure) (result : Except ε α) :
    runOn (ofExcept f result) transcript t = ((result.mapError f, transcript), t) := by
  cases result with
  | error e => rfl
  | ok a => rfl

/-- Both steps of a program that succeeds have succeeded. -/
theorem exists_of_runOn_bind_eq_ok {x : Program (StateM FileTree) α}
    {f : α → Program (StateM FileTree) β} {b : β}
    (h : runOn (x >>= f) transcript t = ((.ok b, transcript'), t')) :
    ∃ a between t₁, runOn x transcript t = ((.ok a, between), t₁) ∧
      runOn (f a) between t₁ = ((.ok b, transcript'), t') := by
  rw [runOn_bind] at h
  rcases hx : runOn x transcript t with ⟨⟨e | a, between⟩, t₁⟩
  · rw [hx] at h
    cases (Prod.mk.inj (Prod.mk.inj h).1).1
  · rw [hx] at h
    exact ⟨a, between, t₁, rfl, h⟩

/-- Of a program that fails, the first step has failed, or it has succeeded and the rest has
failed. -/
theorem exists_of_runOn_bind_eq_error {x : Program (StateM FileTree) α}
    {f : α → Program (StateM FileTree) β} {failure : Failure}
    (h : runOn (x >>= f) transcript t = ((.error failure, transcript'), t')) :
    runOn x transcript t = ((.error failure, transcript'), t') ∨
      ∃ a between t₁, runOn x transcript t = ((.ok a, between), t₁) ∧
        runOn (f a) between t₁ = ((.error failure, transcript'), t') := by
  rw [runOn_bind] at h
  rcases hx : runOn x transcript t with ⟨⟨e | a, between⟩, t₁⟩
  · rw [hx] at h
    obtain ⟨hresult, rfl⟩ := Prod.mk.inj h
    obtain ⟨herror, rfl⟩ := Prod.mk.inj hresult
    obtain rfl := Except.error.inj herror
    exact Or.inl rfl
  · rw [hx] at h
    exact Or.inr ⟨a, between, t₁, rfl, h⟩

/-- A step on files that succeeds shows nothing. -/
theorem of_runOn_files_eq_ok {step : ExceptT FileError (StateM FileTree) α} {a : α}
    (h : runOn (files step) transcript t = ((.ok a, transcript'), t')) :
    step.run.run t = (.ok a, t') ∧ transcript = transcript' := by
  rw [runOn_files] at h
  rcases hstep : step.run.run t with ⟨e | b, t₁⟩
  · rw [hstep] at h
    cases (Prod.mk.inj (Prod.mk.inj h).1).1
  · rw [hstep] at h
    obtain ⟨hresult, rfl⟩ := Prod.mk.inj h
    obtain ⟨hb, rfl⟩ := Prod.mk.inj hresult
    rw [Except.ok.inj hb]
    exact ⟨rfl, rfl⟩

/-- A step on files fails because of a file only. -/
theorem run_of_runOn_files_eq_error {step : ExceptT FileError (StateM FileTree) α}
    {failure : Failure}
    (h : runOn (files step) transcript t = ((.error failure, transcript'), t')) :
    ∃ e, failure = .file e ∧ step.run.run t = (.error e, t') := by
  rw [runOn_files] at h
  rcases hstep : step.run.run t with ⟨e | b, t₁⟩
  · rw [hstep] at h
    obtain ⟨hresult, rfl⟩ := Prod.mk.inj h
    exact ⟨e, (Except.error.inj (Prod.mk.inj hresult).1).symm, rfl⟩
  · rw [hstep] at h
    cases (Prod.mk.inj (Prod.mk.inj h).1).1

theorem of_runOn_ofExcept_eq_ok {ε : Type} {f : ε → Failure} {result : Except ε α} {a : α}
    (h : runOn (ofExcept f result) transcript t = ((.ok a, transcript'), t')) :
    result = .ok a ∧ transcript = transcript' ∧ t = t' := by
  rw [runOn_ofExcept] at h
  obtain ⟨hresult, rfl⟩ := Prod.mk.inj h
  obtain ⟨hok, rfl⟩ := Prod.mk.inj hresult
  exact ⟨Results.mapError_eq_ok_iff.1 hok, rfl, rfl⟩

theorem of_runOn_ofExcept_eq_error {ε : Type} {f : ε → Failure} {result : Except ε α}
    {failure : Failure}
    (h : runOn (ofExcept f result) transcript t = ((.error failure, transcript'), t')) :
    ∃ e, result = .error e ∧ failure = f e ∧ t' = t := by
  rw [runOn_ofExcept] at h
  obtain ⟨hresult, rfl⟩ := Prod.mk.inj h
  have herror := (Prod.mk.inj hresult).1
  cases result with
  | error e => exact ⟨e, rfl, (Except.error.inj herror).symm, rfl⟩
  | ok a => cases herror

end Program

end ProtocolBindings
