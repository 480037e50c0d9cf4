import ProtocolBindings.Proofs.Files.Interruption

/-!
# Interrupted programs

What a program leaves that is stopped, read off its steps.
-/

namespace ProtocolBindings.Program

variable {α β : Type} {transcript : Transcript} {t u : FileTree}

/-- The tree that a program leaves if it is stopped after the given number of changes, and in the
middle of the next one if that is the writing of a file that was begun. -/
def treeStopped (program : Program Interruptible α) (changes : Nat) (begun : Option Nat)
    (t : FileTree) : FileTree :=
  (Interruptible.runOn (program.run.run {}) ⟨t, changes, begun⟩).2.tree

/-- A tree that a program leaves, stopped or not. -/
def Leaves (x : Program Interruptible α) (transcript : Transcript) (t u : FileTree) : Prop :=
  Interruptible.Leaves (x.run.run transcript) t u

/-- A program that is not stopped does what another one does. -/
def Tracks (x : Program Interruptible α) (y : Program (StateM FileTree) α) : Prop :=
  ∀ transcript, Interruptible.Tracks (x.run.run transcript) (y.run.run transcript)

theorem leaves_treeStopped (program : Program Interruptible α) (changes : Nat)
    (begun : Option Nat) (t : FileTree) :
    Leaves program {} t (program.treeStopped changes begun t) :=
  ⟨changes, begun, rfl⟩

theorem runOn_bind_interruptible (x : Program Interruptible α) (f : α → Program Interruptible β)
    (transcript : Transcript) (s : Interruption) :
    Interruptible.runOn ((x >>= f).run.run transcript) s =
      match Interruptible.runOn (x.run.run transcript) s with
      | (some (.ok a, transcript'), s') => Interruptible.runOn ((f a).run.run transcript') s'
      | (some (.error e, transcript'), s') => (some (.error e, transcript'), s')
      | (none, s') => (none, s') := by
  rw [ExceptT.run_bind, StateT.run_bind, Interruptible.runOn_bind]
  rcases Interruptible.runOn (x.run.run transcript) s with ⟨_ | ⟨e | a, transcript'⟩, s'⟩
  · rfl
  · rfl
  · rfl

/-- A program of two parts leaves what its first part leaves, or it leaves what the second part
leaves behind the whole of the first. -/
theorem leaves_bind {x : Program Interruptible α} {y : Program (StateM FileTree) α}
    {f : α → Program Interruptible β} (hx : Tracks x y) (h : Leaves (x >>= f) transcript t u) :
    Leaves x transcript t u ∨ ∃ a transcript' t₁,
      runOn y transcript t = ((.ok a, transcript'), t₁) ∧ Leaves (f a) transcript' t₁ u := by
  obtain ⟨left, begun, rfl⟩ := h
  rw [runOn_bind_interruptible]
  rcases hfirst : Interruptible.runOn (x.run.run transcript) ⟨t, left, begun⟩ with
    ⟨_ | ⟨e | a, transcript'⟩, s'⟩
  · exact Or.inl ⟨left, begun, by rw [hfirst]⟩
  · exact Or.inl ⟨left, begun, by rw [hfirst]⟩
  · exact Or.inr ⟨a, transcript', s'.tree, hx transcript _ _ s' hfirst, s'.left, s'.begun, rfl⟩

/-- If the second part changes nothing, a program of two parts leaves what the first one leaves. -/
theorem leaves_of_leaves_bind {x : Program Interruptible α} {f : α → Program Interruptible β}
    (hf : ∀ a transcript t u, Leaves (f a) transcript t u → u = t)
    (h : Leaves (x >>= f) transcript t u) : Leaves x transcript t u := by
  obtain ⟨left, begun, rfl⟩ := h
  refine ⟨left, begun, ?_⟩
  rw [runOn_bind_interruptible]
  rcases Interruptible.runOn (x.run.run transcript) ⟨t, left, begun⟩ with
    ⟨_ | ⟨e | a, transcript'⟩, s'⟩
  · rfl
  · rfl
  · exact (hf a transcript' s'.tree _ ⟨s'.left, s'.begun, rfl⟩).symm

theorem tracks_pure (a : α) :
    Tracks (pure a : Program Interruptible α) (pure a : Program (StateM FileTree) α) :=
  fun _ => Interruptible.tracks_pure _

theorem eq_of_leaves_pure {a : α} (h : Leaves (pure a) transcript t u) : u = t :=
  Interruptible.eq_of_leaves_pure h

theorem tracks_throw (failure : Failure) :
    Tracks (throw failure : Program Interruptible α)
      (throw failure : Program (StateM FileTree) α) :=
  fun _ => Interruptible.tracks_pure _

theorem eq_of_leaves_throw {failure : Failure}
    (h : Leaves (throw failure : Program Interruptible α) transcript t u) : u = t :=
  Interruptible.eq_of_leaves_pure h

theorem tracks_ofExcept {ε : Type} (f : ε → Failure) (result : Except ε α) :
    Tracks (ofExcept f result) (ofExcept f result) := by
  cases result with
  | error e => exact tracks_throw _
  | ok a => exact tracks_pure a

theorem eq_of_leaves_ofExcept {ε : Type} {f : ε → Failure} {result : Except ε α}
    (h : Leaves (ofExcept f result) transcript t u) : u = t := by
  cases result with
  | error e => exact eq_of_leaves_throw h
  | ok a => exact eq_of_leaves_pure h

theorem tracks_files {x : ExceptT FileError Interruptible α}
    {y : ExceptT FileError (StateM FileTree) α} (h : Interruptible.Tracks x.run y.run) :
    Tracks (files x) (files y) := by
  intro transcript
  refine h.bind fun r => ?_
  cases r with
  | error e => exact Interruptible.tracks_pure _
  | ok a => exact Interruptible.tracks_pure _

theorem leaves_files {x : ExceptT FileError Interruptible α}
    (h : Leaves (files x) transcript t u) : Interruptible.Leaves x.run t u := by
  obtain ⟨left, begun, rfl⟩ := h
  refine ⟨left, begun, ?_⟩
  have hrun : Interruptible.runOn ((files x).run.run transcript) ⟨t, left, begun⟩ =
      match Interruptible.runOn x.run ⟨t, left, begun⟩ with
      | (some (.ok a), s') => (some (.ok a, transcript), s')
      | (some (.error e), s') => (some (.error (.file e), transcript), s')
      | (none, s') => (none, s') := by
    change Interruptible.runOn (x.run >>= _) _ = _
    rw [Interruptible.runOn_bind]
    rcases Interruptible.runOn x.run ⟨t, left, begun⟩ with ⟨_ | (e | a), s'⟩
    · rfl
    · rfl
    · rfl
  rw [hrun]
  rcases Interruptible.runOn x.run ⟨t, left, begun⟩ with ⟨_ | (e | a), s'⟩
  · rfl
  · rfl
  · rfl

end ProtocolBindings.Program
