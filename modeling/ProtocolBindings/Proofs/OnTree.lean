import ProtocolBindings.Proofs.Reading

/-!
# Programs and commands on file trees

What a program or a command gives on a file tree, and the tree that it leaves, do not depend on
what was shown before.  So both can be read off its steps.
-/

namespace ProtocolBindings

/-- Programs and commands on a file tree. -/
abbrev OnTree (ε α : Type) := ExceptT ε (StateT Transcript (StateM FileTree)) α

namespace OnTree

variable {ε α β : Type} {t : FileTree}

/-- What a program or a command gives on a tree. -/
def result (x : OnTree ε α) (t : FileTree) : Except ε α :=
  (((ExceptT.run x).run {}).run t).1.1

/-- The tree that a program or a command leaves. -/
def treeAfter (x : OnTree ε α) (t : FileTree) : FileTree :=
  (((ExceptT.run x).run {}).run t).2

/-- Whether what is given and left does not depend on what was shown before. -/
def IsUnmoved (x : OnTree ε α) : Prop :=
  ∀ transcript t, ∃ shown,
    ((ExceptT.run x).run transcript).run t = ((result x t, shown), treeAfter x t)

theorem isUnmoved_of_eq {x : OnTree ε α} {f : FileTree → Except ε α × FileTree}
    (h : ∀ transcript t, ∃ shown,
      ((ExceptT.run x).run transcript).run t = (((f t).1, shown), (f t).2)) :
    IsUnmoved x ∧ ∀ t, result x t = (f t).1 ∧ treeAfter x t = (f t).2 := by
  have heq : ∀ t, result x t = (f t).1 ∧ treeAfter x t = (f t).2 := by
    intro t
    obtain ⟨shown, hrun⟩ := h {} t
    rw [result, treeAfter, hrun]
    exact ⟨rfl, rfl⟩
  refine ⟨?_, heq⟩
  intro transcript t
  obtain ⟨shown, hrun⟩ := h transcript t
  refine ⟨shown, ?_⟩
  rw [hrun, (heq t).1, (heq t).2]

theorem isUnmoved_pure (a : α) : IsUnmoved (pure a : OnTree ε α) :=
  fun transcript _ => ⟨transcript, rfl⟩

theorem isUnmoved_throw (e : ε) : IsUnmoved (throw e : OnTree ε α) :=
  fun transcript _ => ⟨transcript, rfl⟩

theorem bind_of_isUnmoved {x : OnTree ε α} {f : α → OnTree ε β} (hx : IsUnmoved x)
    (hf : ∀ a, IsUnmoved (f a)) :
    IsUnmoved (x >>= f) ∧ ∀ t,
      result (x >>= f) t = (result x t >>= fun a => result (f a) (treeAfter x t)) ∧
        treeAfter (x >>= f) t =
          match result x t with
          | .ok a => treeAfter (f a) (treeAfter x t)
          | .error _ => treeAfter x t := by
  apply isUnmoved_of_eq (f := fun t => (result x t >>= fun a => result (f a) (treeAfter x t),
    match result x t with
    | .ok a => treeAfter (f a) (treeAfter x t)
    | .error _ => treeAfter x t))
  intro transcript t
  obtain ⟨shown, hrun⟩ := hx transcript t
  rw [ExceptT.run_bind, StateT.run_bind, StateT.run_bind, hrun]
  cases result x t with
  | error e => exact ⟨shown, rfl⟩
  | ok a => exact hf a shown (treeAfter x t)

theorem IsUnmoved.bind {x : OnTree ε α} {f : α → OnTree ε β} (hx : IsUnmoved x)
    (hf : ∀ a, IsUnmoved (f a)) : IsUnmoved (x >>= f) :=
  (bind_of_isUnmoved hx hf).1

/-- What two programs in a row give. -/
theorem result_bind {x : OnTree ε α} {f : α → OnTree ε β} (hx : IsUnmoved x)
    (hf : ∀ a, IsUnmoved (f a)) (t : FileTree) :
    result (x >>= f) t = result x t >>= fun a => result (f a) (treeAfter x t) :=
  ((bind_of_isUnmoved hx hf).2 t).1

/-- Two programs in a row, each of which leaves the tree as it is, do so too. -/
theorem treeAfter_bind {x : OnTree ε α} {f : α → OnTree ε β} (hx : IsUnmoved x)
    (hf : ∀ a, IsUnmoved (f a)) (hxt : treeAfter x t = t) (hft : ∀ a, treeAfter (f a) t = t) :
    treeAfter (x >>= f) t = t := by
  rw [((bind_of_isUnmoved hx hf).2 t).2, hxt]
  cases result x t with
  | error e => rfl
  | ok a => exact hft a

theorem unmoved_map {x : OnTree ε α} (f : α → β) (hx : IsUnmoved x) :
    IsUnmoved (f <$> x) ∧ ∀ t,
      result (f <$> x) t = (result x t).map f ∧ treeAfter (f <$> x) t = treeAfter x t := by
  apply isUnmoved_of_eq (f := fun t => ((result x t).map f, treeAfter x t))
  intro transcript t
  obtain ⟨shown, hrun⟩ := hx transcript t
  refine ⟨shown, ?_⟩
  rw [ExceptT.run_map, StateT.run_map, StateT.run_map, hrun]
  rfl

/-! ## Programs -/

theorem unmoved_of_isReading {x : Program (StateM FileTree) α} (h : Program.IsReading x) :
    IsUnmoved x ∧ ∀ t, result x t = Program.outcome x t ∧ treeAfter x t = t :=
  isUnmoved_of_eq (f := fun t => (Program.outcome x t, t)) h

theorem unmoved_files (step : ExceptT FileError (StateM FileTree) α) :
    IsUnmoved (Program.files step) ∧ ∀ t,
      result (Program.files step) t = (step.run.run t).1.mapError .file ∧
        treeAfter (Program.files step) t = (step.run.run t).2 := by
  apply isUnmoved_of_eq
    (f := fun t => ((step.run.run t).1.mapError Failure.file, (step.run.run t).2))
  intro transcript t
  refine ⟨transcript, ?_⟩
  have hrun : Program.runOn (Program.files step) transcript t = _ := Program.runOn_files step
  rcases hstep : step.run.run t with ⟨e | a, t'⟩
  · rw [hstep] at hrun
    exact hrun
  · rw [hstep] at hrun
    exact hrun

end OnTree

end ProtocolBindings
