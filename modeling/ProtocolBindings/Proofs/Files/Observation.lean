import ProtocolBindings.Files.Tree
import ProtocolBindings.Proofs.Files.Simulation

/-!
# Observed runs

A run on a file tree can be observed: every operation on a file is noted down with the path that it
was asked for.  Observing a run does not change what it does.
-/

namespace ProtocolBindings

/-- What is done with a path. -/
inductive FileUse where
  | look
  | read
  | write (content : ByteArray)
  | makeDirectory
  | remove

/-- One operation on a file. -/
structure FileAccess where
  use : FileUse
  path : Path

/-- A file tree and the operations that have been noted down, in order. -/
structure Observation where
  tree : FileTree
  accesses : List FileAccess := []

/-- Runs that are observed. -/
abbrev Observed := StateM Observation

namespace Observed

variable {α : Type}

def noting (access : FileAccess) (operation : StateM FileTree α) : Observed α :=
  fun s =>
    let (a, t) := operation.run s.tree
    (a, { tree := t, accesses := s.accesses ++ [access] })

instance : FileSystem Observed where
  kindOf p := noting ⟨.look, p⟩ (FileSystem.kindOf p)
  readBytes p := noting ⟨.read, p⟩ (FileSystem.readBytes p)
  writeBytes p content := noting ⟨.write content, p⟩ (FileSystem.writeBytes p content)
  makeDirectory p := noting ⟨.makeDirectory, p⟩ (FileSystem.makeDirectory p)
  remove p := noting ⟨.remove, p⟩ (FileSystem.remove p)
  currentDirectory := fun s => (⟨.top, s.tree.current⟩, s)

/-- What a run gives, the tree that it leaves, and what it has done with files. -/
def observe (x : Observed α) (t : FileTree) : α × Observation :=
  x.run { tree := t }

/-- An observed run does what another one does on the tree, and every operation that it notes down
is one of the given ones. -/
def Follows (allowed : FileAccess → Prop) (x : Observed α) (y : StateM FileTree α) : Prop :=
  ∀ s, ∃ done, x.run s = ((y.run s.tree).1, ⟨(y.run s.tree).2, s.accesses ++ done⟩) ∧
    ∀ access ∈ done, allowed access

variable {β : Type} {allowed : FileAccess → Prop}

theorem follows_pure (a : α) : Follows allowed (pure a) (pure a) := by
  intro s
  refine ⟨[], ?_, by simp⟩
  rw [List.append_nil]
  rfl

theorem Follows.bind {x : Observed α} {y : StateM FileTree α} {f : α → Observed β}
    {g : α → StateM FileTree β} (hx : Follows allowed x y)
    (hf : ∀ a, Follows allowed (f a) (g a)) : Follows allowed (x >>= f) (y >>= g) := by
  intro s
  obtain ⟨first, hfirst, hallowed⟩ := hx s
  obtain ⟨second, hsecond, hallowed'⟩ :=
    hf (y.run s.tree).1 ⟨(y.run s.tree).2, s.accesses ++ first⟩
  refine ⟨first ++ second, ?_, ?_⟩
  · rw [StateT.run_bind, hfirst]
    exact hsecond.trans (by rw [List.append_assoc]; rfl)
  · intro access haccess
    exact (List.mem_append.1 haccess).elim (hallowed access) (hallowed' access)

theorem follows_noting {access : FileAccess} (h : allowed access) (operation : StateM FileTree α) :
    Follows allowed (noting access operation) operation :=
  fun _ => ⟨[access], rfl, by simpa using h⟩

/-- What an observed run gives and the tree that it leaves are those of the run that it follows. -/
theorem Follows.observe {x : Observed α} {y : StateM FileTree α} (h : Follows allowed x y)
    {t t' : FileTree} {a : α} (hrun : y.run t = (a, t')) :
    ∃ accesses, observe x t = (a, ⟨t', accesses⟩) ∧ ∀ access ∈ accesses, allowed access := by
  obtain ⟨accesses, hx, hallowed⟩ := h { tree := t }
  refine ⟨accesses, hx.trans ?_, hallowed⟩
  rw [hrun]
  rfl

/-- Observed runs do what they do on a tree; files are read at the given paths only. -/
def reading (reads : Path → Prop) : Simulation Observed (StateM FileTree) where
  Rel := Follows fun access => access.use = .read → reads access.path
  Uses := fun _ => True
  Reads := reads
  pure := follows_pure
  bind := Follows.bind
  uses_joinText _ h := h
  uses_parent h := h
  kindOf _ := follows_noting (by simp) _
  readBytes h := follows_noting (fun _ => h) _
  writeBytes _ _ := follows_noting (by simp) _
  makeDirectory _ := follows_noting (by simp) _
  remove _ := follows_noting (by simp) _

end Observed

end ProtocolBindings
