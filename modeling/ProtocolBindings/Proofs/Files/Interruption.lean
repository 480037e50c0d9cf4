import ProtocolBindings.Proofs.Files.Steps
import ProtocolBindings.Proofs.Program

/-!
# Interrupted runs

A run can be stopped in front of any change of the file system.  A file that is being written when
the run is stopped keeps the bytes that have been written so far.  Up to where it is stopped, a run
does what it does when nothing stops it.
-/

namespace ProtocolBindings

/-- A file tree and the number of changes that a run still makes to it before it is stopped.  If it
is stopped in front of the writing of a file, that file may have been begun: then it gets the given
number of bytes. -/
structure Interruption where
  tree : FileTree
  left : Nat
  begun : Option Nat

/-- Runs that can be stopped. -/
abbrev Interruptible := OptionT (StateM Interruption)

namespace Interruptible

variable {α β : Type}

/-- What a run gives, unless it is stopped, and what it leaves. -/
def runOn (x : Interruptible α) (s : Interruption) : Option α × Interruption :=
  x.run.run s

def look (f : FileTree → α) : Interruptible α :=
  OptionT.mk fun s => (some (f s.tree), s)

/-- Makes a change.  If the run is stopped in front of it, the tree stays as it is, or it is left as
it is after the part of the change that was begun. -/
def change (f : FileTree → Except FileError FileTree)
    (part : Nat → FileTree → Except FileError FileTree) : Interruptible (Except FileError Unit) :=
  OptionT.mk fun s =>
    match s.left, s.begun with
    | left + 1, _ =>
      match f s.tree with
      | .ok t => (some (.ok ()), { s with tree := t, left })
      | .error e => (some (.error e), { s with left })
    | 0, none => (none, s)
    | 0, some count =>
      match part count s.tree with
      | .ok t => (none, { s with tree := t })
      | .error _ => (none, s)

instance : FileSystem Interruptible where
  kindOf p := look (·.kindOf p)
  readBytes p := look (·.readBytes p)
  writeBytes p content :=
    change (·.writeBytes p content) fun count t => t.writeBytes p (content.extract 0 count)
  makeDirectory p := change (·.makeDirectory p) fun _ t => .ok t
  remove p := change (·.remove p) fun _ t => .ok t
  currentDirectory := look fun t => ⟨.top, t.current⟩

/-- A tree that a run leaves, stopped or not. -/
def Leaves (x : Interruptible α) (t u : FileTree) : Prop :=
  ∃ left begun, (runOn x ⟨t, left, begun⟩).2.tree = u

/-- A run that is not stopped does what another one does. -/
def Tracks (x : Interruptible α) (y : StateM FileTree α) : Prop :=
  ∀ s a s', runOn x s = (some a, s') → y.run s.tree = (a, s'.tree)

theorem runOn_bind (x : Interruptible α) (f : α → Interruptible β) (s : Interruption) :
    runOn (x >>= f) s =
      match runOn x s with
      | (some a, s') => runOn (f a) s'
      | (none, s') => (none, s') := by
  rw [runOn, OptionT.run_bind, Option.elimM, StateT.run_bind, ← runOn]
  rcases runOn x s with ⟨_ | a, s'⟩
  · rfl
  · rfl

theorem tracks_pure (a : α) : Tracks (pure a) (pure a) := by
  intro s b s' h
  obtain ⟨hb, rfl⟩ := Prod.mk.inj h
  obtain rfl := Option.some.inj hb
  rfl

theorem Tracks.bind {x : Interruptible α} {y : StateM FileTree α} {f : α → Interruptible β}
    {g : α → StateM FileTree β} (hx : Tracks x y) (hf : ∀ a, Tracks (f a) (g a)) :
    Tracks (x >>= f) (y >>= g) := by
  intro s b s' h
  rw [runOn_bind] at h
  rcases hrun : runOn x s with ⟨_ | a, s₁⟩
  · rw [hrun] at h
    cases (Prod.mk.inj h).1
  · rw [hrun] at h
    rw [StateT.run_bind, hx s a s₁ hrun]
    exact hf a s₁ b s' h

theorem tracks_look (f : FileTree → α) : Tracks (look f) fun t => (f t, t) := by
  intro s a s' h
  obtain ⟨ha, rfl⟩ := Prod.mk.inj h
  obtain rfl := Option.some.inj ha
  rfl

/-- A change is made, or it fails, or the run is stopped in front of it. -/
theorem change_cases {f : FileTree → Except FileError FileTree}
    {part : Nat → FileTree → Except FileError FileTree} {s s' : Interruption}
    {r : Option (Except FileError Unit)} (h : runOn (change f part) s = (r, s')) :
    (f s.tree = .ok s'.tree ∧ r = some (.ok ())) ∨
      (∃ e, f s.tree = .error e ∧ r = some (.error e) ∧ s'.tree = s.tree) ∨
      r = none ∧ (s'.tree = s.tree ∨ ∃ count, part count s.tree = .ok s'.tree) := by
  have hmade : ∀ t left begun, runOn (change f part) ⟨t, left + 1, begun⟩ =
      match f t with
      | .ok t' => (some (.ok ()), ⟨t', left, begun⟩)
      | .error e => (some (.error e), ⟨t, left, begun⟩) := fun _ _ _ => rfl
  have hstopped : ∀ t count, runOn (change f part) ⟨t, 0, some count⟩ =
      match part count t with
      | .ok t' => (none, ⟨t', 0, some count⟩)
      | .error _ => (none, ⟨t, 0, some count⟩) := fun _ _ => rfl
  obtain ⟨t, left, begun⟩ := s
  cases left with
  | succ left =>
    rw [hmade] at h
    split at h
    · rename_i hf
      obtain ⟨rfl, rfl⟩ := Prod.mk.inj h
      exact Or.inl ⟨hf, rfl⟩
    · rename_i e hf
      obtain ⟨rfl, rfl⟩ := Prod.mk.inj h
      exact Or.inr (Or.inl ⟨e, hf, rfl, rfl⟩)
  | zero =>
    right
    right
    cases begun with
    | none =>
      obtain ⟨rfl, rfl⟩ := Prod.mk.inj h
      exact ⟨rfl, Or.inl rfl⟩
    | some count =>
      rw [hstopped] at h
      split at h
      · rename_i hpart
        obtain ⟨rfl, rfl⟩ := Prod.mk.inj h
        exact ⟨rfl, Or.inr ⟨count, hpart⟩⟩
      · obtain ⟨rfl, rfl⟩ := Prod.mk.inj h
        exact ⟨rfl, Or.inl rfl⟩

theorem tracks_change (f : FileTree → Except FileError FileTree)
    (part : Nat → FileTree → Except FileError FileTree) :
    Tracks (change f part) (FileTree.change f) := by
  intro s a s' h
  rw [Files.run_change]
  rcases change_cases h with ⟨hf, hr⟩ | ⟨e, hf, hr, htree⟩ | ⟨hr, -⟩
  · obtain rfl := Option.some.inj hr
    rw [hf]
  · obtain rfl := Option.some.inj hr
    rw [hf, htree]
  · cases hr

/-- What a change leaves that may be stopped. -/
theorem leaves_change {f : FileTree → Except FileError FileTree}
    {part : Nat → FileTree → Except FileError FileTree} {t u : FileTree}
    (h : Leaves (change f part) t u) :
    u = t ∨ f t = .ok u ∨ ∃ count, part count t = .ok u := by
  obtain ⟨left, begun, rfl⟩ := h
  rcases hrun : runOn (change f part) ⟨t, left, begun⟩ with ⟨r, s'⟩
  rcases change_cases hrun with ⟨hf, -⟩ | ⟨e, -, -, htree⟩ | ⟨-, htree | hpart⟩
  · exact Or.inr (Or.inl hf)
  · exact Or.inl htree
  · exact Or.inl htree
  · exact Or.inr (Or.inr hpart)

theorem eq_of_leaves_pure {a : α} {t u : FileTree} (h : Leaves (pure a) t u) : u = t := by
  obtain ⟨left, begun, rfl⟩ := h
  rfl

/-! ## Runs that can fail -/

variable {ε : Type} {t u : FileTree}

theorem runOn_except_bind (x : ExceptT ε Interruptible α) (f : α → ExceptT ε Interruptible β)
    (s : Interruption) :
    runOn (x >>= f).run s =
      match runOn x.run s with
      | (some (.ok a), s') => runOn (f a).run s'
      | (some (.error e), s') => (some (.error e), s')
      | (none, s') => (none, s') := by
  rw [ExceptT.run_bind, runOn_bind]
  rcases runOn x.run s with ⟨_ | (e | a), s'⟩
  · rfl
  · rfl
  · rfl

theorem Tracks.except_bind {x : ExceptT ε Interruptible α} {y : ExceptT ε (StateM FileTree) α}
    {f : α → ExceptT ε Interruptible β} {g : α → ExceptT ε (StateM FileTree) β}
    (hx : Tracks x.run y.run) (hf : ∀ a, Tracks (f a).run (g a).run) :
    Tracks (x >>= f).run (y >>= g).run := by
  rw [ExceptT.run_bind, ExceptT.run_bind]
  refine hx.bind fun r => ?_
  cases r with
  | error e => exact tracks_pure _
  | ok a => exact hf a

theorem runOn_lift (x : Interruptible α) (s : Interruption) :
    runOn (ExceptT.lift x : ExceptT ε Interruptible α).run s =
      match runOn x s with
      | (some a, s') => (some (.ok a), s')
      | (none, s') => (none, s') := by
  change runOn (x >>= fun a => pure (Except.ok a : Except ε α)) s = _
  rw [runOn_bind]
  rcases runOn x s with ⟨_ | a, s'⟩
  · rfl
  · rfl

theorem Tracks.lift {x : Interruptible α} {y : StateM FileTree α} (h : Tracks x y) :
    Tracks (ExceptT.lift x : ExceptT ε Interruptible α).run
      (ExceptT.lift y : ExceptT ε (StateM FileTree) α).run :=
  h.bind fun _ => tracks_pure _

theorem leaves_lift {x : Interruptible α}
    (h : Leaves (ExceptT.lift x : ExceptT ε Interruptible α).run t u) : Leaves x t u := by
  obtain ⟨left, begun, rfl⟩ := h
  refine ⟨left, begun, ?_⟩
  rw [runOn_lift]
  rcases runOn x ⟨t, left, begun⟩ with ⟨_ | a, s'⟩
  · rfl
  · rfl

/-- A run of two parts leaves what its first part leaves, or it leaves what the second part leaves
behind the whole of the first. -/
theorem leaves_except_bind {x : ExceptT ε Interruptible α} {y : ExceptT ε (StateM FileTree) α}
    {f : α → ExceptT ε Interruptible β} (hx : Tracks x.run y.run)
    (h : Leaves (x >>= f).run t u) :
    Leaves x.run t u ∨ ∃ a t₁, y.run.run t = (.ok a, t₁) ∧ Leaves (f a).run t₁ u := by
  obtain ⟨left, begun, rfl⟩ := h
  rw [runOn_except_bind]
  rcases hrun : runOn x.run ⟨t, left, begun⟩ with ⟨_ | (e | a), s'⟩
  · exact Or.inl ⟨left, begun, by rw [hrun]⟩
  · exact Or.inl ⟨left, begun, by rw [hrun]⟩
  · exact Or.inr ⟨a, s'.tree, hx _ _ s' hrun, s'.left, s'.begun, rfl⟩

/-- A run that changes no tree. -/
def Looks (x : Interruptible α) : Prop :=
  ∀ s, (runOn x s).2.tree = s.tree

theorem Looks.eq {x : Interruptible α} (hx : Looks x) (h : Leaves x t u) : u = t := by
  obtain ⟨left, begun, rfl⟩ := h
  exact hx _

theorem looks_pure (a : α) : Looks (pure a) :=
  fun _ => rfl

theorem looks_look (f : FileTree → α) : Looks (look f) :=
  fun _ => rfl

theorem Looks.bind {x : Interruptible α} {f : α → Interruptible β} (hx : Looks x)
    (hf : ∀ a, Looks (f a)) : Looks (x >>= f) := by
  intro s
  have hfirst := hx s
  rw [runOn_bind]
  rcases hrun : runOn x s with ⟨_ | a, s'⟩
  · rw [hrun] at hfirst
    exact hfirst
  · rw [hrun] at hfirst
    exact (hf a s').trans hfirst

theorem Looks.except_bind {x : ExceptT ε Interruptible α} {f : α → ExceptT ε Interruptible β}
    (hx : Looks x.run) (hf : ∀ a, Looks (f a).run) : Looks (x >>= f).run := by
  rw [ExceptT.run_bind]
  refine hx.bind fun r => ?_
  cases r with
  | error e => exact looks_pure _
  | ok a => exact hf a

end Interruptible

/-! ## Operations on files -/

namespace Files

open Interruptible

variable {p : Path} {t u : FileTree}

theorem tracks_kindOf? (p : Path) :
    Tracks (kindOf? p : ExceptT FileError Interruptible _).run
      (kindOf? p : ExceptT FileError (StateM FileTree) _).run := by
  refine (Tracks.lift (tracks_look (·.kindOf p))).except_bind fun r => ?_
  cases r with
  | ok kind => exact tracks_pure _
  | error e =>
    simp only
    split <;> exact tracks_pure _

theorem looks_kindOf? (p : Path) : Looks (kindOf? p : ExceptT FileError Interruptible _).run := by
  have hlift : Looks (ExceptT.lift (FileSystem.kindOf p) :
      ExceptT FileError Interruptible _).run :=
    (looks_look _).bind fun _ => looks_pure _
  refine hlift.except_bind fun r => ?_
  cases r with
  | ok kind => exact looks_pure _
  | error e =>
    simp only
    split <;> exact looks_pure _

theorem tracks_isDirectory (p : Path) :
    Tracks (isDirectory p : ExceptT FileError Interruptible _).run
      (isDirectory p : ExceptT FileError (StateM FileTree) _).run :=
  (tracks_kindOf? p).except_bind fun _ => tracks_pure _

theorem looks_isDirectory (p : Path) :
    Looks (isDirectory p : ExceptT FileError Interruptible _).run :=
  (looks_kindOf? p).except_bind fun _ => looks_pure _

theorem tracks_makeDirectory_lift (p : Path) :
    Tracks (ExceptT.lift (FileSystem.makeDirectory p) : ExceptT FileError Interruptible _).run
      (ExceptT.lift (FileSystem.makeDirectory p) : ExceptT FileError (StateM FileTree) _).run :=
  (tracks_change _ _).lift

theorem tracks_ensureDirectory (p : Path) :
    Tracks (ensureDirectory p : ExceptT FileError Interruptible _).run
      (ensureDirectory p : ExceptT FileError (StateM FileTree) _).run := by
  refine (tracks_makeDirectory_lift p).except_bind fun r => ?_
  cases r with
  | ok _ => exact tracks_pure _
  | error e =>
    simp only
    split
    · exact tracks_pure _
    · refine (tracks_isDirectory p).except_bind fun b => ?_
      split <;> exact tracks_pure _

theorem tracks_ensureDirectories (depth : Nat) (p : Path) :
    Tracks (ensureDirectories depth p : ExceptT FileError Interruptible _).run
      (ensureDirectories depth p : ExceptT FileError (StateM FileTree) _).run := by
  induction depth generalizing p with
  | zero => exact tracks_ensureDirectory p
  | succ depth ih =>
    refine (Tracks.lift (tracks_ensureDirectory p)).except_bind fun r => ?_
    cases r with
    | ok _ => exact tracks_pure _
    | error e =>
      simp only
      split
      · exact (ih p.parent).except_bind fun _ => tracks_ensureDirectory p
      · exact tracks_pure _

theorem tracks_readBytes (p : Path) :
    Tracks (readBytes p : ExceptT FileError Interruptible _).run
      (readBytes p : ExceptT FileError (StateM FileTree) _).run :=
  tracks_look (·.readBytes p)

theorem looks_readBytes (p : Path) :
    Looks (readBytes p : ExceptT FileError Interruptible _).run :=
  looks_look (·.readBytes p)

theorem tracks_writeText (p : Path) (text : String) :
    Tracks (writeText p text : ExceptT FileError Interruptible _).run
      (writeText p text : ExceptT FileError (StateM FileTree) _).run :=
  tracks_change (·.writeBytes p text.toUTF8) fun count t =>
    t.writeBytes p (text.toUTF8.extract 0 count)

/-- Writing a file changes nothing, or it is done, or a front of the text has been written. -/
theorem leaves_writeText {text : String}
    (h : Leaves (writeText p text : ExceptT FileError Interruptible Unit).run t u) :
    u = t ∨ t.writeBytes p text.toUTF8 = .ok u ∨
      ∃ count, t.writeBytes p (text.toUTF8.extract 0 count) = .ok u := by
  have hchange : Leaves (change (·.writeBytes p text.toUTF8) fun count t =>
      t.writeBytes p (text.toUTF8.extract 0 count)) t u := h
  exact leaves_change hchange

theorem tracks_remove_lift (p : Path) :
    Tracks (ExceptT.lift (FileSystem.remove p) : ExceptT FileError Interruptible _).run
      (ExceptT.lift (FileSystem.remove p) : ExceptT FileError (StateM FileTree) _).run :=
  (tracks_change _ _).lift

theorem tracks_removeIfPresent (p : Path) :
    Tracks (removeIfPresent p : ExceptT FileError Interruptible _).run
      (removeIfPresent p : ExceptT FileError (StateM FileTree) _).run := by
  refine (tracks_remove_lift p).except_bind fun r => ?_
  cases r with
  | ok _ => exact tracks_pure _
  | error e =>
    simp only
    split <;> exact tracks_pure _

/-- Removing a file changes nothing, or it is done. -/
theorem leaves_removeIfPresent
    (h : Leaves (removeIfPresent p : ExceptT FileError Interruptible Unit).run t u) :
    u = t ∨ (removeIfPresent p : ExceptT FileError (StateM FileTree) Unit).run.run t =
      (.ok (), u) := by
  have hremoved : ∀ t', t.remove p = .ok t' →
      (removeIfPresent p : ExceptT FileError (StateM FileTree) Unit).run.run t =
        (.ok (), t') := by
    intro t' hremove
    rw [removeIfPresent, run_bind, run_remove_lift, hremove]
    rfl
  rcases leaves_except_bind (tracks_remove_lift p) h with hleft | ⟨result, t₁, hrun, hthen⟩
  · rcases leaves_change (leaves_lift hleft) with rfl | hremove | ⟨_, hpart⟩
    · exact Or.inl rfl
    · exact Or.inr (hremoved u hremove)
    · exact Or.inl (Except.ok.inj hpart).symm
  · have hlooks : u = t₁ := by
      refine Looks.eq ?_ hthen
      cases result with
      | ok _ => exact looks_pure _
      | error e =>
        simp only
        split
        · exact looks_pure _
        · exact looks_pure _
    rw [run_remove_lift] at hrun
    cases hremove : t.remove p with
    | ok t' =>
      rw [hremove] at hrun
      rw [hlooks, ← (Prod.mk.inj hrun).2]
      exact Or.inr (hremoved t' hremove)
    | error e =>
      rw [hremove] at hrun
      rw [hlooks, ← (Prod.mk.inj hrun).2]
      exact Or.inl rfl

end Files

end ProtocolBindings
