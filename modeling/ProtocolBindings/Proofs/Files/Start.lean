import ProtocolBindings.Proofs.Files.Directories
import ProtocolBindings.Proofs.Files.Observation

/-!
# Runs from different directories

An operation at an absolute path does the same whatever the current directory is.  So runs that use
absolute paths only do the same wherever they are started.
-/

namespace ProtocolBindings

/-! ## Absolute paths -/

namespace Path

variable {p : Path} {text : String} {rest : List Char}

theorem isAbsolute_ofText (h : text.toList = '/' :: rest) : (ofText text).isAbsolute = true := by
  rw [ofText, isAbsolute, h]
  cases rest with
  | nil => rfl
  | cons c rest =>
    unfold rootOf
    split
    · rfl
    · split <;> rfl
    · rfl
    · rename_i hroot
      exact absurd rfl (hroot (c :: rest))

/-- An absolute path is still absolute when it has been written down. -/
theorem isAbsolute_ofText_text (h : p.isAbsolute = true) : (ofText p.text).isAbsolute = true := by
  obtain ⟨root, steps⟩ := p
  cases root with
  | current => cases h
  | top =>
    have htext : (Path.mk .top steps).text.toList = '/' :: ("/".intercalate steps).toList := by
      simp [text, Root.text]
    exact isAbsolute_ofText htext
  | doubled =>
    have htext : (Path.mk .doubled steps).text.toList =
        '/' :: '/' :: ("/".intercalate steps).toList := by
      simp [text, Root.text]
    exact isAbsolute_ofText htext

theorem isAbsolute_joinText (name : String) (h : p.isAbsolute = true) :
    (p.joinText name).isAbsolute = true := by
  rw [joinText, join]
  split
  · assumption
  · exact h

end Path

/-! ## Operations at absolute paths -/

namespace FileTree

variable {t : FileTree} {p : Path} {place steps : List String}

/-- The tree with another current directory. -/
def startedIn (t : FileTree) (place : List String) : FileTree :=
  { t with current := place }

theorem get?_startedIn (target : List String) :
    (t.startedIn place).get? target = t.get? target :=
  rfl

theorem follow_startedIn (start : List String) :
    (t.startedIn place).follow start steps = t.follow start steps := by
  induction steps generalizing start with
  | nil => rfl
  | cons step rest ih =>
    simp only [follow, get?_startedIn, ih]

theorem placeOf_startedIn (h : p.isAbsolute = true) :
    (t.startedIn place).placeOf p = t.placeOf p := by
  rw [placeOf, placeOf, h, if_pos rfl, if_pos rfl, follow_startedIn]

theorem kindOf_startedIn (h : p.isAbsolute = true) :
    (t.startedIn place).kindOf p = t.kindOf p := by
  rw [kindOf, kindOf, placeOf_startedIn h]
  rfl

theorem readBytes_startedIn (h : p.isAbsolute = true) :
    (t.startedIn place).readBytes p = t.readBytes p := by
  rw [readBytes, readBytes, placeOf_startedIn h]
  rfl

theorem writeBytes_startedIn (content : ByteArray) (h : p.isAbsolute = true) :
    (t.startedIn place).writeBytes p content =
      (t.writeBytes p content).map (·.startedIn place) := by
  rw [writeBytes, writeBytes, placeOf_startedIn h]
  cases t.placeOf p with
  | error problem => rfl
  | ok target =>
    simp only [bind, Except.bind, get?_startedIn]
    rcases t.get? target with _ | _ | _ <;> rfl

theorem makeDirectory_startedIn (h : p.isAbsolute = true) :
    (t.startedIn place).makeDirectory p = (t.makeDirectory p).map (·.startedIn place) := by
  rw [makeDirectory, makeDirectory, placeOf_startedIn h]
  cases t.placeOf p with
  | error problem => rfl
  | ok target =>
    simp only [bind, Except.bind, get?_startedIn]
    cases t.get? target <;> rfl

theorem remove_startedIn (h : p.isAbsolute = true) :
    (t.startedIn place).remove p = (t.remove p).map (·.startedIn place) := by
  rw [remove, remove, placeOf_startedIn h]
  cases t.placeOf p with
  | error problem => rfl
  | ok target =>
    simp only [bind, Except.bind, get?_startedIn]
    rcases t.get? target with _ | _ | _ <;> rfl

/-- A step that does the same whatever the current directory is. -/
def IsPlaceless {α : Type} (operation : StateM FileTree α) : Prop :=
  ∀ (t : FileTree) (place : List String), operation.run (t.startedIn place) =
    ((operation.run t).1, (operation.run t).2.startedIn place)

theorem isPlaceless_change {f : FileTree → Except FileError FileTree}
    (h : ∀ (t : FileTree) (place : List String),
      f (t.startedIn place) = (f t).map (·.startedIn place)) : IsPlaceless (change f) := by
  intro t place
  rw [Files.run_change, Files.run_change, h]
  cases f t with
  | ok t' => rfl
  | error e => rfl

end FileTree

/-! ## Runs -/

namespace Observed

variable {α β : Type}

/-- The one run does what the other one does in a tree with another current directory.  All that
they do is done at absolute paths, and it is the same. -/
def AlikeElsewhere (x y : Observed α) : Prop :=
  ∀ (t : FileTree) (place : List String) (before before' : List FileAccess), ∃ a t' done,
    x.run ⟨t, before⟩ = (a, ⟨t', before ++ done⟩) ∧
      y.run ⟨t.startedIn place, before'⟩ = (a, ⟨t'.startedIn place, before' ++ done⟩) ∧
        ∀ access ∈ done, access.path.isAbsolute = true

theorem alikeElsewhere_pure (a : α) : AlikeElsewhere (pure a) (pure a) := by
  intro t place before before'
  refine ⟨a, t, [], ?_, ?_, by simp⟩
  · rw [List.append_nil]
    rfl
  · rw [List.append_nil]
    rfl

theorem AlikeElsewhere.bind {x y : Observed α} {f g : α → Observed β} (hx : AlikeElsewhere x y)
    (hf : ∀ a, AlikeElsewhere (f a) (g a)) : AlikeElsewhere (x >>= f) (y >>= g) := by
  intro t place before before'
  obtain ⟨a, t', first, hxrun, hyrun, hfirst⟩ := hx t place before before'
  obtain ⟨b, t'', second, hfrun, hgrun, hsecond⟩ :=
    hf a t' place (before ++ first) (before' ++ first)
  refine ⟨b, t'', first ++ second, ?_, ?_, ?_⟩
  · rw [StateT.run_bind, hxrun, ← List.append_assoc]
    exact hfrun
  · rw [StateT.run_bind, hyrun, ← List.append_assoc]
    exact hgrun
  · intro access haccess
    exact (List.mem_append.1 haccess).elim (hfirst access) (hsecond access)

theorem alikeElsewhere_noting {access : FileAccess} {operation : StateM FileTree α}
    (h : FileTree.IsPlaceless operation) (habsolute : access.path.isAbsolute = true) :
    AlikeElsewhere (noting access operation) (noting access operation) := by
  intro t place before before'
  refine ⟨_, (operation.run t).2, [access], rfl, ?_, by simpa using habsolute⟩
  change ((operation.run (t.startedIn place)).1,
    Observation.mk (operation.run (t.startedIn place)).2 (before' ++ [access])) = _
  rw [h]
  rfl

/-- Runs that use absolute paths only do the same in a tree with another current directory. -/
def elsewhere : Simulation Observed Observed where
  Rel := AlikeElsewhere
  Uses p := p.isAbsolute = true
  Reads p := p.isAbsolute = true
  pure := alikeElsewhere_pure
  bind := AlikeElsewhere.bind
  uses_joinText name h := Path.isAbsolute_joinText name h
  uses_parent h := h
  kindOf h := alikeElsewhere_noting
    (fun _ _ => congrArg (·, _) (FileTree.kindOf_startedIn h)) h
  readBytes h := alikeElsewhere_noting
    (fun _ _ => congrArg (·, _) (FileTree.readBytes_startedIn h)) h
  writeBytes content h := alikeElsewhere_noting
    (FileTree.isPlaceless_change fun _ _ => FileTree.writeBytes_startedIn content h) h
  makeDirectory h := alikeElsewhere_noting
    (FileTree.isPlaceless_change fun _ _ => FileTree.makeDirectory_startedIn h) h
  remove h := alikeElsewhere_noting
    (FileTree.isPlaceless_change fun _ _ => FileTree.remove_startedIn h) h

end Observed

end ProtocolBindings
