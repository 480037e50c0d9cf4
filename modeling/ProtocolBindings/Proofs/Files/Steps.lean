import ProtocolBindings.Proofs.Files.Place
import ProtocolBindings.Proofs.Results

/-!
# Operations on file trees

When the operations on a file tree succeed and what they do to the tree, and how a program of
several of them runs.
-/

namespace ProtocolBindings

/-! ## Runs -/

section

variable {σ ε α β : Type}

theorem run_bind (x : ExceptT ε (StateM σ) α) (f : α → ExceptT ε (StateM σ) β) (s : σ) :
    (x >>= f).run.run s =
      match x.run.run s with
      | (.ok a, s') => (f a).run.run s'
      | (.error e, s') => (.error e, s') := by
  rw [ExceptT.run_bind, StateT.run_bind]
  rcases x.run.run s with ⟨_ | a, s'⟩
  · rfl
  · rfl

theorem run_lift (x : StateM σ α) (s : σ) :
    (ExceptT.lift x : ExceptT ε (StateM σ) α).run.run s = (.ok (x.run s).1, (x.run s).2) := by
  rfl

end

namespace FileTree

variable {t t' : FileTree} {p : Path} {place other : List String}

/-! ## Single operations -/

theorem withPath_bind_eq_ok_iff {α : Type} {f : List String → Except FileProblem α} {a : α} :
    withPath p (t.placeOf p >>= f) = .ok a ↔
      ∃ place, t.placeOf p = .ok place ∧ f place = .ok a := by
  rw [withPath, Results.mapError_eq_ok_iff, Results.bind_eq_ok_iff]

theorem withPath_bind_eq_error {α : Type} {f : List String → Except FileProblem α}
    {problem : FileProblem} (hplace : t.placeOf p = .ok place) (h : f place = .error problem) :
    withPath p (t.placeOf p >>= f) = .error ⟨problem, p.text⟩ := by
  rw [withPath, Results.mapError_eq_error_iff]
  exact ⟨problem, Results.bind_eq_error_iff.2 (Or.inr ⟨place, hplace, h⟩), rfl⟩

theorem kindOf_eq_ok_iff {kind : EntryKind} : t.kindOf p = .ok kind ↔
    ∃ place, t.placeOf p = .ok place ∧
      match kind with
      | .directory => t.get? place = some .directory
      | .file => ∃ content, t.get? place = some (.file content) := by
  rw [kindOf, withPath_bind_eq_ok_iff]
  refine exists_congr fun place => and_congr_right fun _ => ?_
  rcases t.get? place with - | - | -
  · cases kind <;> simp
  · cases kind <;> simp [pure, Except.pure]
  · cases kind <;> simp [pure, Except.pure]

theorem readBytes_eq_ok_iff {content : ByteArray} : t.readBytes p = .ok content ↔
    ∃ place, t.placeOf p = .ok place ∧ t.get? place = some (.file content) := by
  rw [readBytes, withPath_bind_eq_ok_iff]
  refine exists_congr fun place => and_congr_right fun _ => ?_
  rcases t.get? place with - | - | -
  · simp
  · simp [pure, Except.pure]
  · simp

theorem writeBytes_eq_ok_iff {content : ByteArray} : t.writeBytes p content = .ok t' ↔
    ∃ place, t.placeOf p = .ok place ∧ t.get? place ≠ some .directory ∧
      t' = t.put place (.file content) := by
  rw [writeBytes, withPath_bind_eq_ok_iff]
  refine exists_congr fun place => and_congr_right fun _ => ?_
  rcases t.get? place with - | - | -
  · simp [pure, Except.pure, eq_comm]
  · simp [pure, Except.pure, eq_comm]
  · simp

theorem makeDirectory_eq_ok_iff : t.makeDirectory p = .ok t' ↔
    ∃ place, t.placeOf p = .ok place ∧ t.get? place = none ∧ t' = t.put place .directory := by
  rw [makeDirectory, withPath_bind_eq_ok_iff]
  refine exists_congr fun place => and_congr_right fun _ => ?_
  rcases t.get? place with - | -
  · simp [pure, Except.pure, eq_comm]
  · simp

theorem remove_eq_ok_iff : t.remove p = .ok t' ↔
    ∃ place content, t.placeOf p = .ok place ∧ t.get? place = some (.file content) ∧
      t' = t.erase place := by
  rw [remove, withPath_bind_eq_ok_iff]
  refine exists_congr fun place => ?_
  rw [exists_and_left]
  refine and_congr_right fun _ => ?_
  rcases t.get? place with - | - | -
  · simp
  · simp [pure, Except.pure, eq_comm]
  · simp

/-- When the place of a path is known, removing it fails for want of a file only if there is
nothing. -/
theorem get?_of_remove_eq_error {e : FileError} (hplace : t.placeOf p = .ok place)
    (h : t.remove p = .error e) (hproblem : e.problem = .notFound) : t.get? place = none := by
  rw [remove, withPath, hplace, Results.mapError_eq_error_iff] at h
  obtain ⟨problem, hremove, rfl⟩ := h
  obtain rfl : problem = .notFound := hproblem
  rw [Results.bind_eq_error_iff] at hremove
  rcases hremove with hremove | ⟨_, hsame, hremove⟩
  · simp at hremove
  · obtain rfl := Except.ok.inj hsame
    rcases hentry : t.get? place with _ | _ | _
    · rfl
    · simp [hentry, pure, Except.pure] at hremove
    · simp [hentry, Results.throw_eq] at hremove

/-! ## What there is at a path -/

/-- What there is at a path, if anything and if the path can be looked at. -/
def kindAt? (t : FileTree) (p : Path) : Except FileError (Option EntryKind) :=
  match t.kindOf p with
  | .ok kind => .ok (some kind)
  | .error e =>
    match e.problem with
    | .notFound | .notADirectory | .nullCharacter => .ok none
    | _ => .error e

theorem run_kindOf? (t : FileTree) (p : Path) :
    (Files.kindOf? p : ExceptT FileError (StateM FileTree) _).run.run t = (t.kindAt? p, t) := by
  have hlift : (ExceptT.lift (FileSystem.kindOf p) :
      ExceptT FileError (StateM FileTree) _).run.run t = (.ok (t.kindOf p), t) := rfl
  rw [Files.kindOf?, run_bind, hlift, kindAt?]
  cases t.kindOf p with
  | ok kind => rfl
  | error e =>
    simp only
    split <;> simp_all <;> rfl

theorem kindAt?_eq_some_iff {kind : EntryKind} :
    t.kindAt? p = .ok (some kind) ↔ t.kindOf p = .ok kind := by
  rw [kindAt?]
  split
  · simp_all
  · split <;> simp_all

theorem kindAt?_of_get?_eq_none (hplace : t.placeOf p = .ok place) (h : t.get? place = none) :
    t.kindAt? p = .ok none := by
  have hkind : t.kindOf p = .error ⟨.notFound, p.text⟩ :=
    withPath_bind_eq_error hplace (by rw [h]; rfl)
  rw [kindAt?, hkind]

end FileTree

/-! ## Runs of single operations -/

namespace Files

theorem run_change (f : FileTree → Except FileError FileTree) (t : FileTree) :
    (FileTree.change f).run t =
      match f t with
      | .ok t' => (.ok (), t')
      | .error e => (.error e, t) := by
  rfl

theorem run_change_lift (f : FileTree → Except FileError FileTree) (t : FileTree) :
    (ExceptT.lift (FileTree.change f) :
      ExceptT FileError (StateM FileTree) _).run.run t =
      match f t with
      | .ok t' => (.ok (.ok ()), t')
      | .error e => (.ok (.error e), t) := by
  rw [run_lift, run_change]
  cases f t with
  | ok t' => rfl
  | error e => rfl

theorem run_makeDirectory_lift (t : FileTree) (p : Path) :
    (ExceptT.lift (FileSystem.makeDirectory p) :
      ExceptT FileError (StateM FileTree) _).run.run t =
      match t.makeDirectory p with
      | .ok t' => (.ok (.ok ()), t')
      | .error e => (.ok (.error e), t) :=
  run_change_lift (·.makeDirectory p) t

theorem run_remove_lift (t : FileTree) (p : Path) :
    (ExceptT.lift (FileSystem.remove p) : ExceptT FileError (StateM FileTree) _).run.run t =
      match t.remove p with
      | .ok t' => (.ok (.ok ()), t')
      | .error e => (.ok (.error e), t) :=
  run_change_lift (·.remove p) t

theorem run_writeText (t : FileTree) (p : Path) (text : String) :
    (writeText p text : ExceptT FileError (StateM FileTree) Unit).run.run t =
      match t.writeBytes p text.toUTF8 with
      | .ok t' => (.ok (), t')
      | .error e => (.error e, t) :=
  run_change (·.writeBytes p text.toUTF8) t

theorem run_readBytes (t : FileTree) (p : Path) :
    (readBytes p : ExceptT FileError (StateM FileTree) ByteArray).run.run t =
      (t.readBytes p, t) := by
  rfl

end Files

end ProtocolBindings
