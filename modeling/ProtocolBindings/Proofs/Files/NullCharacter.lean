import ProtocolBindings.Proofs.Files.Remaking

/-!
# Null characters in paths

A path that holds a null character leads nowhere.  Nothing can be done at such a path, and an
operation on a tree that fails for a reason that is not reported has been tried at one.
-/

namespace ProtocolBindings

/-- The problems that are not reported: a null character in a path, and contents beyond a limit.
Where half a pair of units is the limit, nothing is said. -/
def FileProblem.IsUnlabelled : FileProblem → Prop
  | .nullCharacter | .beyond .depth | .beyond .digits => True
  | _ => False

namespace FileTree

variable {t : FileTree} {p : Path} {e : FileError}

theorem not_isUnlabelled_of_follow {place steps : List String} {problem : FileProblem}
    (h : t.follow place steps = .error problem) : ¬problem.IsUnlabelled := by
  induction steps generalizing place with
  | nil => cases h
  | cons step rest ih =>
    rw [follow] at h
    split at h
    · obtain rfl := Except.error.inj h
      exact id
    · obtain rfl := Except.error.inj h
      exact id
    · split at h
      · exact ih h
      · split at h
        · obtain rfl := Except.error.inj h
          exact id
        · exact ih h

theorem isUnlabelled_iff_of_placeOf {problem : FileProblem} (h : t.placeOf p = .error problem) :
    problem.IsUnlabelled ↔ p.hasNullCharacter = true := by
  rw [placeOf] at h
  split at h
  · rename_i hnull
    obtain rfl := Except.error.inj h
    exact iff_of_true trivial hnull
  · rename_i hnull
    refine iff_of_false ?_ hnull
    split at h
    · obtain rfl := Except.error.inj h
      exact id
    · exact not_isUnlabelled_of_follow h

theorem placeOf_of_hasNullCharacter (h : p.hasNullCharacter = true) (t : FileTree) :
    t.placeOf p = .error .nullCharacter := by
  rw [placeOf, if_pos h]

/-- An operation at the place of a path fails with a problem that is not reported exactly if the
path holds a null character. -/
theorem isUnlabelled_iff_of_withPath {α : Type} {f : List String → Except FileProblem α}
    (hf : ∀ place problem, f place = .error problem → ¬problem.IsUnlabelled)
    (h : withPath p (t.placeOf p >>= f) = .error e) :
    e.problem.IsUnlabelled ↔ p.hasNullCharacter = true := by
  obtain ⟨problem, hproblem, rfl⟩ := Results.mapError_eq_error_iff.1 h
  rcases Results.bind_eq_error_iff.1 hproblem with hplace | ⟨place, hplace, herror⟩
  · exact isUnlabelled_iff_of_placeOf hplace
  · refine iff_of_false (hf place problem herror) fun hnull => ?_
    rw [placeOf_of_hasNullCharacter hnull] at hplace
    cases hplace

theorem isUnlabelled_iff_of_readBytes (h : t.readBytes p = .error e) :
    e.problem.IsUnlabelled ↔ p.hasNullCharacter = true := by
  refine isUnlabelled_iff_of_withPath (fun place problem herror => ?_) h
  split at herror
  · obtain rfl := Except.error.inj herror
    exact id
  · cases herror
  · obtain rfl := Except.error.inj herror
    exact id

theorem isUnlabelled_iff_of_writeBytes {content : ByteArray}
    (h : t.writeBytes p content = .error e) :
    e.problem.IsUnlabelled ↔ p.hasNullCharacter = true := by
  refine isUnlabelled_iff_of_withPath (fun place problem herror => ?_) h
  split at herror
  · obtain rfl := Except.error.inj herror
    exact id
  · cases herror

theorem isUnlabelled_iff_of_makeDirectory (h : t.makeDirectory p = .error e) :
    e.problem.IsUnlabelled ↔ p.hasNullCharacter = true := by
  refine isUnlabelled_iff_of_withPath (fun place problem herror => ?_) h
  split at herror
  · obtain rfl := Except.error.inj herror
    exact id
  · cases herror

theorem isUnlabelled_iff_of_remove (h : t.remove p = .error e) :
    e.problem.IsUnlabelled ↔ p.hasNullCharacter = true := by
  refine isUnlabelled_iff_of_withPath (fun place problem herror => ?_) h
  split at herror
  · obtain rfl := Except.error.inj herror
    exact id
  · obtain rfl := Except.error.inj herror
    exact id
  · cases herror

/-- Why a path cannot be looked at is reported: a null character is none of the reasons. -/
theorem not_isUnlabelled_of_kindAt? (h : t.kindAt? p = .error e) : ¬e.problem.IsUnlabelled := by
  rw [kindAt?] at h
  split at h
  · cases h
  · rename_i hkind
    split at h
    · cases h
    · cases h
    · cases h
    · rename_i hnull
      obtain rfl := Except.error.inj h
      intro hlabel
      obtain ⟨problem, hproblem, rfl⟩ := Results.mapError_eq_error_iff.1 hkind
      rcases Results.bind_eq_error_iff.1 hproblem with hplace | ⟨place, -, herror⟩
      · rw [placeOf_of_hasNullCharacter ((isUnlabelled_iff_of_placeOf hplace).1 hlabel)] at hplace
        exact hnull (Except.error.inj hplace).symm
      · split at herror
        · obtain rfl := Except.error.inj herror
          exact hlabel
        · cases herror
        · cases herror

theorem follow_ne_beyond (t : FileTree) (place steps : List String) (limit : Limit) :
    t.follow place steps ≠ .error (.beyond limit) := by
  induction steps generalizing place with
  | nil => rintro ⟨⟩
  | cons step rest ih =>
    rw [follow]
    split
    · rintro ⟨⟩
    · rintro ⟨⟩
    · split
      · exact ih _
      · split
        · rintro ⟨⟩
        · exact ih _

/-- No operation at the place of a path looks at what a text says. -/
theorem problem_ne_beyond_of_withPath {α : Type} {f : List String → Except FileProblem α}
    {limit : Limit} (hf : ∀ place, f place ≠ .error (.beyond limit))
    (h : withPath p (t.placeOf p >>= f) = .error e) : e.problem ≠ .beyond limit := by
  obtain ⟨problem, hproblem, rfl⟩ := Results.mapError_eq_error_iff.1 h
  rintro rfl
  rcases Results.bind_eq_error_iff.1 hproblem with hplace | ⟨place, -, herror⟩
  · rw [placeOf] at hplace
    split at hplace
    · cases hplace
    · split at hplace
      · cases hplace
      · exact follow_ne_beyond t _ _ limit hplace
  · exact hf place herror

theorem problem_ne_beyond_of_readBytes (h : t.readBytes p = .error e) (limit : Limit) :
    e.problem ≠ .beyond limit := by
  refine problem_ne_beyond_of_withPath (fun place => ?_) h
  split
  · rintro ⟨⟩
  · rintro ⟨⟩
  · rintro ⟨⟩

theorem problem_ne_beyond_of_kindAt? (h : t.kindAt? p = .error e) (limit : Limit) :
    e.problem ≠ .beyond limit := by
  rw [kindAt?] at h
  split at h
  · cases h
  · rename_i hkind
    split at h
    · cases h
    · cases h
    · cases h
    · obtain rfl := Except.error.inj h
      refine problem_ne_beyond_of_withPath (fun place => ?_) hkind
      split
      · rintro ⟨⟩
      · rintro ⟨⟩
      · rintro ⟨⟩

end FileTree

namespace Files

open FileTree

variable {t t' : FileTree} {p : Path} {e : FileError} {depth : Nat}

theorem isUnlabelled_iff_of_made (h : made p t = (.error e, t')) :
    e.problem.IsUnlabelled ↔ p.hasNullCharacter = true := by
  rw [made_eq] at h
  cases hmake : t.makeDirectory p with
  | ok t₁ =>
    rw [hmake] at h
    cases (Prod.mk.inj h).1
  | error e' =>
    have hnull := isUnlabelled_iff_of_makeDirectory hmake
    rw [hmake] at h
    simp only at h
    split at h
    · obtain rfl := Except.error.inj (Prod.mk.inj h).1
      exact hnull
    · cases hkind : t.kindAt? p with
      | error e'' =>
        rw [hkind] at h
        obtain rfl := Except.error.inj (Prod.mk.inj h).1
        refine iff_of_false (not_isUnlabelled_of_kindAt? hkind) fun hp => ?_
        rw [kindAt?, kindOf, placeOf_of_hasNullCharacter hp] at hkind
        cases hkind
      | ok kind =>
        rw [hkind] at h
        have herror := (Prod.mk.inj h).1
        split at herror
        · cases herror
        · obtain rfl := Except.error.inj herror
          exact hnull

theorem exists_made_eq_error (h : p.hasNullCharacter = true) (t : FileTree) :
    ∃ e, made p t = (.error e, t) ∧ e.problem.IsUnlabelled := by
  obtain ⟨e, hmade, -⟩ := made_of_placeOf_eq_error (placeOf_of_hasNullCharacter h t)
  exact ⟨e, hmade, (isUnlabelled_iff_of_made hmade).2 h⟩

theorem hasNullCharacter_of_parent (h : p.parent.hasNullCharacter = true) :
    p.hasNullCharacter = true := by
  obtain ⟨step, hstep, hnull⟩ := List.any_eq_true.1 h
  exact List.any_eq_true.2 ⟨step, List.dropLast_subset _ hstep, hnull⟩

theorem hasNullCharacter_of_madeAll (h : madeAll depth p t = (.error e, t'))
    (he : e.problem.IsUnlabelled) : p.hasNullCharacter = true := by
  induction depth generalizing p t t' with
  | zero => exact (isUnlabelled_iff_of_made h).1 he
  | succ depth ih =>
    rw [madeAll_succ] at h
    rcases hmade : made p t with ⟨e' | _, t₁⟩
    · rw [hmade] at h
      simp only at h
      split at h
      · rcases hparents : madeAll depth p.parent t₁ with ⟨e'' | _, t₂⟩
        · rw [hparents] at h
          obtain rfl := Except.error.inj (Prod.mk.inj h).1
          exact hasNullCharacter_of_parent (ih hparents)
        · rw [hparents] at h
          exact (isUnlabelled_iff_of_made h).1 he
      · obtain rfl := Except.error.inj (Prod.mk.inj h).1
        exact (isUnlabelled_iff_of_made hmade).1 he
    · rw [hmade] at h
      cases (Prod.mk.inj h).1

/-- Directories cannot be made for a reason that is not reported exactly if their path holds a null
character. -/
theorem makeDirectories_isUnlabelled_iff :
    Results.FailsWith (fun e : FileError => e.problem.IsUnlabelled)
        ((makeDirectories p : ExceptT FileError (StateM FileTree) Unit).run.run t).1 ↔
      p.hasNullCharacter = true := by
  constructor
  · rintro ⟨e, he, hnull⟩
    have hall : madeAll p.steps.length p t = (.error e, (madeAll p.steps.length p t).2) :=
      Prod.ext he rfl
    exact hasNullCharacter_of_madeAll hall hnull
  · intro hp
    obtain ⟨e, hmade, hnull⟩ := exists_made_eq_error hp t
    have hall : madeAll p.steps.length p t = (.error e, t) :=
      madeAll_of_made_eq_error hmade fun hproblem => by rw [hproblem] at hnull; exact hnull
    exact ⟨e, congrArg Prod.fst hall, hnull⟩

end Files

end ProtocolBindings
