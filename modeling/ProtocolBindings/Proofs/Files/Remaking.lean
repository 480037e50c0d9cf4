import ProtocolBindings.Proofs.Files.Directories
import ProtocolBindings.Proofs.Files.Interruption

/-!
# Making directories again

Making a directory and those it lies in can be stopped in the middle.  Done again from there, it
leaves the same tree as if it had not been stopped, and it succeeds in the same cases.
-/

namespace ProtocolBindings.Files

open FileTree Interruptible

variable {t t' u : FileTree} {p : Path} {place : List String} {depth : Nat} {e : FileError}

/-- What making a directory gives and leaves. -/
def made (p : Path) (t : FileTree) : Except FileError Unit × FileTree :=
  (ensureDirectory p : ExceptT FileError (StateM FileTree) Unit).run.run t

/-- What making a directory and those it lies in gives and leaves. -/
def madeAll (depth : Nat) (p : Path) (t : FileTree) : Except FileError Unit × FileTree :=
  (ensureDirectories depth p : ExceptT FileError (StateM FileTree) Unit).run.run t

/-- Goes on in the tree that is left, if all has gone well. -/
def thenOn (r : Except FileError Unit × FileTree)
    (f : FileTree → Except FileError Unit × FileTree) : Except FileError Unit × FileTree :=
  match r with
  | (.ok (), t) => f t
  | (.error e, t) => (.error e, t)

/-- Two outcomes that succeed in the same cases and leave the same tree.  Their errors may
differ. -/
structure SameMade (r r' : Except FileError Unit × FileTree) : Prop where
  ok_iff : r.1 = .ok () ↔ r'.1 = .ok ()
  tree_eq : r.2 = r'.2

theorem SameMade.refl (r : Except FileError Unit × FileTree) : SameMade r r :=
  ⟨Iff.rfl, rfl⟩

theorem SameMade.trans {r r' r'' : Except FileError Unit × FileTree} (h : SameMade r r')
    (h' : SameMade r' r'') : SameMade r r'' :=
  ⟨h.ok_iff.trans h'.ok_iff, h.tree_eq.trans h'.tree_eq⟩

theorem SameMade.of_errors {e e' : FileError} : SameMade (.error e, t) (.error e', t) :=
  ⟨by simp, rfl⟩

/-- Doing the same after two such outcomes gives two such outcomes. -/
theorem SameMade.andThen {r r' : Except FileError Unit × FileTree} (h : SameMade r r')
    (f : FileTree → Except FileError Unit × FileTree) :
    SameMade (thenOn r f) (thenOn r' f) := by
  obtain ⟨result, t⟩ := r
  obtain ⟨result', t'⟩ := r'
  obtain rfl : t = t' := h.tree_eq
  have hok : result = .ok () ↔ result' = .ok () := h.ok_iff
  rcases result with e | _
  · rcases result' with e' | _
    · exact .of_errors
    · cases hok.2 rfl
  · obtain rfl := hok.1 rfl
    exact .refl _

/-! ## One directory -/

theorem made_eq (p : Path) (t : FileTree) :
    made p t =
      match t.makeDirectory p with
      | .ok t' => (.ok (), t')
      | .error e =>
        if e.problem = .notFound then (.error e, t)
        else
          match t.kindAt? p with
          | .error e' => (.error e', t)
          | .ok kind => (if kind = some .directory then .ok () else .error e, t) := by
  rw [made, ensureDirectory, run_bind, run_makeDirectory_lift]
  cases t.makeDirectory p with
  | ok t' => rfl
  | error e =>
    simp only [beq_iff_eq]
    split
    · rfl
    · rw [run_bind, run_isDirectory]
      rcases t.kindAt? p with e' | kind
      · rfl
      · simp only [Except.map, beq_iff_eq]
        split
        · rfl
        · rfl

/-- Making a directory fails for want of a place to put it just where its path leads nowhere. -/
theorem problem_of_makeDirectory_eq_error (h : t.makeDirectory p = .error e) :
    e.problem = .notFound ↔ t.placeOf p = .error .notFound := by
  rw [makeDirectory, withPath, Results.mapError_eq_error_iff] at h
  obtain ⟨problem, hproblem, rfl⟩ := h
  rcases Results.bind_eq_error_iff.1 hproblem with hplace | ⟨place, hplace, hentry⟩
  · rw [hplace, Except.error.injEq]
  · have hexists : problem = .alreadyExists := by
      split at hentry
      · exact (Except.error.inj hentry).symm
      · cases hentry
    rw [hplace, hexists]
    simp

/-- A path that cannot be looked at is not one that leads nowhere. -/
theorem problem_of_kindAt?_eq_error (h : t.kindAt? p = .error e) : e.problem ≠ .notFound := by
  intro hproblem
  rw [kindAt?] at h
  split at h
  · cases h
  · split at h
    · cases h
    · cases h
    · cases h
    · rename_i hnotFound _ _
      obtain rfl := Except.error.inj h
      exact hnotFound hproblem

/-- A directory is made, or it is there already, or it cannot be made. -/
theorem made_cases (p : Path) (t : FileTree) :
    (∃ t', t.makeDirectory p = .ok t' ∧ made p t = (.ok (), t')) ∨
      (∃ place, t.HasDirectory p place ∧ made p t = (.ok (), t)) ∨
      ∃ e, made p t = (.error e, t) ∧ (e.problem = .notFound ↔ t.placeOf p = .error .notFound) := by
  have hmade := made_eq p t
  cases hmake : t.makeDirectory p with
  | ok t' =>
    rw [hmake] at hmade
    exact Or.inl ⟨t', rfl, hmade⟩
  | error e =>
    have hproblem := problem_of_makeDirectory_eq_error hmake
    rw [hmake] at hmade
    simp only at hmade
    right
    split at hmade
    · exact Or.inr ⟨e, hmade, hproblem⟩
    · rename_i hother
      split at hmade
      · rename_i e' hkind
        have hother' := problem_of_kindAt?_eq_error hkind
        exact Or.inr ⟨e', hmade, by rw [← hproblem]; simp [hother, hother']⟩
      · rename_i kind hkind
        split at hmade
        · rename_i hdirectory
          rw [hdirectory, kindAt?_eq_some_iff, kindOf_eq_ok_iff] at hkind
          obtain ⟨place, hplace, hentry⟩ := hkind
          exact Or.inl ⟨place, ⟨hplace, hentry⟩, hmade⟩
        · exact Or.inr ⟨e, hmade, hproblem⟩

theorem of_made_eq_error (h : made p t = (.error e, t')) :
    (e.problem = .notFound ↔ t.placeOf p = .error .notFound) ∧ t' = t := by
  rcases made_cases p t with ⟨t', -, hmade⟩ | ⟨place, -, hmade⟩ | ⟨e', hmade, hproblem⟩
  · rw [hmade] at h
    cases h
  · rw [hmade] at h
    cases h
  · rw [hmade] at h
    obtain ⟨he, rfl⟩ := Prod.mk.inj h
    rw [← Except.error.inj he]
    exact ⟨hproblem, rfl⟩

theorem made_of_hasDirectory (h : t.HasDirectory p place) : made p t = (.ok (), t) := by
  have hkind : t.kindAt? p = .ok (some .directory) :=
    kindAt?_eq_some_iff.2 (kindOf_eq_ok_iff.2 ⟨place, h.placeOf_eq, h.get?_eq⟩)
  have hmake : t.makeDirectory p = .error ⟨.alreadyExists, p.text⟩ :=
    withPath_bind_eq_error h.placeOf_eq (by rw [h.get?_eq]; rfl)
  rw [made_eq, hmake, hkind]
  rfl

/-- Where a path leads to neither a directory nor a free place, no directory is made. -/
theorem made_eq_error (hdirectory : ∀ place, ¬ t.HasDirectory p place)
    (hfree : ∀ place, t.placeOf p = .ok place → t.get? place ≠ none) :
    ∃ e, made p t = (.error e, t) ∧
      (e.problem = .notFound ↔ t.placeOf p = .error .notFound) := by
  rcases made_cases p t with ⟨t', hmake, -⟩ | ⟨place, hplace, -⟩ | herror
  · obtain ⟨place, hplace, hnone, -⟩ := makeDirectory_eq_ok_iff.1 hmake
    exact absurd hnone (hfree place hplace)
  · exact absurd hplace (hdirectory place)
  · exact herror

theorem made_of_placeOf_eq_error {problem : FileProblem} (h : t.placeOf p = .error problem) :
    ∃ e, made p t = (.error e, t) ∧ (e.problem = .notFound ↔ problem = .notFound) := by
  have hnowhere : ∀ place, t.placeOf p ≠ .ok place := by
    intro place
    rw [h]
    rintro ⟨⟩
  obtain ⟨e, hmade, hproblem⟩ := made_eq_error (t := t) (p := p)
    (fun place hplace => hnowhere place hplace.placeOf_eq)
    (fun place hplace => absurd hplace (hnowhere place))
  rw [h, Except.error.injEq] at hproblem
  exact ⟨e, hmade, hproblem⟩

/-- What making a directory leaves that may be stopped. -/
theorem leaves_ensureDirectory
    (h : Leaves (ensureDirectory p : ExceptT FileError Interruptible Unit).run t u) :
    u = t ∨ made p t = (.ok (), u) ∧ ∃ place, u.HasDirectory p place := by
  have hmade : ∀ t', t.makeDirectory p = .ok t' →
      made p t = (.ok (), t') ∧ ∃ place, t'.HasDirectory p place := by
    intro t' hmake
    refine ⟨?_, (addsDirectories_of_makeDirectory hmake).2⟩
    rw [made_eq, hmake]
  rcases leaves_except_bind (tracks_makeDirectory_lift p) h with hfirst | ⟨r, t₁, hfirst, hthen⟩
  · rcases leaves_change (leaves_lift hfirst) with rfl | hmake | ⟨_, hpart⟩
    · exact Or.inl rfl
    · exact Or.inr (hmade u hmake)
    · exact Or.inl (Except.ok.inj hpart).symm
  · rw [run_makeDirectory_lift] at hfirst
    cases hmake : t.makeDirectory p with
    | ok t' =>
      rw [hmake] at hfirst
      obtain ⟨hr, rfl⟩ := Prod.mk.inj hfirst
      obtain rfl := Except.ok.inj hr
      obtain rfl := eq_of_leaves_pure hthen
      exact Or.inr (hmade u hmake)
    | error e =>
      rw [hmake] at hfirst
      obtain ⟨hr, rfl⟩ := Prod.mk.inj hfirst
      obtain rfl := Except.ok.inj hr
      left
      refine Looks.eq ?_ hthen
      simp only
      split
      · exact looks_pure _
      · refine (looks_isDirectory p).except_bind fun b => ?_
        split
        · exact looks_pure _
        · exact looks_pure _

/-! ## A directory and those it lies in -/

theorem madeAll_succ (depth : Nat) (p : Path) (t : FileTree) :
    madeAll (depth + 1) p t =
      match made p t with
      | (.ok (), t') => (.ok (), t')
      | (.error e, t') =>
        if e.problem = .notFound ∧ p.parent ≠ p then thenOn (madeAll depth p.parent t') (made p)
        else (.error e, t') := by
  rw [madeAll, ensureDirectories, run_bind, run_lift, made]
  rcases (ensureDirectory p : ExceptT FileError (StateM FileTree) Unit).run.run t with ⟨e | _, t'⟩
  · simp only [Bool.and_eq_true, beq_iff_eq, bne_iff_ne]
    split
    · rw [run_bind, madeAll]
      rcases (ensureDirectories depth p.parent :
        ExceptT FileError (StateM FileTree) Unit).run.run t' with ⟨e' | _, t''⟩
      · rfl
      · rfl
    · rfl
  · rfl

/-- A directory that can be made at once, or that cannot be made for any other reason than that the
directory it lies in does not exist, is made without a look at the parents. -/
theorem madeAll_of_made (h : ∀ e t', made p t = (.error e, t') → e.problem ≠ .notFound) :
    madeAll depth p t = made p t := by
  cases depth with
  | zero => rfl
  | succ depth =>
    rw [madeAll_succ]
    rcases hmade : made p t with ⟨e | _, t'⟩
    · simp only
      rw [if_neg fun hboth => h e t' hmade hboth.1]
    · rfl

theorem madeAll_of_hasDirectory (h : t.HasDirectory p place) : madeAll depth p t = (.ok (), t) := by
  have hmade := made_of_hasDirectory h
  rw [madeAll_of_made, hmade]
  intro e t' he
  rw [hmade] at he
  cases (Prod.mk.inj he).1

theorem madeAll_of_made_eq_error (h : made p t = (.error e, t)) (hproblem : e.problem ≠ .notFound) :
    madeAll depth p t = (.error e, t) := by
  rw [madeAll_of_made, h]
  intro e' t' he
  rw [h] at he
  obtain rfl := Except.error.inj (Prod.mk.inj he).1
  exact hproblem

/-- Where nothing but a missing parent is in the way of a directory, its parents are made first. -/
theorem madeAll_succ_of_notFound (h : t.placeOf p = .error .notFound) (hparent : p.parent ≠ p) :
    madeAll (depth + 1) p t = thenOn (madeAll depth p.parent t) (made p) := by
  obtain ⟨e, hmade, hproblem⟩ := made_of_placeOf_eq_error h
  rw [madeAll_succ, hmade]
  simp only
  rw [if_pos ⟨hproblem.2 rfl, hparent⟩]

/-- Where a missing parent is not in the way of a directory, its parent is there, or there is no
way to make either of them. -/
theorem parent_cases (hparent : p.parent ≠ p) (hnull : p.hasNullCharacter = false)
    (hsize : p.text.utf8ByteSize ≤ maxPathSize) (h : t.placeOf p ≠ .error .notFound) :
    (∃ place, t.HasDirectory p.parent place) ∨
      (∃ e, made p t = (.error e, t) ∧ e.problem ≠ .notFound) ∧
        ∃ e, made p.parent t = (.error e, t) ∧ e.problem ≠ .notFound := by
  obtain ⟨last, hlast⟩ := Path.exists_steps_eq hparent
  have hplace := placeOf_eq_bind (t := t) hlast hnull hsize
  cases hdir : t.placeOf p.parent with
  | error problem =>
    rw [hdir] at hplace
    have hproblem : problem ≠ .notFound := by
      rintro rfl
      exact h hplace
    obtain ⟨e, hmade, he⟩ := made_of_placeOf_eq_error hplace
    obtain ⟨e', hmade', he'⟩ := made_of_placeOf_eq_error hdir
    exact Or.inr ⟨⟨e, hmade, he.not.2 hproblem⟩, e', hmade', he'.not.2 hproblem⟩
  | ok dir =>
    rw [hdir] at hplace
    change t.placeOf p = t.follow dir [last] at hplace
    rw [follow] at hplace
    rcases hentry : t.get? dir with _ | content | _
    · rw [hentry] at hplace
      exact absurd hplace h
    · rw [hentry] at hplace
      have hfile : ∀ place, t.placeOf p.parent = .ok place →
          t.get? place = some (.file content) := by
        intro place hsame
        rw [hdir] at hsame
        rw [← Except.ok.inj hsame, hentry]
      have hnone : ∀ place, ¬ t.HasDirectory p.parent place := by
        intro place hdirectory
        have hsame := hfile place hdirectory.placeOf_eq
        rw [hdirectory.get?_eq] at hsame
        cases hsame
      obtain ⟨e, hmade, he⟩ := made_of_placeOf_eq_error hplace
      obtain ⟨e', hmade', he'⟩ := made_eq_error hnone fun place hsame => by simp [hfile place hsame]
      rw [hdir] at he'
      exact Or.inr ⟨⟨e, hmade, he.not.2 (by simp)⟩, e', hmade', he'.not.2 (by simp)⟩
    · exact Or.inl ⟨dir, hdir, hentry⟩

/-- If making the parents again leads to the same, so does making the directory again. -/
theorem SameMade.of_parent (hp : t.placeOf p = .error .notFound) (hparent : p.parent ≠ p)
    (h : SameMade (madeAll depth p.parent u) (madeAll depth p.parent t)) :
    SameMade (madeAll (depth + 1) p u) (madeAll (depth + 1) p t) := by
  obtain ⟨hnull, hsize⟩ := utf8ByteSize_le_of_placeOf_eq_notFound hp
  rw [madeAll_succ_of_notFound hp hparent]
  by_cases hagain : u.placeOf p = .error .notFound
  · rw [madeAll_succ_of_notFound hagain hparent]
    exact h.andThen (made p)
  · rcases parent_cases hparent hnull hsize hagain with
      ⟨place, hdirectory⟩ | ⟨⟨e, hmade, he⟩, e', hmade', he'⟩
    · -- The parents are there, so making them leaves them as they are.
      have hmade : madeAll (depth + 1) p u = made p u :=
        madeAll_of_made fun e t' he => (of_made_eq_error he).1.not.2 hagain
      rw [madeAll_of_hasDirectory hdirectory] at h
      rw [hmade]
      exact h.andThen (made p)
    · -- Neither the parents nor the directory can be made, in either run.
      rw [madeAll_of_made_eq_error hmade' he'] at h
      have hsame := h.andThen (made p)
      rw [madeAll_of_made_eq_error hmade he]
      exact SameMade.of_errors.trans hsame

theorem SameMade.of_made (h : u = t ∨ made p t = (.ok (), u) ∧ ∃ place, u.HasDirectory p place) :
    SameMade (madeAll depth p u) (madeAll depth p t) := by
  rcases h with rfl | ⟨hmade, place, hdirectory⟩
  · exact .refl _
  · have hdone : madeAll depth p t = made p t := by
      refine madeAll_of_made fun e t' he => ?_
      rw [hmade] at he
      cases (Prod.mk.inj he).1
    rw [madeAll_of_hasDirectory hdirectory, hdone, hmade]
    exact .refl _

/-- Where the parents are missing, the same is made from what is left of making them and then the
directory. -/
theorem SameMade.of_leaves_parents (hp : t.placeOf p = .error .notFound) (hparent : p.parent ≠ p)
    (hparents : ∀ u, Leaves (ensureDirectories depth p.parent :
      ExceptT FileError Interruptible Unit).run t u →
        SameMade (madeAll depth p.parent u) (madeAll depth p.parent t))
    (h : Leaves (do
      ensureDirectories depth p.parent
      ensureDirectory p : ExceptT FileError Interruptible Unit).run t u) :
    SameMade (madeAll (depth + 1) p u) (madeAll (depth + 1) p t) := by
  rcases leaves_except_bind (tracks_ensureDirectories depth p.parent) h with
    hfirst | ⟨_, t₁, hfirst, hlast⟩
  · exact (hparents u hfirst).of_parent hp hparent
  · have hmade : madeAll depth p.parent t = (.ok (), t₁) := hfirst
    rcases leaves_ensureDirectory hlast with rfl | ⟨hmade', place, hdirectory⟩
    · obtain ⟨place, hdirectory⟩ := (addsDirectories_of_ensureDirectories hfirst).2 rfl
      refine SameMade.of_parent hp hparent ?_
      rw [hmade, madeAll_of_hasDirectory hdirectory]
      exact .refl _
    · rw [madeAll_of_hasDirectory hdirectory, madeAll_succ_of_notFound hp hparent, hmade, thenOn,
        hmade']
      exact .refl _

/-- From what is left of making a directory and those it lies in, stopped or not, the same is
made. -/
theorem SameMade.of_leaves
    (h : Leaves (ensureDirectories depth p : ExceptT FileError Interruptible Unit).run t u) :
    SameMade (madeAll depth p u) (madeAll depth p t) := by
  induction depth generalizing p t u with
  | zero => exact .of_made (leaves_ensureDirectory h)
  | succ depth ih =>
    rcases leaves_except_bind (tracks_ensureDirectory p).lift h with hfirst | ⟨r, t₁, hfirst, hthen⟩
    · exact .of_made (leaves_ensureDirectory (leaves_lift hfirst))
    · rw [run_lift] at hfirst
      obtain ⟨hr, ht₁⟩ := Prod.mk.inj hfirst
      have hmade : made p t = (r, t₁) := Prod.ext (Except.ok.inj hr) ht₁
      rcases r with e | _
      · obtain ⟨hproblem, rfl⟩ := of_made_eq_error hmade
        simp only at hthen
        split at hthen
        · rename_i hmissing
          simp only [Bool.and_eq_true, beq_iff_eq, bne_iff_ne] at hmissing
          exact .of_leaves_parents (hproblem.1 hmissing.1) hmissing.2 (fun _ => ih) hthen
        · obtain rfl := eq_of_leaves_pure hthen
          exact .refl _
      · obtain rfl := eq_of_leaves_pure hthen
        exact .of_made (Or.inr ⟨hmade, (addsDirectories_of_ensureDirectory hmade).2 rfl⟩)

end ProtocolBindings.Files
