import ProtocolBindings.Proofs.Files.Steps

/-!
# Making directories

Making a directory and those it lies in adds directories on the way that the path leads, and
changes nothing else, whether it succeeds or not.
-/

namespace ProtocolBindings

namespace FileTree

variable {t t' t'' : FileTree} {p : Path} {place other : List String}

/-- A path leads to a directory. -/
structure HasDirectory (t : FileTree) (p : Path) (place : List String) : Prop where
  placeOf_eq : t.placeOf p = .ok place
  get?_eq : t.get? place = some .directory

/-- Where a file name of a directory can be followed to, there is the directory. -/
theorem hasDirectory_of_placeOf_joinText {name : String} (hname : Path.IsFileName name)
    (h : t.placeOf (p.joinText name) = .ok place) : t.HasDirectory p (t.destination p) := by
  have hjoin : p.joinText name = { p with steps := p.steps ++ [name] } :=
    joinText_of_isFileName hname
  obtain ⟨hnull, hsize, hfollow⟩ := placeOf_eq_ok_iff.1 h
  have hnull' : p.hasNullCharacter = false := by
    rw [hjoin, Path.hasNullCharacter, List.any_append, Bool.or_eq_false_iff] at hnull
    exact hnull.1
  rw [hjoin] at hfollow
  change t.follow (t.startOf p) (p.steps ++ [name]) = _ at hfollow
  rw [follow_append] at hfollow
  cases hsteps : t.follow (t.startOf p) p.steps with
  | error problem =>
    rw [hsteps] at hfollow
    cases hfollow
  | ok dir =>
    rw [hsteps] at hfollow
    have hplace : t.placeOf p = .ok dir :=
      placeOf_eq_ok_iff.2 ⟨hnull', (utf8ByteSize_text_le hname).trans hsize, hsteps⟩
    obtain rfl := placeOf_eq_destination hplace
    refine ⟨hplace, ?_⟩
    simp only [follow] at hfollow
    split at hfollow
    · cases hfollow
    · cases hfollow
    · assumption

/-- A tree differs from another one only in directories on the way that a path leads. -/
structure AddsDirectories (t : FileTree) (p : Path) (t' : FileTree) : Prop where
  current_eq : t'.current = t.current
  get?_eq : ∀ place, t'.get? place = t.get? place ∨
    t.get? place = none ∧ t'.get? place = some .directory ∧ t.Passes p place

namespace AddsDirectories

theorem refl (t : FileTree) (p : Path) : t.AddsDirectories p t :=
  ⟨rfl, fun _ => Or.inl rfl⟩

theorem get?_directory (h : t.AddsDirectories p t') (hplace : t.get? place = some .directory) :
    t'.get? place = some .directory := by
  rcases h.get?_eq place with hsame | ⟨hnone, -, -⟩
  · rw [hsame, hplace]
  · rw [hnone] at hplace
    cases hplace

theorem placeOf_eq (h : t.AddsDirectories p t') {q : Path} (hq : t.placeOf q = .ok place) :
    t'.placeOf q = .ok place :=
  placeOf_mono h.current_eq (fun _ => h.get?_directory) hq

theorem passes_iff (hcurrent : t'.current = t.current) :
    t'.Passes p place ↔ t.Passes p place := by
  rw [Passes, Passes, startOf, startOf, hcurrent]

theorem trans (h : t.AddsDirectories p t') (h' : t'.AddsDirectories p t'') :
    t.AddsDirectories p t'' := by
  refine ⟨h'.current_eq.trans h.current_eq, fun place => ?_⟩
  rcases h'.get?_eq place with hsame' | ⟨hnone', hdirectory', hpasses'⟩
  · rw [hsame']
    exact h.get?_eq place
  · rw [passes_iff h.current_eq] at hpasses'
    rcases h.get?_eq place with hsame | ⟨-, hdirectory, -⟩
    · rw [hsame] at hnone'
      exact Or.inr ⟨hnone', hdirectory', hpasses'⟩
    · rw [hdirectory] at hnone'
      cases hnone'

theorem of_parent (h : t.AddsDirectories p.parent t') : t.AddsDirectories p t' := by
  refine ⟨h.current_eq, fun place => ?_⟩
  rcases h.get?_eq place with hsame | ⟨hnone, hdirectory, steps, hsteps, hplace⟩
  · exact Or.inl hsame
  · exact Or.inr ⟨hnone, hdirectory, steps, hsteps.trans (List.dropLast_prefix _), hplace⟩

end AddsDirectories

theorem ne_nil_of_get?_eq_none (h : t.get? place = none) : place ≠ [] := by
  rintro rfl
  cases h

theorem addsDirectories_of_makeDirectory (h : t.makeDirectory p = .ok t') :
    t.AddsDirectories p t' ∧ ∃ place, t'.HasDirectory p place := by
  obtain ⟨place, hplace, hnone, rfl⟩ := makeDirectory_eq_ok_iff.1 h
  have hadds : t.AddsDirectories p (t.put place .directory) := by
    refine ⟨rfl, fun other => ?_⟩
    by_cases hother : other = place
    · subst hother
      refine Or.inr ⟨hnone, get?_put_self (ne_nil_of_get?_eq_none hnone), ?_⟩
      exact ⟨p.steps, List.prefix_rfl, placeOf_eq_destination hplace⟩
    · exact Or.inl (get?_put_of_ne hother)
  exact ⟨hadds, place, hadds.placeOf_eq hplace, get?_put_self (ne_nil_of_get?_eq_none hnone)⟩

end FileTree

namespace Files

open FileTree

variable {t t' : FileTree} {p : Path} {r : Except FileError Unit}

theorem run_isDirectory (t : FileTree) (p : Path) :
    (isDirectory p : ExceptT FileError (StateM FileTree) Bool).run.run t =
      ((t.kindAt? p).map (· == some .directory), t) := by
  rw [isDirectory, run_bind, run_kindOf?]
  cases t.kindAt? p with
  | error e => rfl
  | ok kind => rfl

theorem hasDirectory_of_isDirectory
    (h : (t.kindAt? p).map (· == some EntryKind.directory) = .ok true) :
    ∃ place, t.HasDirectory p place := by
  obtain ⟨kind, hkind, hb⟩ := Results.map_eq_ok_iff.1 h
  obtain rfl : kind = some .directory := by simpa using hb
  rw [kindAt?_eq_some_iff, kindOf_eq_ok_iff] at hkind
  obtain ⟨place, hplace, hentry⟩ := hkind
  exact ⟨place, hplace, hentry⟩

theorem addsDirectories_of_ensureDirectory
    (h : (ensureDirectory p : ExceptT FileError (StateM FileTree) Unit).run.run t = (r, t')) :
    t.AddsDirectories p t' ∧ (r = .ok () → ∃ place, t'.HasDirectory p place) := by
  rw [ensureDirectory, run_bind, run_makeDirectory_lift] at h
  cases hmake : t.makeDirectory p with
  | ok made =>
    rw [hmake] at h
    obtain ⟨rfl, rfl⟩ := Prod.mk.inj h
    obtain ⟨hadds, hdirectory⟩ := addsDirectories_of_makeDirectory hmake
    exact ⟨hadds, fun _ => hdirectory⟩
  | error e =>
    rw [hmake] at h
    simp only at h
    split at h
    · obtain ⟨rfl, rfl⟩ := Prod.mk.inj h
      exact ⟨.refl _ _, fun hr => by cases hr⟩
    · rw [run_bind, run_isDirectory] at h
      cases hcheck : (t.kindAt? p).map (· == some EntryKind.directory) with
      | error e' =>
        rw [hcheck] at h
        obtain ⟨rfl, rfl⟩ := Prod.mk.inj h
        exact ⟨.refl _ _, fun hr => by cases hr⟩
      | ok b =>
        rw [hcheck] at h
        cases b with
        | false =>
          obtain ⟨rfl, rfl⟩ := Prod.mk.inj h
          exact ⟨.refl _ _, fun hr => by cases hr⟩
        | true =>
          obtain ⟨rfl, rfl⟩ := Prod.mk.inj h
          exact ⟨.refl _ _, fun _ => hasDirectory_of_isDirectory hcheck⟩

/-- Whether it succeeds or not, making directories adds directories on the way of the path only;
when it succeeds, the path leads to a directory. -/
theorem addsDirectories_of_ensureDirectories {depth : Nat}
    (h : (ensureDirectories depth p : ExceptT FileError (StateM FileTree) Unit).run.run t =
      (r, t')) :
    t.AddsDirectories p t' ∧ (r = .ok () → ∃ place, t'.HasDirectory p place) := by
  induction depth generalizing p t t' r with
  | zero => exact addsDirectories_of_ensureDirectory h
  | succ depth ih =>
    rw [ensureDirectories, run_bind, run_lift] at h
    rcases hfirst : (ensureDirectory p : ExceptT FileError (StateM FileTree) Unit).run.run t with
      ⟨r₁, t₁⟩
    have hadds := addsDirectories_of_ensureDirectory hfirst
    rw [hfirst] at h
    cases r₁ with
    | ok _ =>
      obtain ⟨rfl, rfl⟩ := Prod.mk.inj h
      exact hadds
    | error e =>
      simp only at h
      split at h
      · rw [run_bind] at h
        rcases hparent : (ensureDirectories depth p.parent :
          ExceptT FileError (StateM FileTree) Unit).run.run t₁ with ⟨r₂, t₂⟩
        have hparents := hadds.1.trans (ih hparent).1.of_parent
        rw [hparent] at h
        cases r₂ with
        | ok _ =>
          obtain ⟨hlast, hdirectory⟩ := addsDirectories_of_ensureDirectory h
          exact ⟨hparents.trans hlast, hdirectory⟩
        | error e' =>
          obtain ⟨rfl, rfl⟩ := Prod.mk.inj h
          exact ⟨hparents, fun hr => by cases hr⟩
      · obtain ⟨rfl, rfl⟩ := Prod.mk.inj h
        exact ⟨hadds.1, fun hr => by cases hr⟩

end Files

namespace FileTree

/-- The tree after a directory and those it lies in were made, as far as they could be. -/
def withDirectories (t : FileTree) (p : Path) : FileTree :=
  ((Files.makeDirectories p : ExceptT FileError (StateM FileTree) Unit).run.run t).2

theorem addsDirectories_withDirectories (t : FileTree) (p : Path) :
    t.AddsDirectories p (t.withDirectories p) :=
  (Files.addsDirectories_of_ensureDirectories rfl).1

variable {t t' : FileTree} {p : Path} {r : Except FileError Unit}

theorem withDirectories_eq
    (h : (Files.makeDirectories p : ExceptT FileError (StateM FileTree) Unit).run.run t = (r, t')) :
    t.withDirectories p = t' := by
  rw [withDirectories, h]

theorem hasDirectory_withDirectories
    (h : (Files.makeDirectories p : ExceptT FileError (StateM FileTree) Unit).run.run t =
      (.ok (), t')) :
    (t.withDirectories p).HasDirectory p (t.destination p) := by
  obtain ⟨hadds, hplace⟩ := Files.addsDirectories_of_ensureDirectories h
  obtain ⟨place, hdir⟩ := hplace rfl
  obtain rfl : place = t.destination p :=
    (placeOf_eq_destination hdir.placeOf_eq).trans (destination_congr hadds.current_eq)
  rw [withDirectories_eq h]
  exact hdir

end FileTree

end ProtocolBindings
