import Mathlib.Data.List.Infix
import ProtocolBindings.Files.Tree
import ProtocolBindings.Proofs.Text.Blank

/-!
# Places that paths lead to

A path that can be followed leads to a place that can be read off its steps alone.  It can still
be followed when more places have become directories, and its file names lead to the entries of
the directory that it leads to.
-/

namespace ProtocolBindings

/-- A path that is not its own parent has a last step. -/
theorem Path.exists_steps_eq {p : Path} (h : p.parent ≠ p) :
    ∃ last, p.steps = p.parent.steps ++ [last] := by
  rcases List.eq_nil_or_concat p.steps with hnil | ⟨front, last, hsteps⟩
  · apply absurd _ h
    rw [Path.parent, hnil, List.dropLast_nil, ← hnil]
  · rw [List.concat_eq_append] at hsteps
    refine ⟨last, ?_⟩
    rw [Path.parent, hsteps, List.dropLast_concat]

/-- The parent of a path is not longer, unless it is the point alone. -/
theorem Path.utf8ByteSize_parent_text_le (p : Path) :
    p.parent.text.utf8ByteSize ≤ max 1 p.text.utf8ByteSize := by
  by_cases hparent : p.parent = p
  · rw [hparent]
    exact Nat.le_max_right 1 _
  · obtain ⟨last, hsteps⟩ := Path.exists_steps_eq hparent
    have hlong : p.text = p.root.text ++ "/".intercalate (p.parent.steps ++ [last]) := by
      rw [Path.text, hsteps]
      simp
    have hshort : p.parent.text =
        if p.root == .current && p.parent.steps.isEmpty then "."
        else p.root.text ++ "/".intercalate p.parent.steps := rfl
    rw [hlong, hshort]
    cases p.parent.steps with
    | nil =>
      split
      · exact Nat.le_max_left 1 _
      · simp only [List.nil_append, String.intercalate_nil, String.intercalate_singleton,
          String.utf8ByteSize_append, String.utf8ByteSize_empty]
        omega
    | cons first rest =>
      rw [String.intercalate_append_of_ne_nil (by simp) (by simp)]
      simp only [List.isEmpty_cons, Bool.and_false, Bool.false_eq_true, if_false,
        String.utf8ByteSize_append]
      omega

/-- The names under which a directory can hold a file. -/
structure Path.IsFileName (name : String) : Prop where
  ne_empty : name ≠ ""
  ne_current : name ≠ "."
  ne_parent : name ≠ parentStep
  noSlash : '/' ∉ name.toList
  noNull : '\x00' ∉ name.toList

namespace FileTree

/-- The place that steps lead to from a place, if they lead anywhere. -/
def destinationFrom (place : List String) (steps : List String) : List String :=
  steps.foldl (fun place step => if step == Path.parentStep then place.dropLast
    else place ++ [step]) place

def startOf (t : FileTree) (p : Path) : List String :=
  if p.isAbsolute then [] else t.current

/-- The place that a path leads to, if it leads anywhere. -/
def destination (t : FileTree) (p : Path) : List String :=
  destinationFrom (t.startOf p) p.steps

/-- Whether a path leads through a place or to it. -/
def Passes (t : FileTree) (p : Path) (place : List String) : Prop :=
  ∃ steps, steps <+: p.steps ∧ place = destinationFrom (t.startOf p) steps

variable {t t' : FileTree} {p : Path} {place other : List String} {steps more : List String}

theorem follow_append : t.follow place (steps ++ more) =
    match t.follow place steps with
    | .ok other => t.follow other more
    | .error problem => .error problem := by
  induction steps generalizing place with
  | nil => rfl
  | cons step rest ih =>
    rw [List.cons_append, follow, follow]
    cases t.get? place with
    | none => rfl
    | some entry =>
      cases entry with
      | file content => rfl
      | directory =>
        simp only
        split
        · exact ih
        · split
          · rfl
          · exact ih

/-- Steps that can be followed lead through directories to the place read off them. -/
theorem follow_eq_ok (h : t.follow place steps = .ok other) :
    other = destinationFrom place steps ∧
      ∀ front step, front ++ [step] <+: steps →
        t.get? (destinationFrom place front) = some .directory := by
  induction steps generalizing place with
  | nil =>
    obtain rfl := Except.ok.inj h
    refine ⟨rfl, ?_⟩
    intro front step hprefix
    simp at hprefix
  | cons step rest ih =>
    rw [follow] at h
    split at h
    · simp at h
    · simp at h
    · rename_i hdirectory
      have hnext : ∃ next, destinationFrom place [step] = next ∧
          t.follow next rest = .ok other := by
        refine ⟨_, rfl, ?_⟩
        split at h
        · rename_i hparent
          rw [destinationFrom, List.foldl_cons, if_pos hparent]
          exact h
        · rename_i hparent
          split at h
          · simp at h
          · rw [destinationFrom, List.foldl_cons, if_neg hparent]
            exact h
      obtain ⟨next, rfl, hfollow⟩ := hnext
      obtain ⟨hdestination, hfront⟩ := ih hfollow
      refine ⟨hdestination, ?_⟩
      intro front last hprefix
      cases front with
      | nil => exact hdirectory
      | cons first front =>
        obtain ⟨rfl, hrest⟩ := List.cons_prefix_cons.1 hprefix
        exact hfront front last hrest

/-- Steps can still be followed when every directory has stayed one. -/
theorem follow_mono (hkeep : ∀ place, t.get? place = some .directory →
      t'.get? place = some .directory) (h : t.follow place steps = .ok other) :
    t'.follow place steps = .ok other := by
  induction steps generalizing place with
  | nil => exact h
  | cons step rest ih =>
    rw [follow] at h
    split at h
    · simp at h
    · simp at h
    · rename_i hdirectory
      rw [follow, hkeep place hdirectory]
      simp only
      split at h
      · rename_i hparent
        rw [if_pos hparent]
        exact ih h
      · rename_i hparent
        rw [if_neg hparent]
        split at h
        · simp at h
        · rename_i hsize
          rw [if_neg hsize]
          exact ih h

/-- Names can be followed through directories. -/
theorem follow_eq_append
    (hdirectory : ∀ front, front <+: steps → t.get? (place ++ front) = some .directory)
    (hsteps : ∀ step ∈ steps, step ≠ Path.parentStep ∧ step.utf8ByteSize ≤ maxNameSize) :
    t.follow place steps = .ok (place ++ steps) := by
  induction steps generalizing place with
  | nil => rw [List.append_nil, follow]
  | cons step rest ih =>
    rw [List.forall_mem_cons] at hsteps
    obtain ⟨⟨hparent, hsize⟩, hrest⟩ := hsteps
    have hplace := hdirectory [] (List.nil_prefix)
    rw [List.append_nil] at hplace
    have hbelow : ∀ front, front <+: rest →
        t.get? (place ++ [step] ++ front) = some .directory := by
      intro front hfront
      rw [List.append_assoc, List.singleton_append]
      exact hdirectory _ (List.cons_prefix_cons.2 ⟨rfl, hfront⟩)
    rw [follow, hplace]
    simp only [beq_eq_false_iff_ne.2 hparent, Bool.false_eq_true, if_false,
      if_neg (Nat.not_lt.2 hsize)]
    rw [ih hbelow hrest, List.append_assoc, List.singleton_append]

theorem placeOf_eq_ok_iff : t.placeOf p = .ok place ↔
    p.hasNullCharacter = false ∧ p.text.utf8ByteSize ≤ maxPathSize ∧
      t.follow (t.startOf p) p.steps = .ok place := by
  rw [placeOf, startOf]
  split
  · rename_i hnull
    simp [hnull]
  · rename_i hnull
    split
    · rename_i hsize
      simp [Nat.not_le.2 hsize]
    · rename_i hsize
      simp [hnull, Nat.not_lt.1 hsize]

/-- A path leads where its last step leads to from its parent. -/
theorem placeOf_eq_bind {last : String} (hlast : p.steps = p.parent.steps ++ [last])
    (hnull : p.hasNullCharacter = false) (hsize : p.text.utf8ByteSize ≤ maxPathSize) :
    t.placeOf p = t.placeOf p.parent >>= fun dir => t.follow dir [last] := by
  have hnull' : p.parent.hasNullCharacter = false := by
    rw [Path.hasNullCharacter, hlast, List.any_append, Bool.or_eq_false_iff] at hnull
    exact hnull.1
  have hsize' : p.parent.text.utf8ByteSize ≤ maxPathSize := by
    have hle := Path.utf8ByteSize_parent_text_le p
    have hone : 1 ≤ maxPathSize := by decide
    omega
  have hfollow : ∀ q : Path, q.hasNullCharacter = false → q.text.utf8ByteSize ≤ maxPathSize →
      t.placeOf q = t.follow (t.startOf q) q.steps := by
    intro q hq hq'
    rw [placeOf, hq, if_neg Bool.false_ne_true, if_neg (Nat.not_lt.2 hq')]
    rfl
  have hstart : t.startOf p.parent = t.startOf p := rfl
  rw [hfollow p hnull hsize, hfollow p.parent hnull' hsize', hstart, hlast, follow_append]
  cases t.follow (t.startOf p) p.parent.steps with
  | error problem => rfl
  | ok dir => rfl

/-- A path that leads nowhere is one that could lead somewhere. -/
theorem utf8ByteSize_le_of_placeOf_eq_notFound (h : t.placeOf p = .error .notFound) :
    p.hasNullCharacter = false ∧ p.text.utf8ByteSize ≤ maxPathSize := by
  rw [placeOf] at h
  split at h
  · cases h
  · rename_i hnull
    split at h
    · cases h
    · rename_i hsize
      exact ⟨Bool.eq_false_iff.2 hnull, Nat.not_lt.1 hsize⟩

theorem placeOf_eq_destination (h : t.placeOf p = .ok place) : place = t.destination p :=
  (follow_eq_ok (placeOf_eq_ok_iff.1 h).2.2).1

theorem destination_congr (hcurrent : t'.current = t.current) :
    t'.destination p = t.destination p := by
  rw [destination, destination, startOf, startOf, hcurrent]

/-- A path keeps its place when every directory has stayed one. -/
theorem placeOf_mono (hcurrent : t'.current = t.current)
    (hkeep : ∀ place, t.get? place = some .directory → t'.get? place = some .directory)
    (h : t.placeOf p = .ok place) : t'.placeOf p = .ok place := by
  obtain ⟨hnull, hsize, hfollow⟩ := placeOf_eq_ok_iff.1 h
  have hstart : t'.startOf p = t.startOf p := by
    rw [startOf, startOf, hcurrent]
  refine placeOf_eq_ok_iff.2 ⟨hnull, hsize, ?_⟩
  rw [hstart]
  exact follow_mono hkeep hfollow

/-- A path that leads to a directory leads through directories only. -/
theorem get?_of_passes (h : t.placeOf p = .ok place) (hdirectory : t.get? place = some .directory)
    (hpasses : t.Passes p other) : t.get? other = some .directory := by
  obtain ⟨hplace, hfront⟩ := follow_eq_ok (placeOf_eq_ok_iff.1 h).2.2
  obtain ⟨steps, ⟨more, hmore⟩, rfl⟩ := hpasses
  cases more with
  | nil =>
    rw [List.append_nil] at hmore
    rw [hmore, ← hplace]
    exact hdirectory
  | cons step more =>
    apply hfront steps step
    rw [← hmore]
    exact ⟨more, by simp⟩

theorem destinationFrom_of_notMem (h : Path.parentStep ∉ steps) :
    destinationFrom place steps = place ++ steps := by
  induction steps generalizing place with
  | nil => rw [List.append_nil, destinationFrom, List.foldl_nil]
  | cons step rest ih =>
    rw [List.mem_cons, not_or] at h
    have hstep : (step == Path.parentStep) = false := beq_eq_false_iff_ne.2 (Ne.symm h.1)
    have hcons : destinationFrom place (step :: rest) =
        destinationFrom (place ++ [step]) rest := by
      rw [destinationFrom, List.foldl_cons, hstep]
      rfl
    rw [hcons, ih h.2, List.append_assoc]
    rfl

/-- Only a path with steps to the parent leads through an entry of the directory that it leads
to. -/
theorem parentStep_mem_of_passes {name : String}
    (h : t.Passes p (t.destination p ++ [name])) : Path.parentStep ∈ p.steps := by
  by_contra hparent
  obtain ⟨steps, hsteps, hplace⟩ := h
  have hparent' : Path.parentStep ∉ steps := fun hmem => hparent (hsteps.subset hmem)
  rw [destination, destinationFrom_of_notMem hparent, destinationFrom_of_notMem hparent'] at hplace
  have hlength := congrArg List.length hplace
  have hle := hsteps.length_le
  simp only [List.length_append, List.length_singleton] at hlength
  omega

/-! ## File names -/

theorem ofText_of_isFileName {name : String} (h : Path.IsFileName name) :
    Path.ofText name = ⟨.current, [name]⟩ := by
  have hpieces : Text.pieces (· == '/') name.toList = [name.toList] := by
    refine Text.pieces_of_forall_not fun c hc => beq_eq_false_iff_ne.2 ?_
    rintro rfl
    exact h.noSlash hc
  have hkept : (!name.toList.isEmpty && name.toList != ['.']) = true := by
    simp only [Bool.and_eq_true, Bool.not_eq_true', List.isEmpty_eq_false_iff, bne_iff_ne, ne_eq]
    refine ⟨?_, ?_⟩
    · intro hempty
      exact h.ne_empty (String.toList_inj.1 hempty)
    · intro hpoint
      exact h.ne_current (String.toList_inj.1 hpoint)
  have hroot : Path.rootOf name.toList = .current := by
    cases hcs : name.toList with
    | nil => rfl
    | cons c rest =>
      have hc : c ≠ '/' := by
        rintro rfl
        exact h.noSlash (by simp [hcs])
      unfold Path.rootOf
      split
      · exact absurd (List.cons.inj ‹_›).1 hc
      · exact absurd (List.cons.inj ‹_›).1 hc
      · exact absurd (List.cons.inj ‹_›).1 hc
      · rfl
  have hsteps : Path.stepsOf name.toList = [name] := by
    rw [Path.stepsOf, hpieces, List.filter_cons, if_pos hkept]
    simp
  rw [Path.ofText, hroot, hsteps]

theorem joinText_of_isFileName {name : String} (h : Path.IsFileName name) :
    p.joinText name = { p with steps := p.steps ++ [name] } := by
  rw [Path.joinText, ofText_of_isFileName h]
  rfl

/-- A path is not longer than the paths of the files below it. -/
theorem utf8ByteSize_text_le {name : String} (hname : Path.IsFileName name) :
    p.text.utf8ByteSize ≤ (p.joinText name).text.utf8ByteSize := by
  have hjoin : p.joinText name = { p with steps := p.steps ++ [name] } :=
    joinText_of_isFileName hname
  have hparent : (p.joinText name).parent = p := by
    rw [hjoin, Path.parent]
    simp
  have hle := Path.utf8ByteSize_parent_text_le (p.joinText name)
  have hname' : 1 ≤ name.utf8ByteSize := by
    have hne : name.utf8ByteSize ≠ 0 := by
      rw [ne_eq, String.utf8ByteSize_eq_zero_iff]
      exact hname.ne_empty
    omega
  have hlong : 1 ≤ (p.joinText name).text.utf8ByteSize := by
    have htext : (p.joinText name).text = p.root.text ++ "/".intercalate (p.steps ++ [name]) := by
      rw [hjoin, Path.text]
      simp
    rw [htext, String.utf8ByteSize_append]
    by_cases hsteps : p.steps = []
    · rw [hsteps]
      simpa using Nat.le_add_left_of_le hname'
    · rw [String.intercalate_append_of_ne_nil hsteps (by simp)]
      simp only [String.utf8ByteSize_append, String.intercalate_singleton]
      omega
  rw [hparent] at hle
  omega

/-- A file name leads to an entry of the directory that the path leads to, unless the path or the
name becomes too long. -/
theorem placeOf_joinText_eq {name : String} (hname : Path.IsFileName name)
    (h : t.placeOf p = .ok place) (hdirectory : t.get? place = some .directory) :
    t.placeOf (p.joinText name) =
      if maxPathSize < (p.joinText name).text.utf8ByteSize ∨ maxNameSize < name.utf8ByteSize then
        .error .nameTooLong
      else .ok (place ++ [name]) := by
  obtain ⟨hnull, -, hfollow⟩ := placeOf_eq_ok_iff.1 h
  have hjoin : p.joinText name = { p with steps := p.steps ++ [name] } :=
    joinText_of_isFileName hname
  have hnull' : (p.joinText name).hasNullCharacter = false := by
    rw [hjoin, Path.hasNullCharacter, List.any_append, ← Path.hasNullCharacter, hnull]
    simpa using hname.noNull
  have hlast : t.follow (t.startOf p) (p.steps ++ [name]) =
      if maxNameSize < name.utf8ByteSize then .error .nameTooLong else .ok (place ++ [name]) := by
    have hparent : (name == Path.parentStep) = false := beq_eq_false_iff_ne.2 hname.ne_parent
    rw [follow_append, hfollow]
    simp only [follow, hdirectory, hparent]
    rfl
  rw [placeOf, hnull', if_neg Bool.false_ne_true]
  split
  · rename_i hlong
    rw [if_pos (Or.inl hlong)]
  · rename_i hshort
    simp only [hshort, false_or]
    rw [← hlast, hjoin]
    rfl

theorem placeOf_joinText {name : String} (hname : Path.IsFileName name)
    (h : t.placeOf p = .ok place) (hdirectory : t.get? place = some .directory) :
    t.placeOf (p.joinText name) = .ok (place ++ [name]) ∨
      t.placeOf (p.joinText name) = .error .nameTooLong := by
  rw [placeOf_joinText_eq hname h hdirectory]
  split
  · exact Or.inr rfl
  · exact Or.inl rfl

end FileTree

end ProtocolBindings
