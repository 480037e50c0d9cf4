import Mathlib.Data.List.Forall2

/-!
# Chains of steps that may fail

When a chain of steps succeeds and which of its steps failed when it does not: for two steps in a
row, for a step that is carried out on every item of a list, and for steps whose error is changed
on its way out.
-/

namespace ProtocolBindings.Results

variable {ε ε' α β : Type}

theorem bind_eq_ok_iff {x : Except ε α} {f : α → Except ε β} {b : β} :
    (x >>= f) = .ok b ↔ ∃ a, x = .ok a ∧ f a = .ok b := by
  cases x with
  | error e => simp [bind, Except.bind]
  | ok a => simp [bind, Except.bind]

theorem bind_eq_error_iff {x : Except ε α} {f : α → Except ε β} {e : ε} :
    (x >>= f) = .error e ↔ x = .error e ∨ ∃ a, x = .ok a ∧ f a = .error e := by
  cases x with
  | error e => simp [bind, Except.bind]
  | ok a => simp [bind, Except.bind]

theorem throw_eq (e : ε) : (throw e : Except ε α) = .error e :=
  rfl

theorem pure_eq_ok_iff {a b : α} : (pure a : Except ε α) = .ok b ↔ a = b := by
  simp [pure, Except.pure]

theorem map_eq_ok_iff {x : Except ε α} {f : α → β} {b : β} :
    x.map f = .ok b ↔ ∃ a, x = .ok a ∧ f a = b := by
  cases x with
  | error e => simp [Except.map]
  | ok a => simp [Except.map]

theorem map_eq_error_iff {x : Except ε α} {f : α → β} {e : ε} :
    x.map f = .error e ↔ x = .error e := by
  cases x with
  | error e => simp [Except.map]
  | ok a => simp [Except.map]

theorem mapError_eq_ok_iff {x : Except ε α} {f : ε → ε'} {a : α} :
    x.mapError f = .ok a ↔ x = .ok a := by
  cases x with
  | error e => simp [Except.mapError]
  | ok a => simp [Except.mapError]

theorem mapError_eq_error_iff {x : Except ε α} {f : ε → ε'} {e : ε'} :
    x.mapError f = .error e ↔ ∃ d, x = .error d ∧ f d = e := by
  cases x with
  | error e => simp [Except.mapError]
  | ok a => simp [Except.mapError]

theorem isOk_eq_true_iff {x : Except ε α} : x.isOk = true ↔ ∃ a, x = .ok a := by
  cases x with
  | error e => simp [Except.isOk, Except.toBool]
  | ok a => simp [Except.isOk, Except.toBool]

theorem toOption_eq_some_iff {x : Except ε α} {a : α} : x.toOption = some a ↔ x = .ok a := by
  cases x with
  | error e => simp [Except.toOption]
  | ok a => simp [Except.toOption]

/-- A step succeeds on a whole list if it succeeds on every item. -/
theorem mapM_eq_ok_iff {f : α → Except ε β} {items : List α} {results : List β} :
    items.mapM f = .ok results ↔ List.Forall₂ (fun a b => f a = .ok b) items results := by
  induction items generalizing results with
  | nil =>
    rw [List.mapM_nil, pure_eq_ok_iff]
    constructor
    · rintro rfl
      exact .nil
    · rintro ⟨⟩
      rfl
  | cons a items ih =>
    rw [List.mapM_cons]
    constructor
    · intro h
      obtain ⟨b, hb, h⟩ := bind_eq_ok_iff.1 h
      obtain ⟨rest, hrest, h⟩ := bind_eq_ok_iff.1 h
      obtain rfl := pure_eq_ok_iff.1 h
      exact .cons hb (ih.1 hrest)
    · rintro (⟨⟩ | ⟨hb, hrest⟩)
      exact bind_eq_ok_iff.2 ⟨_, hb, bind_eq_ok_iff.2 ⟨_, ih.2 hrest, rfl⟩⟩

/-- The first item on which a step fails decides how it fails on a whole list. -/
theorem mapM_eq_error_iff {f : α → Except ε β} {items : List α} {e : ε} :
    items.mapM f = .error e ↔
      ∃ before a after, items = before ++ a :: after ∧
        (∀ x ∈ before, ∃ b, f x = .ok b) ∧ f a = .error e := by
  induction items with
  | nil => simp [pure, Except.pure]
  | cons a items ih =>
    rw [List.mapM_cons, bind_eq_error_iff]
    constructor
    · rintro (ha | ⟨b, hb, h⟩)
      · exact ⟨[], a, items, rfl, by simp, ha⟩
      · rcases bind_eq_error_iff.1 h with h | ⟨rest, -, h⟩
        · obtain ⟨before, x, after, rfl, hbefore, hx⟩ := ih.1 h
          refine ⟨a :: before, x, after, rfl, ?_, hx⟩
          rw [List.forall_mem_cons]
          exact ⟨⟨b, hb⟩, hbefore⟩
        · simp [pure, Except.pure] at h
    · rintro ⟨before, x, after, hitems, hbefore, hx⟩
      cases before with
      | nil =>
        obtain ⟨rfl, rfl⟩ := List.cons.inj hitems
        exact Or.inl hx
      | cons y before =>
        obtain ⟨rfl, rfl⟩ := List.cons.inj hitems
        rw [List.forall_mem_cons] at hbefore
        obtain ⟨⟨b, hb⟩, hbefore⟩ := hbefore
        refine Or.inr ⟨b, hb, bind_eq_error_iff.2 (Or.inl ?_)⟩
        exact ih.2 ⟨before, x, after, rfl, hbefore, hx⟩

/-- Every result of a step that is carried out on a list comes from one of the items. -/
theorem exists_of_mem_forall₂ {r : α → β → Prop} {items : List α} {results : List β}
    (h : List.Forall₂ r items results) {b : β} (hb : b ∈ results) : ∃ a ∈ items, r a b := by
  induction h with
  | nil => simp at hb
  | cons hr hrest ih =>
    rcases List.mem_cons.1 hb with rfl | hb
    · exact ⟨_, List.mem_cons_self, hr⟩
    · obtain ⟨a, ha, hab⟩ := ih hb
      exact ⟨a, List.mem_cons_of_mem _ ha, hab⟩

theorem exists_mapM_eq_ok_iff {f : α → Except ε β} {items : List α} :
    (∃ results, items.mapM f = .ok results) ↔ ∀ a ∈ items, ∃ b, f a = .ok b := by
  constructor
  · rintro ⟨results, h⟩ a ha
    obtain ⟨b, -, hb⟩ := exists_of_mem_forall₂ (mapM_eq_ok_iff.1 h).flip ha
    exact ⟨b, hb⟩
  · intro h
    cases hmap : items.mapM f with
    | ok results => exact ⟨results, rfl⟩
    | error e =>
      obtain ⟨before, a, after, rfl, -, ha⟩ := mapM_eq_error_iff.1 hmap
      obtain ⟨b, hb⟩ := h a (by simp)
      rw [ha] at hb
      cases hb

/-- A step does the same on two lists if it does the same on their items one by one. -/
theorem mapM_congr_forall₂ {f : α → Except ε β} {items others : List α}
    (h : List.Forall₂ (fun a b => f a = f b) items others) : items.mapM f = others.mapM f := by
  induction h with
  | nil => rfl
  | cons hhead hrest ih => rw [List.mapM_cons, List.mapM_cons, hhead, ih]

/-- If a step only checks its item, it succeeds on a whole list when every item passes, and gives
what it makes of each. -/
theorem mapM_eq_ok_iff_forall {f : α → Except ε β} {p : α → Prop} {g : α → β} {items : List α}
    {results : List β} (h : ∀ a b, f a = .ok b ↔ p a ∧ b = g a) :
    items.mapM f = .ok results ↔ (∀ a ∈ items, p a) ∧ results = items.map g := by
  rw [mapM_eq_ok_iff]
  induction items generalizing results with
  | nil =>
    rw [List.forall₂_nil_left_iff]
    simp
  | cons a items ih =>
    rw [List.forall₂_cons_left_iff, List.forall_mem_cons]
    constructor
    · rintro ⟨b, rest, hb, hrest, rfl⟩
      obtain ⟨ha, rfl⟩ := (h a b).1 hb
      obtain ⟨hall, rfl⟩ := ih.1 hrest
      exact ⟨⟨ha, hall⟩, rfl⟩
    · rintro ⟨⟨ha, hall⟩, rfl⟩
      exact ⟨g a, items.map g, (h a (g a)).2 ⟨ha, rfl⟩, ih.2 ⟨hall, rfl⟩, rfl⟩

/-- The first item of a list that fails a test. -/
def IsFirstFailing (p : α → Prop) (items : List α) (a : α) : Prop :=
  ∃ before after, items = before ++ a :: after ∧ (∀ x ∈ before, p x) ∧ ¬p a

/-- If a step only checks its item, the first item that does not pass decides how it fails on a
whole list. -/
theorem mapM_eq_error_iff_isFirstFailing {f : α → Except ε β} {p : α → Prop} {error : α → ε}
    {items : List α} {e : ε} (h : ∀ a e, f a = .error e ↔ ¬p a ∧ e = error a) :
    items.mapM f = .error e ↔ ∃ a, IsFirstFailing p items a ∧ e = error a := by
  have hok : ∀ a, (∃ b, f a = .ok b) ↔ p a := by
    intro a
    constructor
    · rintro ⟨b, hb⟩
      by_contra hnot
      have herror := (h a (error a)).2 ⟨hnot, rfl⟩
      rw [hb] at herror
      cases herror
    · intro hp
      cases ha : f a with
      | error d => exact absurd hp ((h a d).1 ha).1
      | ok b => exact ⟨b, rfl⟩
  rw [mapM_eq_error_iff]
  constructor
  · rintro ⟨before, a, after, hitems, hbefore, ha⟩
    obtain ⟨hnot, he⟩ := (h a e).1 ha
    exact ⟨a, ⟨before, after, hitems, fun x hx => (hok x).1 (hbefore x hx), hnot⟩, he⟩
  · rintro ⟨a, ⟨before, after, hitems, hbefore, hnot⟩, he⟩
    exact ⟨before, a, after, hitems, fun x hx => (hok x).2 (hbefore x hx), (h a e).2 ⟨hnot, he⟩⟩

/-- Whether a chain of steps fails with an error of some kind. -/
def FailsWith (p : ε → Prop) (x : Except ε α) : Prop :=
  ∃ e, x = .error e ∧ p e

section

variable {p : ε → Prop}

theorem failsWith_error_iff {e : ε} : FailsWith p (.error e : Except ε α) ↔ p e := by
  simp [FailsWith]

theorem not_failsWith_ok {a : α} : ¬FailsWith p (.ok a : Except ε α) := by
  rintro ⟨e, h, -⟩
  cases h

theorem failsWith_bind_iff {x : Except ε α} {f : α → Except ε β} :
    FailsWith p (x >>= f) ↔ FailsWith p x ∨ ∃ a, x = .ok a ∧ FailsWith p (f a) := by
  simp only [FailsWith, bind_eq_error_iff]
  constructor
  · rintro ⟨e, hx | ⟨a, ha, hf⟩, he⟩
    · exact Or.inl ⟨e, hx, he⟩
    · exact Or.inr ⟨a, ha, e, hf, he⟩
  · rintro (⟨e, hx, he⟩ | ⟨a, ha, e, hf, he⟩)
    · exact ⟨e, Or.inl hx, he⟩
    · exact ⟨e, Or.inr ⟨a, ha, hf⟩, he⟩

theorem failsWith_mapError_iff {p : ε' → Prop} {f : ε → ε'} {x : Except ε α} :
    FailsWith p (x.mapError f) ↔ FailsWith (fun e => p (f e)) x := by
  simp only [FailsWith, mapError_eq_error_iff]
  constructor
  · rintro ⟨_, ⟨e, hx, rfl⟩, he⟩
    exact ⟨e, hx, he⟩
  · rintro ⟨e, hx, he⟩
    exact ⟨f e, ⟨e, hx, rfl⟩, he⟩

end

end ProtocolBindings.Results
