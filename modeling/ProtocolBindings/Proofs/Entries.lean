import Mathlib.Data.List.Basic
import ProtocolBindings.Entries

/-!
# What entries hold

Setting keys one after the other brings in no pairs but the given ones, and every key once.
-/

namespace ProtocolBindings.Entries

variable {κ α : Type} [BEq κ] [LawfulBEq κ] {key : κ} {value : α} {pair : κ × α}
  {entries pairs : List (κ × α)}

theorem mem_set (h : pair ∈ set key value entries) : pair = (key, value) ∨ pair ∈ entries := by
  induction entries with
  | nil => simpa [set] using h
  | cons entry rest ih =>
    obtain ⟨k, old⟩ := entry
    rw [set] at h
    split at h
    · rename_i hk
      obtain rfl := eq_of_beq hk
      rcases List.mem_cons.1 h with h | h
      · exact Or.inl h
      · exact Or.inr (List.mem_cons_of_mem _ h)
    · rcases List.mem_cons.1 h with rfl | h
      · exact Or.inr List.mem_cons_self
      · rcases ih h with h | h
        · exact Or.inl h
        · exact Or.inr (List.mem_cons_of_mem _ h)

/-- A new key goes to the end. -/
theorem set_of_notMem (h : key ∉ entries.map Prod.fst) :
    set key value entries = entries ++ [(key, value)] := by
  induction entries with
  | nil => rfl
  | cons entry rest ih =>
    obtain ⟨k, old⟩ := entry
    simp only [List.map_cons, List.mem_cons, not_or] at h
    have hk : (k == key) = false := beq_eq_false_iff_ne.2 (Ne.symm h.1)
    rw [set, hk, ih h.2]
    rfl

/-- A key that is set to the value that it has leaves the entries as they are. -/
theorem set_of_lookup_eq_some (h : entries.lookup key = some value) :
    set key value entries = entries := by
  induction entries with
  | nil => cases h
  | cons entry rest ih =>
    obtain ⟨k, old⟩ := entry
    by_cases hk : k = key
    · subst hk
      rw [List.lookup_cons_self] at h
      rw [set, if_pos (beq_self_eq_true k), Option.some.inj h]
    · have hne : (k == key) = false := beq_eq_false_iff_ne.2 hk
      have hne' : (key == k) = false := beq_eq_false_iff_ne.2 (Ne.symm hk)
      rw [List.lookup_cons, hne'] at h
      rw [set, hne, ih h]
      rfl

omit [LawfulBEq κ] in
/-- Setting a key brings in no more than that key, behind the others. -/
theorem sublist_keys_set :
    ((set key value entries).map Prod.fst).Sublist (entries.map Prod.fst ++ [key]) := by
  induction entries with
  | nil => simp [set]
  | cons entry rest ih =>
    obtain ⟨k, old⟩ := entry
    rw [set]
    split
    · exact List.sublist_append_left _ _
    · exact ih.cons_cons k

/-- Entries can be left out by their keys before or after a key is set. -/
theorem filter_set (p : κ → Bool) : (set key value entries).filter (fun pair => p pair.1) =
    if p key then set key value (entries.filter fun pair => p pair.1)
    else entries.filter fun pair => p pair.1 := by
  induction entries with
  | nil => simp [set, List.filter_cons]
  | cons entry rest ih =>
    obtain ⟨k, old⟩ := entry
    by_cases hk : k = key
    · subst hk
      by_cases hp : p k = true
      · simp [set, hp]
      · simp [set, hp]
    · have hne : (k == key) = false := beq_eq_false_iff_ne.2 hk
      rw [set, hne, if_neg Bool.false_ne_true, List.filter_cons, List.filter_cons, ih]
      by_cases hp : p key = true
      · by_cases hother : p k = true
        · simp [hp, hother, set, hne]
        · simp [hp, hother]
      · simp [hp]

/-- Entries can be left out by their keys before or after they are put together. -/
theorem filter_ofList (p : κ → Bool) (pairs : List (κ × α)) :
    (ofList pairs).filter (fun pair => p pair.1) =
      ofList (pairs.filter fun pair => p pair.1) := by
  suffices hfold : ∀ done : List (κ × α),
      (pairs.foldl (fun entries pair => set pair.1 pair.2 entries) done).filter
          (fun pair => p pair.1) =
        (pairs.filter fun pair => p pair.1).foldl (fun entries pair => set pair.1 pair.2 entries)
          (done.filter fun pair => p pair.1) from
    hfold []
  induction pairs with
  | nil => exact fun _ => rfl
  | cons first rest ih =>
    intro done
    rw [List.foldl_cons, ih, filter_set, List.filter_cons]
    by_cases hp : p first.1 = true
    · rw [if_pos hp, if_pos hp, List.foldl_cons]
    · rw [if_neg hp, if_neg hp]

omit [LawfulBEq κ] in
/-- Keys keep the order in which they first come. -/
theorem sublist_keys_ofList (pairs : List (κ × α)) :
    ((ofList pairs).map Prod.fst).Sublist (pairs.map Prod.fst) := by
  suffices hfold : ∀ done : List (κ × α),
      ((pairs.foldl (fun entries pair => set pair.1 pair.2 entries) done).map Prod.fst).Sublist
        (done.map Prod.fst ++ pairs.map Prod.fst) from
    hfold []
  induction pairs with
  | nil => simp
  | cons first rest ih =>
    intro done
    have hset : ((set first.1 first.2 done).map Prod.fst).Sublist
        (done.map Prod.fst ++ [first.1]) := sublist_keys_set
    rw [List.foldl_cons, List.map_cons]
    have hstep := hset.append (List.Sublist.refl (rest.map Prod.fst))
    rw [List.append_assoc, List.singleton_append] at hstep
    exact (ih _).trans hstep

theorem mem_of_mem_ofList (h : pair ∈ ofList pairs) : pair ∈ pairs := by
  suffices hfold : ∀ done : List (κ × α),
      pair ∈ pairs.foldl (fun entries pair => set pair.1 pair.2 entries) done →
        pair ∈ done ∨ pair ∈ pairs by
    simpa using hfold [] h
  clear h
  induction pairs with
  | nil => simp
  | cons first rest ih =>
    intro done h
    rw [List.foldl_cons] at h
    rcases ih _ h with h | h
    · rcases mem_set h with rfl | h
      · exact Or.inr List.mem_cons_self
      · exact Or.inl h
    · exact Or.inr (List.mem_cons_of_mem _ h)

/-- No key gets lost. -/
theorem mem_keys_ofList {pairs : List (κ × α)} (h : key ∈ pairs.map Prod.fst) :
    key ∈ (ofList pairs).map Prod.fst := by
  suffices hfold : ∀ done : List (κ × α), key ∈ done.map Prod.fst ∨ key ∈ pairs.map Prod.fst →
      key ∈ (pairs.foldl (fun entries pair => set pair.1 pair.2 entries) done).map Prod.fst from
    hfold [] (Or.inr h)
  clear h
  induction pairs with
  | nil => simp
  | cons first rest ih =>
    intro done h
    rw [List.foldl_cons]
    apply ih
    rw [mem_keys_set]
    rcases h with h | h
    · exact Or.inl (Or.inr h)
    · rcases List.mem_cons.1 h with rfl | h
      · exact Or.inl (Or.inl rfl)
      · exact Or.inr h

theorem nodup_keys_ofList (pairs : List (κ × α)) : ((ofList pairs).map Prod.fst).Nodup := by
  suffices hfold : ∀ done : List (κ × α), (done.map Prod.fst).Nodup →
      ((pairs.foldl (fun entries pair => set pair.1 pair.2 entries) done).map
        Prod.fst).Nodup from hfold [] List.nodup_nil
  induction pairs with
  | nil => exact fun _ h => h
  | cons first rest ih =>
    intro done h
    rw [List.foldl_cons]
    exact ih _ (nodup_keys_set h)

/-- A key that is there already stays the only one of its name. -/
theorem length_set_of_mem (h : key ∈ entries.map Prod.fst) :
    (set key value entries).length = entries.length := by
  induction entries with
  | nil => cases h
  | cons entry rest ih =>
    obtain ⟨k, old⟩ := entry
    rw [set]
    split
    · rfl
    · rename_i hk
      rcases List.mem_cons.1 h with heq | h
      · exact absurd (beq_iff_eq.2 heq.symm) hk
      · rw [List.length_cons, List.length_cons, ih h]

/-- Pairs with distinct keys are the entries that they make. -/
theorem ofList_of_nodup (h : (pairs.map Prod.fst).Nodup) : ofList pairs = pairs := by
  suffices hfold : ∀ done : List (κ × α), ((done ++ pairs).map Prod.fst).Nodup →
      pairs.foldl (fun entries pair => set pair.1 pair.2 entries) done = done ++ pairs from
    hfold [] h
  clear h
  induction pairs with
  | nil => simp
  | cons first rest ih =>
    intro done h
    have hnew : first.1 ∉ done.map Prod.fst := by
      rw [List.map_append, List.map_cons] at h
      exact fun hmem => (List.nodup_append.1 h).2.2 _ hmem _ List.mem_cons_self rfl
    rw [List.foldl_cons, set_of_notMem hnew, ih _ (by simpa using h)]
    simp

/-- A key is that of one pair only, if the keys are distinct. -/
theorem filter_eq_singleton (h : (entries.map Prod.fst).Nodup) (hmem : (key, value) ∈ entries) :
    entries.filter (·.1 == key) = [(key, value)] := by
  induction entries with
  | nil => cases hmem
  | cons entry rest ih =>
    rw [List.map_cons, List.nodup_cons] at h
    rcases List.mem_cons.1 hmem with rfl | hrest
    · have hothers : ∀ other ∈ rest, ¬(other.1 == key) = true := by
        intro other hother heq
        exact h.1 (List.mem_map.2 ⟨other, hother, beq_iff_eq.1 heq⟩)
      rw [List.filter_cons, List.filter_eq_nil_iff.2 hothers, beq_self_eq_true, if_pos rfl]
    · have hne : ¬(entry.1 == key) = true := by
        intro heq
        exact h.1 (List.mem_map.2 ⟨_, hrest, (beq_iff_eq.1 heq).symm⟩)
      rw [List.filter_cons, if_neg hne, ih h.2 hrest]

/-- Each of several pairs with distinct keys is found under its key. -/
theorem lookup_eq_some_of_mem (h : (entries.map Prod.fst).Nodup) (hmem : (key, value) ∈ entries) :
    entries.lookup key = some value := by
  induction entries with
  | nil => cases hmem
  | cons entry rest ih =>
    obtain ⟨k, old⟩ := entry
    rw [List.map_cons, List.nodup_cons] at h
    rcases List.mem_cons.1 hmem with heq | hrest
    · obtain ⟨rfl, rfl⟩ := Prod.mk.inj heq
      simp
    · have hne : key ≠ k := by
        rintro rfl
        exact h.1 (List.mem_map.2 ⟨_, hrest, rfl⟩)
      rw [List.lookup_cons, beq_eq_false_iff_ne.2 hne]
      exact ih h.2 hrest

/-- Keys that all have the same value. -/
theorem lookup_map_of_mem {keys : List κ} (h : key ∈ keys) :
    (keys.map (·, value)).lookup key = some value := by
  induction keys with
  | nil => cases h
  | cons other rest ih =>
    rw [List.map_cons, List.lookup_cons]
    by_cases heq : key = other
    · rw [heq, beq_self_eq_true]
    · rw [beq_eq_false_iff_ne.2 heq]
      exact ih ((List.mem_cons.1 h).resolve_left heq)

end ProtocolBindings.Entries
