/-!
# Entries in order of insertion

A list of pairs with distinct keys that keeps the order in which its keys came in.  Setting a key
that is there already changes its value and leaves it in its place.
-/

namespace ProtocolBindings.Entries

variable {κ α β : Type} [BEq κ]

/-- Sets a key: in place if it is there, at the end otherwise. -/
def set (key : κ) (value : α) : List (κ × α) → List (κ × α)
  | [] => [(key, value)]
  | (k, old) :: rest => if k == key then (k, value) :: rest else (k, old) :: set key value rest

/-- Sets the keys of a list, one after the other. -/
def ofList (pairs : List (κ × α)) : List (κ × α) :=
  pairs.foldl (fun entries (key, value) => set key value entries) []

theorem mem_keys_set [LawfulBEq κ] {key k : κ} {value : α} {entries : List (κ × α)} :
    k ∈ (set key value entries).map Prod.fst ↔ k = key ∨ k ∈ entries.map Prod.fst := by
  induction entries with
  | nil => simp [set]
  | cons entry rest ih =>
    obtain ⟨k', old⟩ := entry
    rw [set]
    split
    · rename_i h
      have h' := eq_of_beq h
      subst h'
      simp
    · simp only [List.map_cons, List.mem_cons, ih]
      constructor
      · rintro (h | h | h) <;> simp [h]
      · rintro (h | h | h) <;> simp [h]

/-- Setting a key keeps the keys distinct. -/
theorem nodup_keys_set [LawfulBEq κ] {key : κ} {value : α} {entries : List (κ × α)}
    (h : (entries.map Prod.fst).Nodup) : ((set key value entries).map Prod.fst).Nodup := by
  induction entries with
  | nil => simp [set]
  | cons entry rest ih =>
    obtain ⟨k, old⟩ := entry
    simp only [List.map_cons, List.nodup_cons] at h
    rw [set]
    split
    · simpa using h
    · rename_i hk
      simp only [List.map_cons, List.nodup_cons]
      refine ⟨?_, ih h.2⟩
      rw [mem_keys_set]
      rintro (h' | h')
      · exact hk (beq_iff_eq.2 h')
      · exact h.1 h'

/-- A key that was set has the value it was set to. -/
theorem lookup_set_self [LawfulBEq κ] {key : κ} {value : α} {entries : List (κ × α)} :
    (set key value entries).lookup key = some value := by
  induction entries with
  | nil => simp [set]
  | cons entry rest ih =>
    obtain ⟨k, old⟩ := entry
    rw [set]
    split
    · rename_i h
      have h' := eq_of_beq h
      subst h'
      simp
    · rename_i h
      have h' : (key == k) = false := by
        rw [beq_eq_false_iff_ne]
        rintro rfl
        simp at h
      rw [List.lookup_cons, h', ih]

/-- The other keys keep their values. -/
theorem lookup_set_of_ne [LawfulBEq κ] {key other : κ} {value : α} {entries : List (κ × α)}
    (h : other ≠ key) : (set key value entries).lookup other = entries.lookup other := by
  have hne : (other == key) = false := beq_eq_false_iff_ne.2 h
  induction entries with
  | nil => simp [set, List.lookup_cons, hne]
  | cons entry rest ih =>
    obtain ⟨k, old⟩ := entry
    rw [set]
    split
    · rename_i hk
      have hk' := eq_of_beq hk
      subst hk'
      simp [List.lookup_cons, hne]
    · rw [List.lookup_cons, List.lookup_cons, ih]

end ProtocolBindings.Entries
