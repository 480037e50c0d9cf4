/-!
# Ascending lists of texts

Sets of texts are held as lists in ascending order of their characters, without repetition.
-/

namespace ProtocolBindings.Ascending

/-- Inserts a text at its place, unless it is there already. -/
def insert (text : String) : List String → List String
  | [] => [text]
  | head :: rest =>
    if text < head then text :: head :: rest
    else if text == head then head :: rest
    else head :: insert text rest

def ofList (texts : List String) : List String :=
  texts.foldr insert []

theorem mem_insert {text x : String} {texts : List String} :
    x ∈ insert text texts ↔ x = text ∨ x ∈ texts := by
  induction texts with
  | nil => simp [insert]
  | cons head rest ih =>
    rw [insert]
    split
    · simp
    · split
      · rename_i h
        have h' := eq_of_beq h
        subst h'
        simp
      · simp only [List.mem_cons, ih]
        constructor
        · rintro (h | h | h) <;> simp [h]
        · rintro (h | h | h) <;> simp [h]

/-- The list holds the same texts. -/
theorem mem_ofList {x : String} {texts : List String} : x ∈ ofList texts ↔ x ∈ texts := by
  induction texts with
  | nil => simp [ofList]
  | cons head rest ih =>
    have h : ofList (head :: rest) = insert head (ofList rest) := rfl
    rw [h, mem_insert, ih, List.mem_cons]

/-- Inserting a text keeps the order. -/
theorem pairwise_insert {text : String} {texts : List String} (h : texts.Pairwise (· < ·)) :
    (insert text texts).Pairwise (· < ·) := by
  induction texts with
  | nil => simp [insert]
  | cons head rest ih =>
    rw [List.pairwise_cons] at h
    rw [insert]
    split
    · rename_i hlt
      refine List.pairwise_cons.2 ⟨?_, List.pairwise_cons.2 h⟩
      intro x hx
      rcases List.mem_cons.1 hx with rfl | hx
      · exact hlt
      · exact String.lt_trans hlt (h.1 x hx)
    · split
      · exact List.pairwise_cons.2 h
      · rename_i hlt hne
        refine List.pairwise_cons.2 ⟨?_, ih h.2⟩
        intro x hx
        rcases mem_insert.1 hx with rfl | hx
        · by_cases hgt : head < x
          · exact hgt
          · have heq : x = head := String.le_antisymm (String.not_lt.1 hgt) (String.not_lt.1 hlt)
            simp [heq] at hne
        · exact h.1 x hx

/-- The texts of a list come in ascending order, each once. -/
theorem pairwise_ofList (texts : List String) : (ofList texts).Pairwise (· < ·) := by
  induction texts with
  | nil => simp [ofList]
  | cons head rest ih => exact pairwise_insert ih

end ProtocolBindings.Ascending
