import Mathlib.Data.List.Basic
import ProtocolBindings.Text.Blank

/-!
# The pieces of a text

Every character of a text separates two pieces or stands in one.
-/

namespace ProtocolBindings.Text

theorem mem_pieces {p : Char → Bool} {cs : List Char} {c : Char} (h : c ∈ cs) (hp : p c = false) :
    ∃ piece ∈ pieces p cs, c ∈ piece := by
  induction cs with
  | nil => simp at h
  | cons d rest ih =>
    rw [pieces]
    split
    · rename_i hd
      rcases List.mem_cons.1 h with rfl | h
      · simp [hp] at hd
      · obtain ⟨piece, hpiece, hc⟩ := ih h
        exact ⟨piece, List.mem_cons_of_mem _ hpiece, hc⟩
    · split
      · rename_i hpieces
        rcases List.mem_cons.1 h with rfl | h
        · exact ⟨[c], by simp, by simp⟩
        · obtain ⟨piece, hpiece, -⟩ := ih h
          simp [hpieces] at hpiece
      · rename_i first others hpieces
        rcases List.mem_cons.1 h with rfl | h
        · exact ⟨c :: first, by simp, by simp⟩
        · obtain ⟨piece, hpiece, hc⟩ := ih h
          rw [hpieces] at hpiece
          rcases List.mem_cons.1 hpiece with rfl | hpiece
          · exact ⟨d :: piece, by simp, List.mem_cons_of_mem _ hc⟩
          · exact ⟨piece, List.mem_cons_of_mem _ hpiece, hc⟩

/-- A text without separators is one piece. -/
theorem pieces_of_forall_not {p : Char → Bool} {cs : List Char} (h : ∀ c ∈ cs, p c = false) :
    pieces p cs = [cs] := by
  induction cs with
  | nil => rfl
  | cons c rest ih =>
    rw [List.forall_mem_cons] at h
    rw [pieces, h.1, ih h.2]
    rfl

/-- What stands in front of the first separator, and what stands behind it, are determined by the
text. -/
theorem append_cons_inj {c : Char} {front front' back back' : List Char} (h : c ∉ front)
    (h' : c ∉ front') (heq : front ++ c :: back = front' ++ c :: back') :
    front = front' ∧ back = back' := by
  induction front generalizing front' with
  | nil =>
    cases front' with
    | nil => exact ⟨rfl, (List.cons.inj heq).2⟩
    | cons first front' =>
      rw [(List.cons.inj heq).1] at h'
      exact absurd List.mem_cons_self h'
  | cons first front ih =>
    rw [List.mem_cons, not_or] at h
    cases front' with
    | nil => exact absurd (List.cons.inj heq).1.symm h.1
    | cons first' front' =>
      rw [List.mem_cons, not_or] at h'
      obtain ⟨rfl, hrest⟩ := List.cons.inj heq
      obtain ⟨rfl, rfl⟩ := ih h.2 h'.2 hrest
      exact ⟨rfl, rfl⟩

theorem pieces_ne_nil (p : Char → Bool) (cs : List Char) : pieces p cs ≠ [] := by
  cases cs with
  | nil => exact List.cons_ne_nil _ _
  | cons c rest =>
    rw [pieces]
    split
    · exact List.cons_ne_nil _ _
    · split <;> exact List.cons_ne_nil _ _

/-- A separator divides a text into two that are taken apart on their own. -/
theorem pieces_append_cons {p : Char → Bool} {c : Char} (hc : p c) (front back : List Char) :
    pieces p (front ++ c :: back) = pieces p front ++ pieces p back := by
  induction front with
  | nil => simp [pieces, hc]
  | cons first front ih =>
    obtain ⟨piece, others, hfront⟩ := List.exists_cons_of_ne_nil (pieces_ne_nil p front)
    rw [List.cons_append, pieces, ih, pieces, hfront]
    split <;> rfl

/-- A character that does not separate goes in front of the first piece. -/
theorem pieces_cons_of_not {p : Char → Bool} {c : Char} (h : p c = false) (cs : List Char) :
    pieces p (c :: cs) = (c :: (pieces p cs).headD []) :: (pieces p cs).tail := by
  obtain ⟨piece, others, hcs⟩ := List.exists_cons_of_ne_nil (pieces_ne_nil p cs)
  rw [pieces, h, hcs]
  rfl

/-- So does a text without separators. -/
theorem pieces_append_of_forall_not {p : Char → Bool} {front : List Char}
    (h : ∀ c ∈ front, p c = false) (back : List Char) :
    pieces p (front ++ back) = (front ++ (pieces p back).headD []) :: (pieces p back).tail := by
  induction front with
  | nil =>
    obtain ⟨piece, others, hback⟩ := List.exists_cons_of_ne_nil (pieces_ne_nil p back)
    rw [List.nil_append, List.nil_append, hback]
    rfl
  | cons c front ih =>
    rw [List.forall_mem_cons] at h
    rw [List.cons_append, pieces_cons_of_not h.1, ih h.2]
    rfl

/-- All pieces of a text but the first remain when something is put in front of it. -/
theorem mem_tail_pieces_append {p : Char → Bool} {back piece : List Char}
    (h : piece ∈ (pieces p back).tail) (front : List Char) :
    piece ∈ (pieces p (front ++ back)).tail := by
  induction front with
  | nil => exact h
  | cons c front ih =>
    rw [List.cons_append]
    cases hc : p c with
    | true =>
      rw [pieces, hc, if_pos rfl]
      exact List.mem_of_mem_tail ih
    | false =>
      rw [pieces_cons_of_not hc]
      exact ih

/-- What stands in a piece stands in the text and is no separator. -/
theorem mem_and_not_of_mem_pieces {p : Char → Bool} {cs piece : List Char} {c : Char}
    (hpiece : piece ∈ pieces p cs) (hc : c ∈ piece) : c ∈ cs ∧ p c = false := by
  induction cs generalizing piece with
  | nil =>
    rw [pieces, List.mem_singleton] at hpiece
    rw [hpiece] at hc
    cases hc
  | cons d rest ih =>
    cases hd : p d with
    | true =>
      rw [pieces, hd, if_pos rfl, List.mem_cons] at hpiece
      rcases hpiece with rfl | hpiece
      · cases hc
      · exact (ih hpiece hc).imp_left (List.mem_cons_of_mem _)
    | false =>
      obtain ⟨first, others, hrest⟩ := List.exists_cons_of_ne_nil (pieces_ne_nil p rest)
      rw [pieces_cons_of_not hd, hrest, List.mem_cons] at hpiece
      rw [hrest] at ih
      rcases hpiece with rfl | hpiece
      · rcases List.mem_cons.1 hc with rfl | hc
        · exact ⟨List.mem_cons_self, hd⟩
        · exact (ih List.mem_cons_self hc).imp_left (List.mem_cons_of_mem _)
      · exact (ih (List.mem_cons_of_mem _ hpiece) hc).imp_left (List.mem_cons_of_mem _)

theorem mem_of_mem_pieces {p : Char → Bool} {cs piece : List Char} {c : Char}
    (hpiece : piece ∈ pieces p cs) (hc : c ∈ piece) : c ∈ cs :=
  (mem_and_not_of_mem_pieces hpiece hc).1

/-- Texts without a separator are the pieces of what they are joined to by it. -/
theorem pieces_intercalate {separator : Char} {texts : List (List Char)} (hne : texts ≠ [])
    (h : ∀ text ∈ texts, separator ∉ text) :
    pieces (· == separator) ([separator].intercalate texts) = texts := by
  have hnone : ∀ {text : List Char}, separator ∉ text → ∀ c ∈ text, (c == separator) = false := by
    intro text htext c hc
    exact beq_eq_false_iff_ne.2 (ne_of_mem_of_not_mem hc htext)
  induction texts with
  | nil => exact absurd rfl hne
  | cons first rest ih =>
    rw [List.forall_mem_cons] at h
    cases rest with
    | nil => rw [List.intercalate_singleton, pieces_of_forall_not (hnone h.1)]
    | cons second rest =>
      rw [List.intercalate_cons_cons, List.append_assoc, List.singleton_append,
        pieces_append_cons (p := (· == separator)) (by simp), pieces_of_forall_not (hnone h.1),
        ih (List.cons_ne_nil _ _) h.2]
      rfl

/-! ## Words -/

/-- Whether a text is a word: it holds a character, and no white space. -/
def IsWord (cs : List Char) : Prop :=
  cs ≠ [] ∧ ∀ c ∈ cs, isBlank c = false

theorem isWord_of_mem_words {cs word : List Char} (h : word ∈ words cs) : IsWord word := by
  obtain ⟨hpiece, hne⟩ := List.mem_filter.1 h
  exact ⟨by simpa using hne, fun c hc => (mem_and_not_of_mem_pieces hpiece hc).2⟩

/-- White space divides a text into two with words of their own. -/
theorem words_append_cons {c : Char} (hc : isBlank c) (front back : List Char) :
    words (front ++ c :: back) = words front ++ words back := by
  rw [words, pieces_append_cons hc, List.filter_append]
  rfl

theorem IsWord.words_eq {word : List Char} (h : IsWord word) : words word = [word] := by
  rw [words, pieces_of_forall_not h.2]
  simpa using h.1

/-- Words are the words of what they are joined to by blanks. -/
theorem words_intercalate {texts : List (List Char)} (h : ∀ text ∈ texts, IsWord text) :
    words ([' '].intercalate texts) = texts := by
  induction texts with
  | nil => rfl
  | cons first rest ih =>
    rw [List.forall_mem_cons] at h
    cases rest with
    | nil => rw [List.intercalate_singleton, h.1.words_eq]
    | cons second rest =>
      rw [List.intercalate_cons_cons, List.append_assoc, List.singleton_append,
        words_append_cons (by decide), h.1.words_eq, ih h.2]
      rfl

end ProtocolBindings.Text
