import Mathlib.Data.List.Infix
import ProtocolBindings.Text.Lines

/-!
# The lines of a text

Splitting a text into lines, one character at a time, and what the lines are made of.
-/

namespace ProtocolBindings.Text

variable {cs line : List Char} {c : Char}

/-- A character that does not end a line goes in front of the first line. -/
theorem splitLines_cons_of_not_isLineBreak (h : isLineBreak c = false) :
    splitLines (c :: cs) = ((c :: (splitLines cs).headD []) :: (splitLines cs).tail) := by
  rw [splitLines]
  · simp only [h, Bool.false_eq_true, if_false]
    cases splitLines cs with
    | nil => rfl
    | cons line lines => rfl
  · rintro rest rfl rfl
    exact absurd h (by decide)

/-- A character that ends a line leaves the lines behind it, of which the first may be the empty
one that it makes together with a line feed. -/
theorem splitLines_cons_of_isLineBreak (cs : List Char) (h : isLineBreak c) :
    ∃ lines, splitLines (c :: cs) = [] :: lines ∧
      (lines = splitLines cs ∨ splitLines cs = [] :: lines) := by
  by_cases hpair : c = '\r' ∧ cs.head? = some '\n'
  · obtain ⟨rfl, hhead⟩ := hpair
    cases cs with
    | nil => simp at hhead
    | cons d cs =>
      obtain rfl : d = '\n' := by simpa using hhead
      refine ⟨splitLines cs, by rw [splitLines], Or.inr ?_⟩
      rw [splitLines]
      · rfl
      · simp
  · refine ⟨splitLines cs, ?_, Or.inl rfl⟩
    rw [splitLines]
    · simp [h]
    · rintro rest rfl rfl
      simp at hpair

/-- The first line is the front of the text. -/
theorem headD_splitLines_prefix (cs : List Char) : (splitLines cs).headD [] <+: cs := by
  induction cs with
  | nil => simp [splitLines]
  | cons c cs ih =>
    cases h : isLineBreak c with
    | true =>
      obtain ⟨lines, hlines, -⟩ := splitLines_cons_of_isLineBreak cs h
      simp [hlines]
    | false =>
      rw [splitLines_cons_of_not_isLineBreak h]
      simpa using ih

/-- If the first line holds a character, it is one of the lines. -/
theorem headD_splitLines_mem (h : c ∈ (splitLines cs).headD []) :
    (splitLines cs).headD [] ∈ splitLines cs := by
  cases hs : splitLines cs with
  | nil => simp [hs] at h
  | cons first lines => simp

/-- No line holds a character at which lines end. -/
theorem not_isLineBreak_of_mem_splitLines (hline : line ∈ splitLines cs) (hc : c ∈ line) :
    isLineBreak c = false := by
  induction cs generalizing line with
  | nil => simp [splitLines] at hline
  | cons d cs ih =>
    cases h : isLineBreak d with
    | true =>
      obtain ⟨lines, hlines, heq⟩ := splitLines_cons_of_isLineBreak cs h
      rw [hlines, List.mem_cons] at hline
      rcases hline with rfl | hline
      · simp at hc
      · rcases heq with rfl | heq
        · exact ih hline hc
        · exact ih (heq ▸ List.mem_cons_of_mem _ hline) hc
    | false =>
      rw [splitLines_cons_of_not_isLineBreak h, List.mem_cons] at hline
      rcases hline with rfl | hline
      · rcases List.mem_cons.1 hc with rfl | hc
        · exact h
        · exact ih (headD_splitLines_mem hc) hc
      · exact ih (List.mem_of_mem_tail hline) hc

/-- A character of joined texts is one of the separator or of a text. -/
theorem mem_or_exists_mem_of_mem_intercalate {separator : List Char} {texts : List (List Char)}
    (h : c ∈ separator.intercalate texts) : c ∈ separator ∨ ∃ text ∈ texts, c ∈ text := by
  induction texts with
  | nil => simp at h
  | cons first others ih =>
    cases others with
    | nil =>
      rw [List.intercalate_singleton] at h
      exact Or.inr ⟨first, List.mem_cons_self, h⟩
    | cons second others =>
      rw [List.intercalate_cons_cons, List.mem_append, List.mem_append] at h
      rcases h with (h | h) | h
      · exact Or.inr ⟨first, List.mem_cons_self, h⟩
      · exact Or.inl h
      · rcases ih h with hseparator | ⟨text, htext, hc⟩
        · exact Or.inl hseparator
        · exact Or.inr ⟨text, List.mem_cons_of_mem _ htext, hc⟩

theorem notMem_intercalate {separator : List Char} {texts : List (List Char)}
    (hseparator : c ∉ separator) (h : ∀ text ∈ texts, c ∉ text) :
    c ∉ separator.intercalate texts := by
  intro hmem
  rcases mem_or_exists_mem_of_mem_intercalate hmem with hmem | ⟨text, htext, hmem⟩
  · exact hseparator hmem
  · exact h text htext hmem

/-- Nothing is changed in a text without carriage returns. -/
theorem unifyNewlines_of_notMem (h : '\r' ∉ cs) :
    unifyNewlines cs = cs := by
  have hfold : ∀ (cs done : List Char), '\r' ∉ cs →
      (cs.foldl unifyStep (done, false)).1 = cs.reverse ++ done := by
    intro cs
    induction cs with
    | nil => simp
    | cons c cs ih =>
      intro done hcs
      rw [List.mem_cons, not_or] at hcs
      have hstep : unifyStep (done, false) c = (c :: done, false) := by
        simp [unifyStep, Ne.symm hcs.1]
      rw [List.foldl_cons, hstep, ih (c :: done) hcs.2]
      simp
  rw [unifyNewlines, hfold cs [] h]
  simp

/-! ## Texts of several lines -/

/-- Line boundaries are white space. -/
theorem not_isLineBreak_of_not_isBlank (h : isBlank c = false) : isLineBreak c = false := by
  rw [Bool.eq_false_iff] at h ⊢
  refine fun hbreak => h ?_
  simp only [isLineBreak, isBlank, Bool.or_eq_true, Bool.and_eq_true, decide_eq_true_eq,
    beq_iff_eq] at hbreak ⊢
  omega

/-- Whether a text ends with a character of its last line, and so not with a boundary. -/
def EndsInLine (cs : List Char) : Prop :=
  ∃ c, cs.getLast? = some c ∧ isLineBreak c = false

theorem not_endsInLine_nil : ¬EndsInLine [] := by
  rintro ⟨c, hc, -⟩
  cases hc

theorem EndsInLine.ne_nil (h : EndsInLine cs) : cs ≠ [] := by
  rintro rfl
  exact not_endsInLine_nil h

theorem EndsInLine.getLast?_cons (h : EndsInLine cs) (c : Char) :
    (c :: cs).getLast? = cs.getLast? :=
  List.getLast?_cons_of_ne_nil h.ne_nil

theorem endsInLine_cons_cons {d : Char} : EndsInLine (c :: d :: cs) ↔ EndsInLine (d :: cs) := by
  rw [EndsInLine, EndsInLine, List.getLast?_cons_cons]

/-- Behind a boundary there is more of a text that does not end with one. -/
theorem EndsInLine.of_isLineBreak (h : EndsInLine (c :: cs)) (hc : isLineBreak c) :
    EndsInLine cs := by
  cases cs with
  | nil =>
    obtain ⟨d, hd, hbreak⟩ := h
    rw [List.getLast?_singleton, Option.some.injEq] at hd
    rw [← hd, hc] at hbreak
    cases hbreak
  | cons d rest => exact endsInLine_cons_cons.1 h

theorem EndsInLine.append_left (h : EndsInLine cs) (front : List Char) :
    EndsInLine (front ++ cs) := by
  have hne := h.ne_nil
  obtain ⟨c, hc, hbreak⟩ := h
  exact ⟨c, by rw [List.getLast?_append_of_ne_nil _ hne, hc], hbreak⟩

theorem endsInLine_of_forall (hne : cs ≠ []) (h : ∀ c ∈ cs, isLineBreak c = false) :
    EndsInLine cs :=
  ⟨cs.getLast hne, List.getLast?_eq_some_getLast hne, h _ (List.getLast_mem hne)⟩

theorem endsInLine_intercalate {separator : List Char} {texts : List (List Char)}
    (hne : texts ≠ []) (h : ∀ text ∈ texts, EndsInLine text) :
    EndsInLine (separator.intercalate texts) := by
  induction texts with
  | nil => exact absurd rfl hne
  | cons first rest ih =>
    rw [List.forall_mem_cons] at h
    cases rest with
    | nil =>
      rw [List.intercalate_singleton]
      exact h.1
    | cons second rest =>
      rw [List.intercalate_cons_cons]
      exact (ih (List.cons_ne_nil _ _) h.2).append_left _

theorem splitLines_ne_nil (h : cs ≠ []) : splitLines cs ≠ [] := by
  cases cs with
  | nil => exact absurd rfl h
  | cons c rest =>
    cases hc : isLineBreak c with
    | true =>
      obtain ⟨lines, hlines, -⟩ := splitLines_cons_of_isLineBreak rest hc
      rw [hlines]
      exact List.cons_ne_nil _ _
    | false =>
      rw [splitLines_cons_of_not_isLineBreak hc]
      exact List.cons_ne_nil _ _

theorem eq_nil_of_splitLines_eq_nil (h : splitLines cs = []) : cs = [] := by
  by_contra hne
  exact splitLines_ne_nil hne h

/-- What has a line behind the first character ends in that line with the whole text. -/
theorem EndsInLine.of_splitLines_eq_cons {lines : List (List Char)} (h : EndsInLine (c :: cs))
    (hlines : splitLines cs = line :: lines) : EndsInLine cs := by
  cases cs with
  | nil => cases hlines
  | cons d rest => exact endsInLine_cons_cons.1 h

/-- A text without boundaries is one line. -/
theorem splitLines_eq_singleton (hne : cs ≠ []) (h : ∀ c ∈ cs, isLineBreak c = false) :
    splitLines cs = [cs] := by
  induction cs with
  | nil => exact absurd rfl hne
  | cons c rest ih =>
    rw [List.forall_mem_cons] at h
    rw [splitLines_cons_of_not_isLineBreak h.1]
    cases rest with
    | nil => rfl
    | cons d rest =>
      rw [ih (List.cons_ne_nil _ _) h.2]
      rfl

theorem splitLines_lineFeed (cs : List Char) : splitLines ('\n' :: cs) = [] :: splitLines cs := by
  rw [splitLines, if_pos (by decide)]
  rintro rest heq
  exact absurd heq (by decide)

/-- A line feed behind a line divides the text into two with lines of their own. -/
theorem splitLines_append_lineFeed {front : List Char} (h : EndsInLine front)
    (back : List Char) :
    splitLines (front ++ '\n' :: back) = splitLines front ++ splitLines back := by
  -- A carriage return takes the line feed behind it along, so the induction is on the lines.
  fun_induction splitLines front with
  | case1 => exact absurd h not_endsInLine_nil
  | case2 rest ih =>
    have hrest := (h.of_isLineBreak (by decide)).of_isLineBreak (by decide)
    rw [List.cons_append, List.cons_append, splitLines, ih hrest]
    rfl
  | case3 c rest hpair hc ih =>
    have hrest := h.of_isLineBreak hc
    rw [List.cons_append, splitLines, if_pos hc, ih hrest]
    · rfl
    · rintro others rfl heq
      cases rest with
      | nil => exact not_endsInLine_nil hrest
      | cons d rest => exact hpair rest rfl (by rw [(List.cons.inj heq).1])
  | case4 c rest hpair hc hlines ih =>
    have hnil := eq_nil_of_splitLines_eq_nil hlines
    have hc' : isLineBreak c = false := by simpa using hc
    rw [hnil, List.singleton_append, splitLines_cons_of_not_isLineBreak hc', splitLines_lineFeed]
    rfl
  | case5 c rest hpair hc line lines hlines ih =>
    have hc' : isLineBreak c = false := by simpa using hc
    have hrest := h.of_splitLines_eq_cons hlines
    rw [List.cons_append, splitLines_cons_of_not_isLineBreak hc', ih hrest, hlines]
    rfl

/-- The lines behind a line feed are lines of the whole text, whatever is in front of it. -/
theorem exists_splitLines_append_lineFeed (front back : List Char) :
    ∃ first lines, splitLines (front ++ '\n' :: back) = first :: (lines ++ splitLines back) := by
  induction front with
  | nil => exact ⟨[], [], splitLines_lineFeed back⟩
  | cons c front ih =>
    obtain ⟨first, lines, hlines⟩ := ih
    rw [List.cons_append]
    cases hc : isLineBreak c with
    | true =>
      obtain ⟨others, hothers, heq⟩ := splitLines_cons_of_isLineBreak (front ++ '\n' :: back) hc
      rcases heq with rfl | heq
      · exact ⟨[], first :: lines, by rw [hothers, hlines, List.cons_append]⟩
      · exact ⟨first, lines, by rw [hothers, ← heq, hlines]⟩
    | false =>
      exact ⟨c :: first, lines, by rw [splitLines_cons_of_not_isLineBreak hc, hlines]; rfl⟩

/-- Texts that end in a line and are joined by line feeds have their own lines. -/
theorem splitLines_joinLines {texts : List (List Char)} (h : ∀ text ∈ texts, EndsInLine text) :
    splitLines (joinLines texts) = texts.flatMap splitLines := by
  induction texts with
  | nil => rfl
  | cons first rest ih =>
    rw [List.forall_mem_cons] at h
    cases rest with
    | nil => simp [joinLines]
    | cons second rest =>
      rw [joinLines, List.intercalate_cons_cons, List.append_assoc, List.singleton_append,
        splitLines_append_lineFeed h.1, List.flatMap_cons, ← ih h.2]
      rfl

theorem EndsInLine.length_splitLines_pos (h : EndsInLine cs) : 0 < (splitLines cs).length :=
  List.length_pos_iff.2 (splitLines_ne_nil h.ne_nil)

/-- A text that does not end with a boundary has one line only if no boundary is in it. -/
theorem length_splitLines_eq_one_iff (h : EndsInLine cs) :
    (splitLines cs).length = 1 ↔ ∀ c ∈ cs, isLineBreak c = false := by
  fun_induction splitLines cs with
  | case1 => exact absurd h not_endsInLine_nil
  | case2 rest ih =>
    have hrest := (h.of_isLineBreak (by decide)).of_isLineBreak (by decide)
    have hreturn : isLineBreak '\r' = true := rfl
    simpa [hreturn] using hrest.length_splitLines_pos.ne'
  | case3 c rest hpair hc ih =>
    simpa [hc] using (h.of_isLineBreak hc).length_splitLines_pos.ne'
  | case4 c rest hpair hc hlines ih =>
    have hnil := eq_nil_of_splitLines_eq_nil hlines
    simpa [hnil] using hc
  | case5 c rest hpair hc line lines hlines ih =>
    have hrest := h.of_splitLines_eq_cons hlines
    have hone := ih hrest
    rw [hlines] at hone
    rw [List.forall_mem_cons]
    exact ⟨fun hlength => ⟨by simpa using hc, hone.1 hlength⟩, fun hall => hone.2 hall.2⟩

/-- Texts have as many lines as there are texts only if no boundary is in any of them. -/
theorem length_flatMap_splitLines_eq_iff {texts : List (List Char)}
    (h : ∀ text ∈ texts, EndsInLine text) :
    (texts.flatMap splitLines).length = texts.length ↔
      ∀ text ∈ texts, ∀ c ∈ text, isLineBreak c = false := by
  have hle : ∀ {texts : List (List Char)}, (∀ text ∈ texts, EndsInLine text) →
      texts.length ≤ (texts.flatMap splitLines).length := by
    intro texts h
    induction texts with
    | nil => exact Nat.zero_le _
    | cons first rest ih =>
      rw [List.forall_mem_cons] at h
      have hfirst := h.1.length_splitLines_pos
      have hrest := ih h.2
      rw [List.flatMap_cons, List.length_append, List.length_cons]
      omega
  induction texts with
  | nil => simp
  | cons first rest ih =>
    rw [List.forall_mem_cons] at h
    have hfirst := h.1.length_splitLines_pos
    have hrest := hle h.2
    rw [List.forall_mem_cons, ← length_splitLines_eq_one_iff h.1, List.flatMap_cons,
      List.length_append, List.length_cons]
    refine Iff.trans ?_ (and_congr_right fun _ => ih h.2)
    omega

/-! ## Joined lines -/

theorem head?_joinLines {lines : List (List Char)} (h : lines.head? = some line)
    (hne : line ≠ []) : (joinLines lines).head? = line.head? := by
  obtain ⟨rest, rfl⟩ := List.head?_eq_some_iff.1 h
  cases rest with
  | nil => rw [joinLines, List.intercalate_singleton]
  | cons second rest =>
    rw [joinLines, List.intercalate_cons_cons, List.append_assoc, List.head?_append_of_ne_nil _ hne]

theorem getLast?_joinLines {lines : List (List Char)} (h : lines.getLast? = some line)
    (hne : line ≠ []) : (joinLines lines).getLast? = line.getLast? := by
  induction lines with
  | nil => cases h
  | cons first rest ih =>
    cases rest with
    | nil =>
      obtain rfl : first = line := by simpa using h
      rw [joinLines, List.intercalate_singleton]
    | cons second rest =>
      rw [List.getLast?_cons_cons] at h
      have hrest := ih h
      rw [joinLines] at hrest
      have hjoined : ['\n'].intercalate (second :: rest) ≠ [] := by
        intro hnil
        rw [hnil, List.getLast?_nil, eq_comm, List.getLast?_eq_none_iff] at hrest
        exact hne hrest
      rw [joinLines, List.intercalate_cons_cons, List.getLast?_append_of_ne_nil _ hjoined]
      exact hrest

/-- A line feed behind a line without boundaries ends it. -/
theorem splitLines_line_append (h : ∀ c ∈ line, isLineBreak c = false) (back : List Char) :
    splitLines (line ++ '\n' :: back) = line :: splitLines back := by
  induction line with
  | nil => exact splitLines_lineFeed back
  | cons c line ih =>
    rw [List.forall_mem_cons] at h
    rw [List.cons_append, splitLines_cons_of_not_isLineBreak h.1, ih h.2]
    rfl

/-- Lines are the lines of what they are joined to, if the last one is not empty. -/
theorem splitLines_joinLines_of_lines {lines : List (List Char)}
    (h : ∀ line ∈ lines, ∀ c ∈ line, isLineBreak c = false) (hlast : lines.getLast? ≠ some []) :
    splitLines (joinLines lines) = lines := by
  induction lines with
  | nil => rfl
  | cons first rest ih =>
    rw [List.forall_mem_cons] at h
    cases rest with
    | nil =>
      rw [joinLines, List.intercalate_singleton]
      exact splitLines_eq_singleton (by simpa using hlast) h.1
    | cons second rest =>
      rw [List.getLast?_cons_cons] at hlast
      rw [joinLines, List.intercalate_cons_cons, List.append_assoc, List.singleton_append,
        splitLines_line_append h.1]
      exact congrArg (first :: ·) (ih h.2 hlast)

/-- A text that has line feeds only, and does not end with one, is what its lines are joined to. -/
theorem joinLines_splitLines (h : ∀ c ∈ cs, isLineBreak c = true → c = '\n')
    (hend : ∀ c, cs.getLast? = some c → isLineBreak c = false) :
    joinLines (splitLines cs) = cs := by
  fun_induction splitLines cs with
  | case1 => rfl
  | case2 rest ih => exact absurd (h '\r' List.mem_cons_self rfl) (by decide)
  | case3 c rest hpair hc ih =>
    rw [List.forall_mem_cons] at h
    obtain rfl := h.1 hc
    cases rest with
    | nil => exact absurd (hend '\n' rfl) (by decide)
    | cons d rest =>
      obtain ⟨line, lines, hlines⟩ :=
        List.exists_cons_of_ne_nil (splitLines_ne_nil (List.cons_ne_nil d rest))
      have hrest := ih h.2 (by simpa only [List.getLast?_cons_cons] using hend)
      rw [hlines] at hrest ⊢
      rw [joinLines, List.intercalate_cons_cons, List.nil_append, List.singleton_append]
      exact congrArg ('\n' :: ·) hrest
  | case4 c rest hpair hc hlines ih =>
    have hnil := eq_nil_of_splitLines_eq_nil hlines
    rw [hnil]
    rfl
  | case5 c rest hpair hc line lines hlines ih =>
    rw [List.forall_mem_cons] at h
    have hrest : joinLines (line :: lines) = rest := by
      rw [← hlines]
      apply ih h.2
      cases rest with
      | nil => cases hlines
      | cons d rest => simpa only [List.getLast?_cons_cons] using hend
    rw [← hrest]
    cases lines <;> rfl

/-- The first line begins with the first character of the text, unless that is a boundary. -/
theorem exists_head?_splitLines (h : cs.head? = some c) (hc : isLineBreak c = false) :
    ∃ line, (splitLines cs).head? = some line ∧ line.head? = some c := by
  obtain ⟨rest, rfl⟩ := List.head?_eq_some_iff.1 h
  exact ⟨_, by rw [splitLines_cons_of_not_isLineBreak hc]; rfl, rfl⟩

/-- The last line ends with the last character of the text, unless that is a boundary. -/
theorem EndsInLine.exists_getLast?_splitLines (h : EndsInLine cs) :
    ∃ line, (splitLines cs).getLast? = some line ∧ line.getLast? = cs.getLast? := by
  fun_induction splitLines cs with
  | case1 => exact absurd h not_endsInLine_nil
  | case2 rest ih =>
    have hrest := (h.of_isLineBreak (by decide)).of_isLineBreak (by decide)
    obtain ⟨line, hline, hlast⟩ := ih hrest
    refine ⟨line, ?_, ?_⟩
    · rw [List.getLast?_cons_of_ne_nil (splitLines_ne_nil hrest.ne_nil), hline]
    · rw [hlast, List.getLast?_cons_cons, hrest.getLast?_cons]
  | case3 c rest hpair hc ih =>
    have hrest := h.of_isLineBreak hc
    obtain ⟨line, hline, hlast⟩ := ih hrest
    refine ⟨line, ?_, ?_⟩
    · rw [List.getLast?_cons_of_ne_nil (splitLines_ne_nil hrest.ne_nil), hline]
    · rw [hlast, hrest.getLast?_cons]
  | case4 c rest hpair hc hlines ih =>
    have hnil := eq_nil_of_splitLines_eq_nil hlines
    exact ⟨[c], rfl, by rw [hnil]⟩
  | case5 c rest hpair hc line lines hlines ih =>
    have hrest : rest ≠ [] := by
      rintro rfl
      cases hlines
    obtain ⟨d, others, rfl⟩ := List.exists_cons_of_ne_nil hrest
    obtain ⟨last, hlast, hend⟩ := ih (endsInLine_cons_cons.1 h)
    rw [hlines] at hlast
    cases lines with
    | nil =>
      obtain rfl : line = last := by simpa using hlast
      refine ⟨c :: line, rfl, ?_⟩
      rw [List.getLast?_cons_cons, ← hend]
      cases line with
      | nil =>
        rw [List.getLast?_nil, List.getLast?_cons] at hend
        cases hend
      | cons e line => rw [List.getLast?_cons_cons]
    | cons second lines =>
      refine ⟨last, ?_, by rw [List.getLast?_cons_cons, hend]⟩
      rw [List.getLast?_cons_cons] at hlast ⊢
      exact hlast

end ProtocolBindings.Text
