import Mathlib.Data.List.Basic
import ProtocolBindings.Console.Layout
import ProtocolBindings.Proofs.Console.Cell
import ProtocolBindings.Proofs.Text.Blank
import ProtocolBindings.Proofs.Text.Trim

/-!
# What stands in the lines of a console

Dividing a text into lines adds nothing but blanks to it.  So a text is shown as it is exactly if
each of its own lines fits: none of them is divided, filled up or cut off.
-/

namespace ProtocolBindings.Layout

variable {q : Char → Bool} {width column used n : Nat} {cs line taken : List Char}

/-! ## Lines are divided -/

theorem flatten_pieces_sublist (p : Char → Bool) (cs : List Char) :
    (Text.pieces p cs).flatten.Sublist cs := by
  induction cs with
  | nil => exact List.Sublist.refl _
  | cons c rest ih =>
    rw [Text.pieces]
    split
    · exact ih.cons c
    · cases hpieces : Text.pieces p rest with
      | nil => exact absurd hpieces (Text.pieces_ne_nil p rest)
      | cons piece others =>
        rw [hpieces] at ih
        exact ih.cons_cons c

/-- Filling up tabulators adds blanks only. -/
theorem countP_fillTabs (hq : q ' ' = false) (column : Nat) (parts : List (List Char)) :
    (fillTabs column parts).countP q = parts.flatten.countP q := by
  fun_induction fillTabs column parts with
  | case1 => rfl
  | case2 column last => simp
  | case3 column part rest _ column' missing ih =>
    simp [List.countP_replicate, hq, ih]

theorem countP_expandTabs_le (hq : q ' ' = false) (line : List Char) :
    (expandTabs line).countP q ≤ line.countP q := by
  rw [expandTabs, countP_fillTabs hq]
  exact (flatten_pieces_sublist _ line).countP_le

theorem countP_tab_expandTabs (line : List Char) : (expandTabs line).countP (· == '\t') = 0 := by
  rw [expandTabs, countP_fillTabs (by decide), List.countP_eq_zero]
  intro c hc
  obtain ⟨piece, hpiece, hc⟩ := List.mem_flatten.1 hc
  rw [(Text.mem_and_not_of_mem_pieces hpiece hc).2]
  exact Bool.false_ne_true

theorem expandTabs_of_notMem (h : '\t' ∉ line) : expandTabs line = line := by
  have hpieces : Text.pieces (· == '\t') line = [line] :=
    Text.pieces_of_forall_not fun c hc => beq_eq_false_iff_ne.2 (ne_of_mem_of_not_mem hc h)
  rw [expandTabs, hpieces, fillTabs]

theorem drop_length_takeWhile (p : Char → Bool) (cs : List Char) :
    cs.drop (cs.takeWhile p).length = cs.dropWhile p := by
  have heq : cs.takeWhile p ++ cs.drop (cs.takeWhile p).length =
      cs.takeWhile p ++ cs.dropWhile p := by
    rw [List.prefix_iff_eq_append.1 (List.takeWhile_prefix p), List.takeWhile_append_dropWhile]
  exact List.append_cancel_left heq

theorem wordsWithin_of_forall_isBlank (h : ∀ c ∈ cs, Text.isBlank c = true) (n : Nat) :
    wordsWithin n cs = [] := by
  cases n with
  | zero => rfl
  | succ n =>
    have hnone : cs.dropWhile Text.isBlank = [] := List.dropWhile_eq_nil_iff.2 h
    simp only [wordsWithin, drop_length_takeWhile, hnone, List.takeWhile_nil, List.isEmpty_nil,
      if_true]

/-- A text that is not blank begins with a word.  If anything is left behind it, the word ends in a
blank, and what is left does not begin with one. -/
theorem exists_wordsWithin_succ (h : ∃ c ∈ cs, Text.isBlank c = false) (n : Nat) :
    ∃ word rest, cs = word ++ rest ∧ word ≠ [] ∧
      (∀ c, rest.head? = some c → Text.isBlank c = false ∧
        ∃ last, word.getLast? = some last ∧ Text.isBlank last = true) ∧
          wordsWithin (n + 1) cs = word :: wordsWithin n rest := by
  have hhead {cs : List Char} {c : Char} (hc : (cs.dropWhile Text.isBlank).head? = some c) :
      Text.isBlank c = false := by
    have hnot := List.head?_dropWhile_not Text.isBlank cs
    rwa [hc] at hnot
  obtain ⟨d, ds, hd⟩ : ∃ d ds, cs.dropWhile Text.isBlank = d :: ds := by
    refine List.exists_cons_of_ne_nil fun hnil => ?_
    obtain ⟨c, hc, hblank⟩ := h
    rw [List.dropWhile_eq_nil_iff.1 hnil c hc] at hblank
    cases hblank
  have hblank : Text.isBlank d = false := hhead (by rw [hd, List.head?_cons])
  have hbody : ((d :: ds).takeWhile (!Text.isBlank ·)).isEmpty = false := by
    rw [List.takeWhile_cons_of_pos (by rw [hblank]; rfl), List.isEmpty_cons]
  refine ⟨cs.takeWhile Text.isBlank ++ (d :: ds).takeWhile (!Text.isBlank ·) ++
    ((d :: ds).dropWhile (!Text.isBlank ·)).takeWhile Text.isBlank,
    ((d :: ds).dropWhile (!Text.isBlank ·)).dropWhile Text.isBlank, ?_, ?_, fun c hc => ?_, ?_⟩
  · rw [List.append_assoc, List.append_assoc, List.takeWhile_append_dropWhile,
      List.takeWhile_append_dropWhile, ← hd, List.takeWhile_append_dropWhile]
  · intro hnil
    rw [List.append_eq_nil_iff, List.append_eq_nil_iff] at hnil
    rw [hnil.1.2] at hbody
    cases hbody
  · refine ⟨hhead hc, ?_⟩
    have htrail : ((d :: ds).dropWhile (!Text.isBlank ·)).takeWhile Text.isBlank ≠ [] := by
      intro hnil
      have hbehind := List.takeWhile_append_dropWhile (p := Text.isBlank)
        (l := (d :: ds).dropWhile (!Text.isBlank ·))
      rw [hnil, List.nil_append] at hbehind
      have hnot := List.head?_dropWhile_not (!Text.isBlank ·) (d :: ds)
      rw [← hbehind, hc] at hnot
      simp only [hhead hc] at hnot
      cases hnot
    obtain ⟨last, hlast⟩ := Option.isSome_iff_exists.1 (List.getLast?_isSome.2 htrail)
    refine ⟨last, ?_, List.mem_takeWhile_imp (List.mem_of_getLast? hlast)⟩
    rw [List.getLast?_append, hlast, Option.some_or]
  · simp only [wordsWithin, drop_length_takeWhile, hd, hbody, Bool.false_eq_true, if_false]

theorem flatten_wordsWithin_isPrefix (n : Nat) (cs : List Char) :
    (wordsWithin n cs).flatten <+: cs := by
  induction n generalizing cs with
  | zero => exact List.nil_prefix
  | succ n ih =>
    by_cases h : ∃ c ∈ cs, Text.isBlank c = false
    · obtain ⟨word, rest, rfl, -, -, hwords⟩ := exists_wordsWithin_succ h n
      rw [hwords, List.flatten_cons]
      exact (List.prefix_append_right_inj word).2 (ih rest)
    · rw [wordsWithin_of_forall_isBlank (by simpa using h)]
      exact List.nil_prefix

/-- The words of a text that is not blank take all of it. -/
theorem flatten_wordsWithin (hn : cs.length < n) (h : ∃ c ∈ cs, Text.isBlank c = false) :
    (wordsWithin n cs).flatten = cs := by
  induction n generalizing cs with
  | zero => exact absurd hn (Nat.not_lt_zero _)
  | succ n ih =>
    obtain ⟨word, rest, rfl, hword, hrest, hwords⟩ := exists_wordsWithin_succ h n
    rw [hwords, List.flatten_cons, List.append_right_inj]
    cases rest with
    | nil => exact List.prefix_nil.1 (flatten_wordsWithin_isPrefix n [])
    | cons c rest =>
      have hpos := List.length_pos_iff.2 hword
      rw [List.length_append] at hn
      exact ih (by omega) ⟨c, List.mem_cons_self, (hrest c rfl).1⟩

theorem flatten_chop (clusters : List Cell.Cluster) :
    (chop width taken used clusters).flatten = taken ++ clusters.flatMap (·.chars) := by
  induction clusters generalizing taken used with
  | nil => simp [chop]
  | cons cluster rest ih =>
    rw [chop]
    split
    · simp [ih]
    · simp [ih]

namespace Wrapping

/-- What stands in the lines in the making. -/
def text (w : Wrapping) : List Char :=
  (w.line :: w.full).reverse.flatten

theorem text_begin (w : Wrapping) (cs : List Char) : (w.begin cs).text = w.text ++ cs := by
  rw [begin, text, text]
  split
  · rename_i hempty
    rw [Bool.and_eq_true, List.isEmpty_iff, List.isEmpty_iff] at hempty
    simp [hempty.1, hempty.2]
  · simp

theorem text_foldl_begin (pieces : List (List Char)) (w : Wrapping) :
    (pieces.foldl begin w).text = w.text ++ pieces.flatten := by
  induction pieces generalizing w with
  | nil => simp
  | cons piece rest ih => rw [List.foldl_cons, ih, text_begin, List.flatten_cons, List.append_assoc]

theorem text_add (width : Nat) (w : Wrapping) (word : List Char) :
    (w.add width word).text = w.text ++ word := by
  simp only [add]
  split
  · simp [text]
  · split
    · rw [text_foldl_begin, flatten_chop, List.nil_append, Cell.flatMap_clusters]
    · exact text_begin w word

theorem text_foldl_add (words : List (List Char)) (w : Wrapping) :
    (words.foldl (add width) w).text = w.text ++ words.flatten := by
  induction words generalizing w with
  | nil => simp
  | cons word rest ih => rw [List.foldl_cons, ih, text_add, List.flatten_cons, List.append_assoc]

end Wrapping

theorem flatten_wrap_isPrefix (width : Nat) (line : List Char) :
    (wrap width line).flatten <+: line := by
  rw [wrap]
  split
  · simp
  · change (List.foldl (Wrapping.add width) {} (words line)).text <+: line
    rw [Wrapping.text_foldl_add]
    exact flatten_wordsWithin_isPrefix _ line

/-! ## Lines are cut off -/

theorem trimExcess_isPrefix (width : Nat) (line : List Char) : trimExcess width line <+: line :=
  List.take_prefix _ _

theorem countP_fitting_le (hq : q ' ' = false) (width : Nat) (clusters : List Cell.Cluster) :
    (fitting width clusters).countP q ≤ (clusters.flatMap (·.chars)).countP q := by
  induction clusters generalizing width with
  | nil => exact Nat.le_refl _
  | cons cluster rest ih =>
    rw [fitting, List.flatMap_cons, List.countP_append]
    split
    · exact Nat.zero_le _
    · split
      · rw [List.countP_append]
        exact Nat.add_le_add_left (ih _) _
      · rw [List.countP_replicate, hq, if_neg Bool.false_ne_true]
        exact Nat.zero_le _

theorem countP_truncate_le (hq : q ' ' = false) (width : Nat) (line : List Char) :
    (truncate width line).countP q ≤ line.countP q := by
  rw [truncate]
  split
  · have hle := countP_fitting_le hq width (Cell.clusters line)
    rwa [Cell.flatMap_clusters] at hle
  · exact Nat.le_refl _

/-! ## The lines of a text -/

/-- The lines into which a line is divided, as they are shown. -/
def shownLines (width : Nat) (line : List Char) : List (List Char) :=
  (wrap width (expandTabs line)).map fun line => truncate width (trimExcess width line)

theorem shownLines_ne_nil (width : Nat) (line : List Char) : shownLines width line ≠ [] := by
  rw [shownLines, ne_eq, List.map_eq_nil_iff, wrap]
  split <;> simp

theorem countP_flatten_shownLines_le (hq : q ' ' = false) (width : Nat) (line : List Char) :
    (shownLines width line).flatten.countP q ≤ line.countP q := by
  have hcut (lines : List (List Char)) :
      (lines.map fun line => truncate width (trimExcess width line)).flatten.countP q ≤
        lines.flatten.countP q := by
    induction lines with
    | nil => exact Nat.le_refl _
    | cons line rest ih =>
      rw [List.map_cons, List.flatten_cons, List.flatten_cons, List.countP_append,
        List.countP_append]
      refine Nat.add_le_add ?_ ih
      exact (countP_truncate_le hq width _).trans (trimExcess_isPrefix width line).sublist.countP_le
  calc (shownLines width line).flatten.countP q
      ≤ (wrap width (expandTabs line)).flatten.countP q := hcut _
    _ ≤ (expandTabs line).countP q := (flatten_wrap_isPrefix width _).sublist.countP_le
    _ ≤ line.countP q := countP_expandTabs_le hq line

/-- Dividing a text into lines adds nothing but blanks and the ends of the lines. -/
theorem countP_lines_le (hq : q ' ' = false) (hq' : q '\n' = false) (width : Nat)
    (cs : List Char) : ((lines width cs).flatMap (· ++ ['\n'])).countP q ≤ cs.countP q := by
  have hends (lines : List (List Char)) :
      (lines.flatMap (· ++ ['\n'])).countP q = lines.flatten.countP q := by
    induction lines with
    | nil => rfl
    | cons line rest ih => simp [ih, hq']
  have hlines (texts : List (List Char)) :
      (texts.flatMap (shownLines width)).flatten.countP q ≤ texts.flatten.countP q := by
    induction texts with
    | nil => exact Nat.le_refl _
    | cons text rest ih =>
      rw [List.flatMap_cons, List.flatten_append, List.flatten_cons, List.countP_append,
        List.countP_append]
      exact Nat.add_le_add (countP_flatten_shownLines_le hq width text) ih
  rw [hends]
  exact (hlines _).trans (flatten_pieces_sublist _ cs).countP_le

theorem lineFeed_notMem_of_mem_shownLines (h : '\n' ∉ line) (hcs : cs ∈ shownLines width line) :
    '\n' ∉ cs := by
  intro hmem
  have hle := countP_flatten_shownLines_le (q := (· == '\n')) (by decide) width line
  have hnone : line.countP (· == '\n') = 0 :=
    List.countP_eq_zero.2 fun c hc heq => h (eq_of_beq heq ▸ hc)
  have hone : 0 < (shownLines width line).flatten.countP (· == '\n') :=
    List.countP_pos_iff.2 ⟨'\n', List.mem_flatten.2 ⟨cs, hcs, hmem⟩, rfl⟩
  omega

/-- A list whose items each stand for at least one is left as it is only if each stands for
itself. -/
theorem flatMap_eq_self_iff {α : Type} {f : α → List α} {l : List α} (hf : ∀ a, f a ≠ []) :
    l.flatMap f = l ↔ ∀ a ∈ l, f a = [a] := by
  have hlength (l : List α) : l.length ≤ (l.flatMap f).length := by
    induction l with
    | nil => exact Nat.le_refl _
    | cons a rest ih =>
      have hpos := List.length_pos_iff.2 (hf a)
      rw [List.flatMap_cons, List.length_append, List.length_cons]
      omega
  induction l with
  | nil => simp
  | cons a rest ih =>
    rw [List.flatMap_cons, List.forall_mem_cons]
    constructor
    · intro h
      have hpos := List.length_pos_iff.2 (hf a)
      have hsum := congrArg List.length h
      rw [List.length_append, List.length_cons] at hsum
      have hle := hlength rest
      have hone : (f a).length = [a].length := by
        rw [List.length_singleton]
        omega
      have happend : f a ++ rest.flatMap f = [a] ++ rest := h
      obtain ⟨ha, hrest⟩ := List.append_inj happend hone
      exact ⟨ha, ih.1 hrest⟩
    · rintro ⟨ha, hrest⟩
      rw [ha, ih.2 hrest]
      rfl

theorem flatMap_append_lineFeed {texts : List (List Char)} (hne : texts ≠ []) :
    texts.flatMap (· ++ ['\n']) = ['\n'].intercalate texts ++ ['\n'] := by
  induction texts with
  | nil => exact absurd rfl hne
  | cons text rest ih =>
    cases rest with
    | nil => simp
    | cons next rest =>
      rw [List.flatMap_cons, ih (List.cons_ne_nil _ _), List.intercalate_cons_cons,
        List.append_assoc, List.append_assoc, List.append_assoc]

/-! ## Lines that fit -/

/-- A line fits: it has no tabulator and takes no more cells than there are.  If it has more
characters than that, which may take no cells, it must not end in blanks, of which some would be
left out. -/
structure Fits (width : Nat) (line : List Char) : Prop where
  noTab : '\t' ∉ line
  count_le : Cell.count line ≤ width
  noExcess : line.length ≤ width ∨ Text.trimEnd line = line

theorem sum_count_wordsWithin_le (n : Nat) (cs : List Char) :
    ((wordsWithin n cs).map Cell.count).sum ≤ Cell.count cs := by
  induction n generalizing cs with
  | zero => exact Nat.zero_le _
  | succ n ih =>
    by_cases h : ∃ c ∈ cs, Text.isBlank c = false
    · obtain ⟨word, rest, rfl, -, hrest, hwords⟩ := exists_wordsWithin_succ h n
      rw [hwords, List.map_cons, List.sum_cons]
      refine (Nat.add_le_add_left (ih rest) _).trans ?_
      cases hhead : rest.head? with
      | none =>
        obtain rfl := List.head?_eq_none_iff.1 hhead
        exact Cell.count_le_append word []
      | some c =>
        obtain ⟨-, last, hlast, hblank⟩ := hrest c hhead
        refine Cell.count_add_le ?_ rest
        rw [hlast]
        rintro ⟨⟩
        cases hblank
    · rw [wordsWithin_of_forall_isBlank (by simpa using h)]
      exact Nat.zero_le _

/-- Words that fit are added to the line that is being filled. -/
theorem foldl_add_of_fits {words : List (List Char)} {w : Wrapping}
    (h : w.used + (words.map Cell.count).sum ≤ width) :
    words.foldl (Wrapping.add width) w =
      { w with
        line := w.line ++ words.flatten
        used := w.used + (words.map Cell.count).sum } := by
  induction words generalizing w with
  | nil => simp
  | cons word rest ih =>
    rw [List.map_cons, List.sum_cons, ← Nat.add_assoc] at h
    have htrim : Cell.count (Text.trimEnd word) ≤ Cell.count word := by
      obtain ⟨tail, htail⟩ := Text.trimEndWhile_isPrefix Text.isBlank word
      conv_rhs => rw [← htail]
      exact Cell.count_le_append _ tail
    have hadd : Wrapping.add width w word =
        { w with line := w.line ++ word, used := w.used + Cell.count word } := by
      simp only [Wrapping.add]
      exact if_pos (by omega)
    rw [List.foldl_cons, hadd, ih h, List.flatten_cons, List.append_assoc, List.map_cons,
      List.sum_cons, Nat.add_assoc]

theorem wrap_of_count_le (h : Cell.count line ≤ width) : wrap width line = [line] := by
  by_cases hblank : ∀ c ∈ line, Text.isBlank c = true
  · rw [wrap, words, wordsWithin_of_forall_isBlank hblank]
  · have hflatten : (words line).flatten = line := by
      refine flatten_wordsWithin (Nat.lt_succ_self _) ?_
      simpa using hblank
    have hsum : 0 + ((words line).map Cell.count).sum ≤ width := by
      rw [Nat.zero_add]
      exact (sum_count_wordsWithin_le _ line).trans h
    have hfold : (words line).foldl (Wrapping.add width) {} =
        { line := line, used := 0 + ((words line).map Cell.count).sum } := by
      rw [foldl_add_of_fits hsum, hflatten, List.nil_append]
    rw [wrap]
    split
    · rfl
    · simp [hfold]

theorem trimExcess_eq_self_iff : trimExcess width line = line ↔
    line.length ≤ width ∨ Text.trimEnd line = line := by
  have hbegin : Text.trimEnd line <+: line := Text.trimEndWhile_isPrefix Text.isBlank line
  have hwhole : Text.trimEnd line = line ↔ (Text.trimEnd line).length = line.length :=
    ⟨congrArg List.length, hbegin.eq_of_length⟩
  have hle := hbegin.length_le
  rw [trimExcess, hwhole]
  constructor
  · intro h
    have hlength := congrArg List.length h
    rw [List.length_take] at hlength
    omega
  · intro h
    exact List.take_of_length_le (by omega)

/-- Clusters that are not cut off fit. -/
theorem sum_le_of_isPrefix_fitting {clusters : List Cell.Cluster}
    (hclusters : ∀ cluster ∈ clusters, cluster.chars ≠ [] ∧
      (1 < cluster.width → cluster.chars.head? ≠ some ' '))
    (h : clusters.flatMap (·.chars) <+: fitting width clusters) :
    (clusters.map (·.width)).sum ≤ width := by
  induction clusters generalizing width with
  | nil => exact Nat.zero_le _
  | cons cluster rest ih =>
    obtain ⟨⟨hne, hspace⟩, hrest⟩ := List.forall_mem_cons.1 hclusters
    rw [List.flatMap_cons, fitting] at h
    split at h
    · exact absurd (List.append_eq_nil_iff.1 (List.prefix_nil.1 h)).1 hne
    · rename_i hwidth
      split at h
      · have hle := ih hrest ((List.prefix_append_right_inj _).1 h)
        rw [List.map_cons, List.sum_cons]
        omega
      · rename_i hwide
        obtain ⟨c, chars, hchars⟩ := List.exists_cons_of_ne_nil hne
        have hmem : c ∈ List.replicate width ' ' := h.subset (by simp [hchars])
        refine absurd ?_ (hspace ?_)
        · rw [hchars, List.eq_of_mem_replicate hmem]
          rfl
        · simp only [beq_iff_eq] at hwidth
          omega

/-- A line that is not cut off takes no more cells than there are. -/
theorem count_le_of_isPrefix_truncate (h : line <+: truncate width line) :
    Cell.count line ≤ width := by
  rw [truncate] at h
  split at h
  · rw [Cell.count_eq_sum]
    refine sum_le_of_isPrefix_fitting (fun cluster => Cell.of_mem_clusters) ?_
    rwa [Cell.flatMap_clusters]
  · rename_i hle
    exact Nat.not_lt.1 hle

theorem truncate_of_count_le (h : Cell.count line ≤ width) : truncate width line = line :=
  if_neg (Nat.not_lt.2 h)

theorem Fits.shownLines_eq (h : Fits width line) : shownLines width line = [line] := by
  rw [shownLines, expandTabs_of_notMem h.noTab, wrap_of_count_le h.count_le, List.map_singleton,
    trimExcess_eq_self_iff.2 h.noExcess, truncate_of_count_le h.count_le]

/-- A line is shown as it is exactly if it fits. -/
theorem shownLines_eq_singleton_iff : shownLines width line = [line] ↔ Fits width line := by
  refine ⟨fun hlines => ?_, Fits.shownLines_eq⟩
  obtain ⟨part, hpart, hshown⟩ := List.map_eq_singleton_iff.1 hlines
  have hbegin : part <+: expandTabs line := by
    have hwrap := flatten_wrap_isPrefix width (expandTabs line)
    rwa [hpart, List.flatten_singleton] at hwrap
  have htab : '\t' ∉ line := by
    have hle := countP_truncate_le (q := (· == '\t')) (by decide) width (trimExcess width part)
    have hnone : (trimExcess width part).countP (· == '\t') = 0 := by
      refine Nat.le_zero.1 ?_
      rw [← countP_tab_expandTabs line]
      exact ((trimExcess_isPrefix width part).trans hbegin).sublist.countP_le
    rw [hshown, hnone] at hle
    intro hmem
    have hpos : 0 < line.countP (· == '\t') := List.countP_pos_iff.2 ⟨'\t', hmem, rfl⟩
    omega
  rw [expandTabs_of_notMem htab] at hbegin
  -- What is left of the part is a part of the line, and it is shown as the line.
  have hleft := (trimExcess_isPrefix width part).trans hbegin
  have hcount : Cell.count (trimExcess width part) ≤ width := by
    refine count_le_of_isPrefix_truncate ?_
    rwa [hshown]
  rw [truncate_of_count_le hcount] at hshown
  rw [hshown] at hcount
  obtain rfl : part = line := by
    refine hbegin.eq_of_length_le ?_
    conv_lhs => rw [← hshown]
    exact (trimExcess_isPrefix width part).length_le
  exact ⟨htab, hcount, trimExcess_eq_self_iff.1 hshown⟩

/-- A text is shown as it is exactly if each of its lines fits. -/
theorem lines_eq_self_iff : (lines width cs).flatMap (· ++ ['\n']) = cs ++ ['\n'] ↔
    ∀ line ∈ Text.pieces (· == '\n') cs, Fits width line := by
  have hpiece {line : List Char} (hline : line ∈ Text.pieces (· == '\n') cs) : '\n' ∉ line := by
    intro hmem
    cases (Text.mem_and_not_of_mem_pieces hline hmem).2
  have hlines : lines width cs = (Text.pieces (· == '\n') cs).flatMap (shownLines width) := rfl
  have hshown : ∀ text ∈ lines width cs, '\n' ∉ text := by
    intro text htext
    obtain ⟨line, hline, htext⟩ := List.mem_flatMap.1 htext
    exact lineFeed_notMem_of_mem_shownLines (hpiece hline) htext
  have hne : lines width cs ≠ [] := by
    rw [hlines, ne_eq, List.flatMap_eq_nil_iff]
    obtain ⟨piece, others, hpieces⟩ :=
      List.exists_cons_of_ne_nil (Text.pieces_ne_nil (· == '\n') cs)
    exact fun h => shownLines_ne_nil width piece (h piece (hpieces ▸ List.mem_cons_self))
  have hjoined : ['\n'].intercalate (lines width cs) = cs ↔
      lines width cs = Text.pieces (· == '\n') cs := by
    constructor
    · intro h
      conv_rhs => rw [← h, Text.pieces_intercalate hne hshown]
    · intro h
      rw [h, Text.intercalate_pieces]
  rw [flatMap_append_lineFeed hne, List.append_left_inj, hjoined, hlines,
    flatMap_eq_self_iff (shownLines_ne_nil width)]
  exact forall₂_congr fun line _ => shownLines_eq_singleton_iff

end ProtocolBindings.Layout
