import ProtocolBindings.Doc.Description
import ProtocolBindings.Proofs.Text.Lines
import ProtocolBindings.Proofs.Text.Trim

/-!
# The normal form of descriptions

A description in normal form has line feeds as its only line boundaries and no white space at its
ends or at the end of a line.  Normalising gives a text of this form, leaves such a text alone, and
leaves nothing only of a text of white space.

Line boundaries are white space, so a text whose ends are cut begins and ends inside of a line.  The
first and the last line are therefore kept when the ends of the lines are cut, and the lines of the
result are the cut lines.
-/

namespace ProtocolBindings.Doc

open Text

variable {cs : List Char}

/-- Whether a text is in normal form. -/
structure IsNormal (cs : List Char) : Prop where
  lineFeed : ∀ c ∈ cs, isLineBreak c = true → c = '\n'
  lineEnd : ∀ line ∈ splitLines cs, ∀ c, line.getLast? = some c → isBlank c = false
  front : ∀ c, cs.head? = some c → isBlank c = false
  back : ∀ c, cs.getLast? = some c → isBlank c = false
  firstLine : (splitLines cs).head? ≠ some []
  lastLine : (splitLines cs).getLast? ≠ some []

def normalLines (cs : List Char) : List (List Char) :=
  (splitLines (trim cs)).map trimEnd

theorem normalize_eq (cs : List Char) : normalize cs = joinLines (normalLines cs) := rfl

theorem normalLines_of_trim_eq_nil (h : trim cs = []) : normalLines cs = [] := by
  rw [normalLines, h]
  rfl

theorem not_isLineBreak_of_mem_normalLines {line : List Char} (h : line ∈ normalLines cs) :
    ∀ c ∈ line, isLineBreak c = false := by
  obtain ⟨whole, hwhole, rfl⟩ := List.mem_map.1 h
  intro c hc
  exact not_isLineBreak_of_mem_splitLines hwhole ((trimEndWhile_isPrefix _ _).subset hc)

/-- The first line begins with a character that is shown. -/
theorem exists_head?_normalLines (h : trim cs ≠ []) : ∃ line c,
    (normalLines cs).head? = some line ∧ line.head? = some c ∧ isBlank c = false := by
  obtain ⟨c, hc⟩ : ∃ c, (trim cs).head? = some c := ⟨_, List.head?_eq_some_head h⟩
  have hblank := not_of_head?_trimWhile hc
  obtain ⟨line, hline, hfirst⟩ :=
    exists_head?_splitLines hc (not_isLineBreak_of_not_isBlank hblank)
  refine ⟨trimEnd line, c, ?_, head?_trimEndWhile hfirst hblank, hblank⟩
  rw [normalLines, List.head?_map, hline, Option.map_some]

/-- The last line ends with a character that is shown. -/
theorem exists_getLast?_normalLines (h : trim cs ≠ []) : ∃ line c,
    (normalLines cs).getLast? = some line ∧ line.getLast? = some c ∧ isBlank c = false := by
  obtain ⟨c, hc⟩ : ∃ c, (trim cs).getLast? = some c := ⟨_, List.getLast?_eq_some_getLast h⟩
  have hblank := not_of_getLast?_trimWhile hc
  have hend : EndsInLine (trim cs) := ⟨c, hc, not_isLineBreak_of_not_isBlank hblank⟩
  obtain ⟨line, hline, hlast⟩ := hend.exists_getLast?_splitLines
  rw [hc] at hlast
  -- Nothing is cut from the last line.
  have hwhole : trimEnd line = line := by
    apply trimEndWhile_of_getLast?
    intro d hd
    rw [hlast] at hd
    rwa [← Option.some.inj hd]
  refine ⟨line, c, ?_, hlast, hblank⟩
  rw [normalLines, List.getLast?_map, hline, Option.map_some, hwhole]

/-- The first and the last line hold a character each. -/
theorem head?_getLast?_normalLines_ne (cs : List Char) :
    (normalLines cs).head? ≠ some [] ∧ (normalLines cs).getLast? ≠ some [] := by
  by_cases h : trim cs = []
  · rw [normalLines_of_trim_eq_nil h]
    simp
  · obtain ⟨first, c, hfirst, hc, -⟩ := exists_head?_normalLines h
    obtain ⟨last, d, hlast, hd, -⟩ := exists_getLast?_normalLines h
    rw [hfirst, hlast]
    constructor
    · rintro ⟨⟩
      cases hc
    · rintro ⟨⟩
      cases hd

theorem splitLines_normalize (cs : List Char) : splitLines (normalize cs) = normalLines cs := by
  rw [normalize_eq]
  exact splitLines_joinLines_of_lines (fun _ hline => not_isLineBreak_of_mem_normalLines hline)
    (head?_getLast?_normalLines_ne cs).2

theorem exists_head?_normalize (h : trim cs ≠ []) :
    ∃ c, (normalize cs).head? = some c ∧ isBlank c = false := by
  obtain ⟨line, c, hline, hc, hblank⟩ := exists_head?_normalLines h
  refine ⟨c, ?_, hblank⟩
  rw [normalize_eq, head?_joinLines hline, hc]
  rintro rfl
  cases hc

theorem exists_getLast?_normalize (h : trim cs ≠ []) :
    ∃ c, (normalize cs).getLast? = some c ∧ isBlank c = false := by
  obtain ⟨line, c, hline, hc, hblank⟩ := exists_getLast?_normalLines h
  refine ⟨c, ?_, hblank⟩
  rw [normalize_eq, getLast?_joinLines hline, hc]
  rintro rfl
  cases hc

theorem normalize_of_trim_eq_nil (h : trim cs = []) : normalize cs = [] := by
  rw [normalize_eq, normalLines_of_trim_eq_nil h]
  rfl

/-- Normalising gives a text in normal form. -/
theorem isNormal_normalize (cs : List Char) : IsNormal (normalize cs) := by
  have hends := head?_getLast?_normalLines_ne cs
  refine ⟨?_, ?_, ?_, ?_, ?_, ?_⟩
  · intro c hc hbreak
    rcases mem_or_exists_mem_of_mem_intercalate hc with hfeed | ⟨line, hline, hmem⟩
    · exact List.mem_singleton.1 hfeed
    · rw [not_isLineBreak_of_mem_normalLines hline c hmem] at hbreak
      cases hbreak
  · intro line hline c hc
    rw [splitLines_normalize] at hline
    obtain ⟨whole, -, rfl⟩ := List.mem_map.1 hline
    exact not_of_getLast?_trimEndWhile hc
  · intro c hc
    by_cases h : trim cs = []
    · rw [normalize_of_trim_eq_nil h] at hc
      cases hc
    · obtain ⟨d, hd, hblank⟩ := exists_head?_normalize h
      rwa [← Option.some.inj (hd.symm.trans hc)]
  · intro c hc
    by_cases h : trim cs = []
    · rw [normalize_of_trim_eq_nil h] at hc
      cases hc
    · obtain ⟨d, hd, hblank⟩ := exists_getLast?_normalize h
      rwa [← Option.some.inj (hd.symm.trans hc)]
  · rw [splitLines_normalize]
    exact hends.1
  · rw [splitLines_normalize]
    exact hends.2

/-- A text in normal form is left alone. -/
theorem normalize_of_isNormal (h : IsNormal cs) : normalize cs = cs := by
  have htrim : trim cs = cs := trimWhile_of_ends h.front h.back
  have hlines : (splitLines cs).map trimEnd = splitLines cs := by
    refine (List.map_congr_left fun line hline => ?_).trans (List.map_id _)
    exact trimEndWhile_of_getLast? (h.lineEnd line hline)
  rw [normalize, htrim, hlines]
  exact joinLines_splitLines h.lineFeed fun c hc => not_isLineBreak_of_not_isBlank (h.back c hc)

theorem normalize_eq_nil_iff : normalize cs = [] ↔ ∀ c ∈ cs, isBlank c = true := by
  rw [← trimWhile_eq_nil_iff]
  constructor
  · intro hnil
    by_contra h
    obtain ⟨c, hc, -⟩ := exists_head?_normalize h
    rw [hnil] at hc
    cases hc
  · exact normalize_of_trim_eq_nil

/-- The description that is shown is in normal form; it is empty only if the description is white
space, and describing it again does not change it. -/
theorem isNormal_description (text : String) :
    IsNormal (description (some text)).toList ∧
      (description (some text) = "" ↔ ∀ c ∈ text.toList, isBlank c = true) ∧
        description (some (description (some text))) = description (some text) := by
  have hchars : (description (some text)).toList = normalize text.toList := String.toList_ofList
  refine ⟨hchars ▸ isNormal_normalize text.toList, ?_, ?_⟩
  · rw [← String.toList_eq_nil_iff, hchars, normalize_eq_nil_iff]
  · have hsame := normalize_of_isNormal (isNormal_normalize text.toList)
    rw [← hchars] at hsame
    rw [description, hsame]
    exact String.ofList_toList

end ProtocolBindings.Doc
