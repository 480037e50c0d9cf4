import ProtocolBindings.Proofs.Entries
import ProtocolBindings.Proofs.Source.Links
import ProtocolBindings.Proofs.Text.Blank
import ProtocolBindings.Proofs.Text.Lines

/-!
# The documented and the declared results of a command

What a command returns is shown twice: its documentation lists the returned values, one a line, and
its result is declared as a record with a field for each of them.  The listing is made from the
values and the record from their names, so the two agree only if the names differ; and a value has
one line only if no line ends in its name or in the label of its type.
-/

namespace ProtocolBindings

namespace TypeHint

theorem nullable_ofProperty (current : String) (p : Property) :
    (ofProperty current p).nullable = p.optional := by
  rw [ofProperty, ofRequired]
  cases p.optional with
  | true => rfl
  | false => exact nullable_ofTypeRef current p.typeRef

/-- Every property has a field of its own exactly if their names differ. -/
theorem ofFields_eq_map_iff {current : String} {properties : List Property} :
    ofFields current properties = properties.map (fun p => (p.name, ofProperty current p)) ↔
      (properties.map (·.name)).Nodup := by
  have hkeys : (properties.map fun p => (p.name, ofProperty current p)).map Prod.fst =
      properties.map (·.name) := by
    rw [List.map_map]
    rfl
  rw [← hkeys]
  constructor
  · intro h
    rw [← h]
    exact Entries.nodup_keys_ofList _
  · exact Entries.ofList_of_nodup

end TypeHint

namespace Doc

variable {p : Property}

/-! ## The line on a property -/

/-- The words behind the type on the line on a property: the mark of an optional value and the
words of the description. -/
def noteWords (p : Property) : List String :=
  (if p.optional then ["(optional)"] else []) ++
    (Text.words (description p.description).toList).map String.ofList

/-- What stands behind the type on the line on a property. -/
def note (p : Property) : String :=
  if noteWords p = [] then "" else " - " ++ " ".intercalate (noteWords p)

theorem isWord_of_mem_noteWords {word : String} (h : word ∈ noteWords p) :
    Text.IsWord word.toList := by
  rw [noteWords, List.mem_append] at h
  rcases h with h | h
  · split at h
    · rw [List.mem_singleton.1 h]
      exact ⟨by decide, by simp [Text.isBlank]⟩
    · cases h
  · obtain ⟨cs, hcs, rfl⟩ := List.mem_map.1 h
    rw [String.toList_ofList]
    exact Text.isWord_of_mem_words hcs

theorem property_eq (p : Property) :
    property p = p.name ++ " - <" ++ p.typeRef.label ++ ">" ++ note p := by
  have hword : ∀ word ∈ (Text.words (description p.description).toList).map String.ofList,
      word ≠ "" := by
    rw [List.forall_mem_map]
    intro cs hcs
    simpa using (Text.isWord_of_mem_words hcs).1
  rw [property, oneLine, note, noteWords]
  cases hwords : (Text.words (description p.description).toList).map String.ofList with
  | nil =>
    cases p.optional with
    | false => simp
    | true => simp [String.append_assoc]
  | cons word rest =>
    rw [hwords] at hword
    have hline : " ".intercalate (word :: rest) ≠ "" := by
      cases rest with
      | nil => simpa using hword
      | cons second rest => simp [String.intercalate_cons_cons]
    rw [← String.toList_inj]
    cases p.optional with
    | false => simp [hline]
    | true => simp [hline, String.intercalate_cons_cons]

/-- Whether a text has no boundary of lines in it. -/
def IsOneLine (text : String) : Prop :=
  ∀ ch ∈ text.toList, Text.isLineBreak ch = false

instance (text : String) : Decidable (IsOneLine text) :=
  decidable_of_iff (text.toList.all fun ch => !Text.isLineBreak ch) (by simp [IsOneLine])

theorem isOneLine_append_iff {a b : String} :
    IsOneLine (a ++ b) ↔ IsOneLine a ∧ IsOneLine b := by
  simp only [IsOneLine, String.toList_append, List.forall_mem_append]

theorem isOneLine_note (p : Property) : IsOneLine (note p) := by
  rw [note]
  split
  · decide
  · refine isOneLine_append_iff.2 ⟨by decide, ?_⟩
    intro ch hch
    rw [String.toList_intercalate] at hch
    rcases Text.mem_or_exists_mem_of_mem_intercalate hch with hch | ⟨cs, hcs, hch⟩
    · obtain rfl : ch = ' ' := by simpa using hch
      decide
    · obtain ⟨word, hword, rfl⟩ := List.mem_map.1 hcs
      exact Text.not_isLineBreak_of_not_isBlank ((isWord_of_mem_noteWords hword).2 ch hch)

/-- The line on a property ends with the bracket behind its type or with a word. -/
theorem endsInLine_property (p : Property) : Text.EndsInLine ("    " ++ property p).toList := by
  rw [property_eq, ← String.append_assoc, note]
  split
  · have hbracket : Text.EndsInLine ">".toList := ⟨'>', by decide, by decide⟩
    rw [String.append_empty, ← String.append_assoc, String.toList_append]
    exact hbracket.append_left _
  · rename_i hne
    have hwords : Text.EndsInLine (" ".intercalate (noteWords p)).toList := by
      rw [String.toList_intercalate]
      refine Text.endsInLine_intercalate (by simpa using hne) (List.forall_mem_map.2 ?_)
      intro word hword
      obtain ⟨hnil, hblank⟩ := isWord_of_mem_noteWords hword
      exact Text.endsInLine_of_forall hnil fun ch hch =>
        Text.not_isLineBreak_of_not_isBlank (hblank ch hch)
    rw [← String.append_assoc, String.toList_append]
    exact hwords.append_left _

theorem isOneLine_property_iff :
    IsOneLine ("    " ++ property p) ↔ IsOneLine p.name ∧ IsOneLine p.typeRef.label := by
  have hmargin : IsOneLine "    " := by decide
  have hopen : IsOneLine " - <" := by decide
  have hclose : IsOneLine ">" := by decide
  simp only [property_eq, isOneLine_append_iff, hmargin, hopen, hclose, isOneLine_note, true_and,
    and_true]

theorem lines_property (h : IsOneLine ("    " ++ property p)) :
    lines ("    " ++ property p) = ["    " ++ property p] := by
  have hne : ("    " ++ property p).toList ≠ [] := by simp
  rw [lines, Text.splitLines_eq_singleton hne h, List.map_singleton, String.ofList_toList]

/-! ## The lines of a section -/

theorem lines_append_lineFeed {front : String} (h : Text.EndsInLine front.toList)
    (back : String) : lines (front ++ "\n" ++ back) = lines front ++ lines back := by
  have htext : (front ++ "\n" ++ back).toList = front.toList ++ '\n' :: back.toList := by simp
  rw [lines, htext, Text.splitLines_append_lineFeed h, List.map_append]
  rfl

theorem exists_lines_append_lineFeed (front back : String) :
    ∃ before, lines (front ++ "\n" ++ back) = before ++ lines back := by
  have htext : (front ++ "\n" ++ back).toList = front.toList ++ '\n' :: back.toList := by simp
  obtain ⟨first, others, hlines⟩ :=
    Text.exists_splitLines_append_lineFeed front.toList back.toList
  refine ⟨(first :: others).map String.ofList, ?_⟩
  rw [lines, htext, hlines, ← List.cons_append, List.map_append]
  rfl

/-- A section stands in the documentation with its own lines; behind them is the end or an empty
line. -/
theorem exists_lines_intercalate {front back : List String} {part : String} (hfront : front ≠ [])
    (h : Text.EndsInLine part.toList) :
    ∃ before behind, lines ("\n\n".intercalate (front ++ part :: back)) =
      before ++ (lines part ++ behind) ∧ (behind = [] ∨ behind.head? = some "") := by
  have hblank : "\n\n" = "\n" ++ "\n" := rfl
  obtain ⟨behind, hbehind, hhead⟩ : ∃ behind, lines ("\n\n".intercalate (part :: back)) =
      lines part ++ behind ∧ (behind = [] ∨ behind.head? = some "") := by
    cases back with
    | nil => exact ⟨[], by simp, Or.inl rfl⟩
    | cons next back =>
      refine ⟨lines ("\n" ++ "\n\n".intercalate (next :: back)), ?_, Or.inr ?_⟩
      · rw [String.intercalate_cons_cons, ← lines_append_lineFeed h, hblank]
        simp only [String.append_assoc]
      · rw [lines, String.toList_append]
        simp [Text.splitLines_lineFeed]
  obtain ⟨before, hbefore⟩ := exists_lines_append_lineFeed ("\n\n".intercalate front ++ "\n")
    ("\n\n".intercalate (part :: back))
  refine ⟨before, behind, ?_, hhead⟩
  rw [Module.intercalate_append hfront (List.cons_ne_nil _ _), ← hbehind, ← hbefore]
  nth_rewrite 2 [hblank]
  simp only [String.append_assoc]

/-! ## The mark of an optional value -/

/-- Whether a text begins with the word that marks an optional value. -/
def BeginsWithMark (text : String) : Prop :=
  (Text.words text.toList).head? = some "(optional)".toList

instance (text : String) : Decidable (BeginsWithMark text) :=
  inferInstanceAs (Decidable ((Text.words text.toList).head? = some "(optional)".toList))

/-- Whether what stands behind the type on a line begins with a dash and the mark of an optional
value. -/
def IsMarked (rest : String) : Prop :=
  ["-".toList, "(optional)".toList] <+: Text.words rest.toList

theorem words_note (h : noteWords p ≠ []) :
    Text.words (note p).toList = "-".toList :: (noteWords p).map String.toList := by
  have hwords : ∀ word ∈ (noteWords p).map String.toList, Text.IsWord word :=
    List.forall_mem_map.2 fun _ => isWord_of_mem_noteWords
  have hnote : (note p).toList =
      [' ', '-'] ++ ' ' :: [' '].intercalate ((noteWords p).map String.toList) := by
    rw [note, if_neg h, String.toList_append, String.toList_intercalate]
    rfl
  rw [hnote, Text.words_append_cons (by decide), Text.words_intercalate hwords]
  rfl

/-- A line carries the mark if the value is optional, or if its description begins with it. -/
theorem isMarked_note_iff :
    IsMarked (note p) ↔ p.optional = true ∨ BeginsWithMark (description p.description) := by
  have hhead : (noteWords p).head? = some "(optional)" ↔
      p.optional = true ∨ BeginsWithMark (description p.description) := by
    have hmark : ∀ word, String.ofList word = "(optional)" ↔ word = "(optional)".toList :=
      fun word => by rw [← String.toList_inj, String.toList_ofList]
    rw [noteWords, BeginsWithMark]
    cases p.optional with
    | true => simp
    | false => simp only [Bool.false_eq_true, if_false, List.nil_append, List.head?_map,
        Option.map_eq_some_iff, hmark, exists_eq_right, false_or]
  rw [← hhead, IsMarked]
  cases hwords : noteWords p with
  | nil => simp [note, hwords, Text.words, Text.pieces]
  | cons word rest =>
    rw [words_note (by simp [hwords]), hwords]
    simp only [List.map_cons, List.cons_prefix_cons, List.nil_prefix, true_and, and_true,
      String.toList_inj, List.head?_cons, Option.some.injEq]
    exact eq_comm

end Doc

namespace Command

open TypeHint

variable {domain : String} {c : Command}

/-- The lines below the title in the listing of the values that a command returns. -/
def returnLines (c : Command) : List String :=
  (Doc.lines (Doc.listing "Returns" c.returns Doc.noReturnValue)).tail

/-- Whether a line of the listing shows a field of the record: both are made from one returned
value, the line begins with the value's name and type, and it goes on with the mark of an optional
value exactly if the field's hint is nullable. -/
def ShowsField (domain : String) (c : Command) (line : String) (field : String × TypeHint) :
    Prop :=
  ∃ p ∈ c.returns, field = (p.name, ofProperty domain p) ∧
    ∃ rest, line = "    " ++ (p.name ++ " - <" ++ p.typeRef.label ++ ">" ++ rest) ∧
      (Doc.IsMarked rest ↔ field.2.nullable = true)

/-- Whether the listing of the returned values and the record of a command agree: there is one line
for each field, in the order of the fields, and every value has a field of its own. -/
structure ReturnsAgree (domain : String) (c : Command) : Prop where
  lines : List.Forall₂ (ShowsField domain c) c.returnLines (ofFields domain c.returns)
  kept : ofFields domain c.returns = c.returns.map fun p => (p.name, ofProperty domain p)

theorem listing_toList (hreturns : c.returns ≠ []) :
    (Doc.listing "Returns" c.returns Doc.noReturnValue).toList = "Returns:".toList ++ '\n' ::
      Text.joinLines (c.returns.map fun p => ("    " ++ Doc.property p).toList) := by
  simp [Doc.listing, hreturns, Text.joinLines, Function.comp_def]

theorem endsInLine_of_mem_map {line : List Char}
    (h : line ∈ c.returns.map fun p => ("    " ++ Doc.property p).toList) :
    Text.EndsInLine line := by
  obtain ⟨p, -, rfl⟩ := List.mem_map.1 h
  exact Doc.endsInLine_property p

theorem endsInLine_listing (hreturns : c.returns ≠ []) :
    Text.EndsInLine (Doc.listing "Returns" c.returns Doc.noReturnValue).toList := by
  rw [listing_toList hreturns, ← List.singleton_append, ← List.append_assoc]
  exact (Text.endsInLine_intercalate (by simpa using hreturns)
    fun _ => endsInLine_of_mem_map).append_left _

/-- Every returned value has lines of its own, in the order of the values. -/
theorem lines_listing (hreturns : c.returns ≠ []) :
    Doc.lines (Doc.listing "Returns" c.returns Doc.noReturnValue) = "Returns:" :: c.returnLines ∧
      c.returnLines = c.returns.flatMap fun p => Doc.lines ("    " ++ Doc.property p) := by
  have htitle : Text.EndsInLine "Returns:".toList := ⟨':', by decide, by decide⟩
  have hlines : Doc.lines (Doc.listing "Returns" c.returns Doc.noReturnValue) =
      "Returns:" :: c.returns.flatMap fun p => Doc.lines ("    " ++ Doc.property p) := by
    rw [Doc.lines, listing_toList hreturns, Text.splitLines_append_lineFeed htitle,
      Text.splitLines_joinLines fun _ => endsInLine_of_mem_map, List.flatMap_map,
      List.map_append, List.map_flatMap]
    rfl
  rw [returnLines, hlines]
  exact ⟨rfl, rfl⟩

/-- The listing stands in the documentation with its own lines. -/
theorem exists_lines_command (hreturns : c.returns ≠ []) :
    ∃ front back, Doc.lines (Doc.command c) = front ++ "Returns:" :: (c.returnLines ++ back) ∧
      (back = [] ∨ back.head? = some "") := by
  have hsections : Doc.command c = "\n\n".intercalate
      ((Doc.descriptionSection c.description ++
        [Doc.listing "Parameters" c.parameters Doc.noParameters]) ++
        Doc.listing "Returns" c.returns Doc.noReturnValue ::
          Doc.statusSection "command" c.experimental c.deprecated) := by
    simp [Doc.command]
  obtain ⟨front, back, hlines, hback⟩ :=
    Doc.exists_lines_intercalate (List.append_ne_nil_of_right_ne_nil _ (List.cons_ne_nil _ _))
      (endsInLine_listing hreturns)
  refine ⟨front, back, ?_, hback⟩
  rw [hsections, hlines, (lines_listing hreturns).1, List.cons_append]

/-- There is one line for each value if no line ends in a name or in the label of a type. -/
theorem length_returnLines_eq_iff (hreturns : c.returns ≠ []) :
    c.returnLines.length = c.returns.length ↔
      ∀ p ∈ c.returns, Doc.IsOneLine p.name ∧ Doc.IsOneLine p.typeRef.label := by
  have hiff := Text.length_flatMap_splitLines_eq_iff fun _ => endsInLine_of_mem_map (c := c)
  rw [List.forall_mem_map, List.length_map, List.flatMap_map] at hiff
  have hlength : c.returnLines.length =
      (c.returns.flatMap fun p => Text.splitLines ("    " ++ Doc.property p).toList).length := by
    simp [(lines_listing hreturns).2, Doc.lines, List.length_flatMap]
  rw [hlength, hiff]
  exact forall₂_congr fun p _ => Doc.isOneLine_property_iff

theorem returnLines_eq_map (hreturns : c.returns ≠ [])
    (hone : ∀ p ∈ c.returns, Doc.IsOneLine p.name ∧ Doc.IsOneLine p.typeRef.label) :
    c.returnLines = c.returns.map fun p => "    " ++ Doc.property p := by
  have hline : ∀ p ∈ c.returns, Doc.lines ("    " ++ Doc.property p) = ["    " ++ Doc.property p] :=
    fun p hp => Doc.lines_property (Doc.isOneLine_property_iff.2 (hone p hp))
  rw [(lines_listing hreturns).2, List.flatMap_congr hline]
  exact List.map_eq_flatMap.symm

/-- The line on a value shows the value's field if no description of a value that is not optional
begins with the mark. -/
theorem showsField_iff (hnames : (c.returns.map (·.name)).Nodup) {p : Property}
    (hp : p ∈ c.returns) :
    ShowsField domain c ("    " ++ Doc.property p) (p.name, ofProperty domain p) ↔
      (Doc.BeginsWithMark (Doc.description p.description) → p.optional = true) := by
  rw [← or_iff_left_iff_imp, ← Doc.isMarked_note_iff, ← nullable_ofProperty domain p,
    Doc.property_eq]
  constructor
  · rintro ⟨q, hq, hfield, rest, hline, hmark⟩
    obtain rfl := List.inj_on_of_nodup_map hnames hp hq (Prod.mk.inj hfield).1
    rw [String.append_right_inj, String.append_right_inj] at hline
    rw [hline]
    exact hmark
  · exact fun hmark => ⟨p, hp, rfl, Doc.note p, rfl, hmark⟩

/-- The listing of the returned values stands in the documentation, and agrees with the record
exactly if the names of the values differ, no line ends in a name or in the label of a type, and no
description of a value that is not optional begins with the mark of an optional one. -/
theorem returnsAgree_iff (domain : String) (hreturns : c.returns ≠ []) :
    (∃ front back, Doc.lines (Doc.command c) = front ++ "Returns:" :: (c.returnLines ++ back) ∧
      (back = [] ∨ back.head? = some "")) ∧
    (c.ReturnsAgree domain ↔
      (c.returns.map (·.name)).Nodup ∧
        (∀ p ∈ c.returns, Doc.IsOneLine p.name ∧ Doc.IsOneLine p.typeRef.label) ∧
          ∀ p ∈ c.returns, Doc.BeginsWithMark (Doc.description p.description) →
            p.optional = true) := by
  refine ⟨exists_lines_command hreturns, fun h => ?_, fun ⟨hnames, hone, hmark⟩ => ?_⟩
  · have hnames := ofFields_eq_map_iff.1 h.kept
    have hlines := h.lines
    have hone := (length_returnLines_eq_iff hreturns).1 <| by
      rw [hlines.length_eq, h.kept, List.length_map]
    rw [returnLines_eq_map hreturns hone, h.kept, List.forall₂_map_left_iff,
      List.forall₂_map_right_iff, List.forall₂_same] at hlines
    exact ⟨hnames, hone, fun p hp => (showsField_iff hnames hp).1 (hlines p hp)⟩
  · have hkept : ofFields domain c.returns =
        c.returns.map fun p => (p.name, ofProperty domain p) := ofFields_eq_map_iff.2 hnames
    refine ⟨?_, hkept⟩
    rw [returnLines_eq_map hreturns hone, hkept, List.forall₂_map_left_iff,
      List.forall₂_map_right_iff, List.forall₂_same]
    exact fun p hp => (showsField_iff hnames hp).2 (hmark p hp)

def navigate : Command :=
  { name := "navigate"
    returns := [
      { name := "frameId", typeRef := .named ⟨none, "FrameId"⟩ },
      { name := "loaderId", description := some "Loader identifier.", optional := true
        typeRef := .primitive "string" }] }

theorem returnsAgree_navigate :
    navigate.returnLines = ["    frameId - <FrameId>",
      "    loaderId - <string> - (optional) Loader identifier."] ∧
    navigate.ReturnsAgree "Page" :=
  ⟨by decide,
    (returnsAgree_iff "Page" (by decide)).2.2 ⟨by decide, by decide, by decide⟩⟩

/-- A command that returns two values of one name. -/
def getFrame : Command :=
  { name := "getFrame"
    returns := [
      { name := "id", typeRef := .primitive "string" },
      { name := "id", optional := true, typeRef := .primitive "integer" }] }

theorem not_returnsAgree_getFrame :
    getFrame.returnLines = ["    id - <string>", "    id - <integer> - (optional)"] ∧
    ofFields "Page" getFrame.returns = [("id", { target := "int", nullable := true })] ∧
    ¬getFrame.ReturnsAgree "Page" := by
  have hlines : getFrame.returnLines =
      ["    id - <string>", "    id - <integer> - (optional)"] := by
    decide
  have hfields : ofFields "Page" getFrame.returns =
      [("id", { target := "int", nullable := true })] := by
    decide
  refine ⟨hlines, hfields, fun h => ?_⟩
  have hlength := h.lines.length_eq
  rw [hlines, hfields] at hlength
  cases hlength

end Command

end ProtocolBindings
