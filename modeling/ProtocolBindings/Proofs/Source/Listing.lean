import ProtocolBindings.Proofs.Source.Literals
import ProtocolBindings.Proofs.Text.Blank

/-!
# Lists of names in generated source

A list of names stands on lines of its own: one that opens it, one for each name, on which the
name stands as a literal with a comma behind it, and one that closes it.  The names are read back
from the lines.  Where a text opens a list more than once the last one counts, as the last
assignment to a variable does.
-/

namespace ProtocolBindings.Lexical

def linesOf (text : String) : List (List Char) :=
  Text.pieces (· == '\n') text.toList

def nameOn? (line : List Char) : Option String :=
  match literal? (line.dropWhile (· == ' ')) with
  | some (codes, [',']) => some (String.ofList (codes.map Char.ofNat))
  | _ => none

/-- The names on the first lines, up to the line that closes the list. -/
def namesOn? (closing : List Char) : List (List Char) → Option (List String)
  | [] => none
  | line :: rest =>
    if line == closing then some []
    else do
      let name ← nameOn? line
      let names ← namesOn? closing rest
      return name :: names

/-- The lines from the last one on that begins with `opening`. -/
def fromLast (opening : List Char) : List (List Char) → List (List Char)
  | [] => []
  | line :: rest =>
    match fromLast opening rest with
    | [] => if opening.isPrefixOf line then line :: rest else []
    | last :: behind => last :: behind

/-- The names of the list that a line with `opening` at its start opens.  An empty list is closed
on that line. -/
def listed? (opening closing text : String) : Option (List String) :=
  match fromLast opening.toList (linesOf text) with
  | [] => none
  | line :: behind =>
    if line == opening.toList then namesOn? closing.toList behind
    else if line == (opening ++ closing).toList then some []
    else none

example : listed? "xs = [" "]"
    "\"\"\"\nxs = [\n\"\"\"\nxs = [\n    \"a\",\n    \"b\",\n]\nf(xs)\n" = some ["a", "b"] := by
  decide

def entryLine (name : String) : String :=
  "    \"" ++ name ++ "\","

def listText (opening closing : String) (names : List String) : String :=
  opening ++ "\n" ++ "\n".intercalate (names.map entryLine) ++ "\n" ++ closing

variable {name opening closing : String} {names texts : List String}
  {lines front back : List (List Char)}

theorem linesOf_append (a b : String) : linesOf (a ++ "\n" ++ b) = linesOf a ++ linesOf b := by
  have htext : (a ++ "\n" ++ b).toList = a.toList ++ '\n' :: b.toList := by
    simp
  rw [linesOf, htext]
  exact Text.pieces_append_cons (by decide) a.toList b.toList

theorem linesOf_of_notMem {a : String} (h : '\n' ∉ a.toList) : linesOf a = [a.toList] := by
  refine Text.pieces_of_forall_not fun c hc => beq_eq_false_iff_ne.2 ?_
  rintro rfl
  exact h hc

/-- Texts without line feeds are the lines of what they are joined to by line feeds. -/
theorem linesOf_intercalate (hne : texts ≠ []) (h : ∀ t ∈ texts, '\n' ∉ t.toList) :
    linesOf ("\n".intercalate texts) = texts.map String.toList := by
  rw [linesOf, String.toList_intercalate]
  exact Text.pieces_intercalate (by simpa using hne) (List.forall_mem_map.2 h)

/-- A plain text between quotes denotes itself. -/
theorem literalBody?_of_isPlain {cs rest : List Char} (h : ∀ c ∈ cs, isPlain c) :
    literalBody? (cs ++ '"' :: rest) = some (cs.map Char.toNat, rest) := by
  induction cs with
  | nil => rfl
  | cons c cs ih =>
    rw [List.forall_mem_cons] at h
    obtain ⟨hquote, hback, hend⟩ := isPlain_ne h.1
    rw [List.cons_append, literalBody?_plain hquote hback hend, ih h.2]
    rfl

theorem literal?_of_isPlain {rest : List Char} (h : IsPlain name) (hrest : rest.head? ≠ some '"') :
    literal? ('"' :: (name.toList ++ '"' :: rest)) = some (name.toList.map Char.toNat, rest) := by
  have hnext : ∀ others, name.toList ++ '"' :: rest ≠ '"' :: '"' :: others := by
    intro others heq
    cases hname : name.toList with
    | nil =>
      rw [hname, List.nil_append, List.cons_inj_right] at heq
      exact hrest (congrArg List.head? heq)
    | cons c cs =>
      rw [hname] at heq
      have hquote := (isPlain_ne (h c (by simp [hname]))).1
      exact hquote (List.cons.inj heq).1
  rw [literal?]
  · exact literalBody?_of_isPlain h
  · exact hnext

/-- The name on a line of a list is read back. -/
theorem nameOn?_entryLine (h : IsPlain name) : nameOn? (entryLine name).toList = some name := by
  have hline : (entryLine name).toList.dropWhile (· == ' ') =
      '"' :: (name.toList ++ ['"', ',']) := by
    simp [entryLine]
  have hcodes : (name.toList.map Char.toNat).map Char.ofNat = name.toList := by
    rw [List.map_map]
    exact List.map_id'' (fun c => Char.ofNat_toNat c) _
  rw [nameOn?, hline, literal?_of_isPlain h (by decide)]
  simp [hcodes]

theorem notMem_entryLine (h : IsPlain name) : '\n' ∉ (entryLine name).toList := by
  intro hmem
  simp only [entryLine, String.toList_append, List.mem_append] at hmem
  rcases hmem with (hmem | hmem) | hmem
  · exact absurd hmem (by decide)
  · exact absurd (h _ hmem) (by decide)
  · exact absurd hmem (by decide)

theorem linesOf_listText (hopening : '\n' ∉ opening.toList) (hclosing : '\n' ∉ closing.toList)
    (hne : names ≠ []) (h : ∀ n ∈ names, IsPlain n) :
    linesOf (listText opening closing names) = opening.toList ::
      (names.map (fun n => (entryLine n).toList) ++ [closing.toList]) := by
  have hnames : linesOf ("\n".intercalate (names.map entryLine)) =
      names.map fun n => (entryLine n).toList := by
    rw [linesOf_intercalate (by simpa using hne), List.map_map]
    · rfl
    · rw [List.forall_mem_map]
      exact fun n hn => notMem_entryLine (h n hn)
  rw [listText, linesOf_append, linesOf_append, linesOf_of_notMem hopening,
    linesOf_of_notMem hclosing, hnames]
  rfl

theorem namesOn?_append {closing : List Char} (h : ∀ n ∈ names, IsPlain n)
    (hclosing : ∀ n, (entryLine n).toList ≠ closing) :
    namesOn? closing (names.map (fun n => (entryLine n).toList) ++ closing :: back) =
      some names := by
  induction names with
  | nil => simp [namesOn?]
  | cons name rest ih =>
    rw [List.forall_mem_cons] at h
    rw [List.map_cons, List.cons_append, namesOn?, beq_eq_false_iff_ne.2 (hclosing name),
      nameOn?_entryLine h.1, ih h.2]
    rfl

theorem fromLast_eq_nil {opening : List Char} (h : ∀ line ∈ lines, ¬opening <+: line) :
    fromLast opening lines = [] := by
  induction lines with
  | nil => rfl
  | cons line rest ih =>
    rw [List.forall_mem_cons] at h
    rw [fromLast, ih h.2]
    simp [h.1]

/-- An opening line is the last one if none behind it is opening. -/
theorem fromLast_append {opening line : List Char} (hline : opening <+: line)
    (hback : ∀ other ∈ back, ¬opening <+: other) :
    fromLast opening (front ++ line :: back) = line :: back := by
  induction front with
  | nil =>
    rw [List.nil_append, fromLast, fromLast_eq_nil hback]
    simp [hline]
  | cons first front ih =>
    rw [List.cons_append, fromLast, ih]

/-- A list of plain names is read back. -/
theorem listed?_eq {text : String}
    (hlines : linesOf text = front ++ opening.toList ::
      (names.map (fun n => (entryLine n).toList) ++ closing.toList :: back))
    (hnames : ∀ n ∈ names, IsPlain n) (hentry : ∀ n, ¬opening.toList <+: (entryLine n).toList)
    (hclosing : ∀ n, (entryLine n).toList ≠ closing.toList)
    (hback : ∀ other ∈ closing.toList :: back, ¬opening.toList <+: other) :
    listed? opening closing text = some names := by
  have hbehind : ∀ other ∈ names.map (fun n => (entryLine n).toList) ++ closing.toList :: back,
      ¬opening.toList <+: other := by
    intro other hother
    rcases List.mem_append.1 hother with hother | hother
    · obtain ⟨n, -, rfl⟩ := List.mem_map.1 hother
      exact hentry n
    · exact hback other hother
  rw [listed?, hlines, fromLast_append List.prefix_rfl hbehind]
  dsimp only
  rw [beq_self_eq_true, if_pos rfl, namesOn?_append hnames hclosing]

/-- An empty list is read back. -/
theorem listed?_eq_nil {text : String}
    (hlines : linesOf text = front ++ (opening ++ closing).toList :: back)
    (hclosing : closing ≠ "") (hback : ∀ other ∈ back, ¬opening.toList <+: other) :
    listed? opening closing text = some [] := by
  have hopening : opening.toList <+: (opening ++ closing).toList := by
    rw [String.toList_append]
    exact List.prefix_append _ _
  have hne : (opening ++ closing).toList ≠ opening.toList := by
    rw [String.toList_append]
    intro heq
    exact hclosing (String.toList_eq_nil_iff.1 (List.append_right_eq_self.1 heq))
  rw [listed?, hlines, fromLast_append hopening hback]
  dsimp only
  rw [beq_eq_false_iff_ne.2 hne, beq_self_eq_true]
  rfl

end ProtocolBindings.Lexical
