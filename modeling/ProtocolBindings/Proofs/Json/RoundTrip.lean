import Mathlib.Data.List.Forall2
import ProtocolBindings.Proofs.Entries
import ProtocolBindings.Proofs.Json.Quoted
import ProtocolBindings.Proofs.Text.Lines

/-!
# Reading what was written

Both layouts of a value are read back as the value, if it has no numbers in it, the names in every
object differ, and its arrays and objects do not lie too deep inside one another.
-/

namespace ProtocolBindings.Json

/-! ## Spellings -/

/-- The characters that a value without numbers can begin with. -/
def openings : List Char := ['n', 't', 'f', '"', '[', '{']

/-- A text that is read as the value where up to `n` arrays and objects may lie inside one
another, whatever stands behind it. -/
structure Spells (n : Nat) (text : List Char) (value : Json) : Prop where
  head : ∃ c ∈ openings, ∃ rest, text = c :: rest
  read : ∀ fuel rest, text.length < fuel → readValue fuel n (text ++ rest) = .ok (value, rest)
  noReturn : '\r' ∉ text
  unbroken : IsUnbroken text

/-- White space that a layout puts between two tokens. -/
def IsGap (cs : List Char) : Prop :=
  ∀ c ∈ cs, c = ' ' ∨ c = '\n'

variable {n : Nat} {text gap lead tail rest : List Char} {value : Json}

theorem IsGap.noReturn (h : IsGap gap) : '\r' ∉ gap := by
  intro hmem
  rcases h _ hmem with heq | heq <;> exact absurd heq (by decide)

theorem IsGap.isUnbroken (h : IsGap gap) : IsUnbroken gap := by
  refine isUnbroken_of_notMem fun hmem => ?_
  rcases h _ hmem with heq | heq <;> exact absurd heq (by decide)

/-- White space in front of a character that is none is passed over. -/
theorem skipSpace_gap {c : Char} (h : IsGap gap) (hc : isSpace c = false) :
    skipSpace (gap ++ c :: rest) = c :: rest := by
  induction gap with
  | nil => simp [skipSpace, hc]
  | cons d gap ih =>
    have hd : isSpace d := by
      rcases h d List.mem_cons_self with rfl | rfl <;> decide
    have hrest := ih fun x hx => h x (List.mem_cons_of_mem _ hx)
    rw [skipSpace, List.cons_append, List.dropWhile_cons_of_pos hd]
    exact hrest

theorem isSpace_of_mem_openings {c : Char} (h : c ∈ openings) : isSpace c = false := by
  have hall : ∀ d ∈ openings, isSpace d = false := by simp [openings, isSpace]
  exact hall c h

theorem head?_intercalate {c : Char} {separator first : List Char} {others : List (List Char)} :
    (separator.intercalate ((c :: first) :: others)).head? = some c := by
  cases others with
  | nil => simp
  | cons second others => simp [List.intercalate_cons_cons]

/-- White space in front of joined texts is passed over. -/
theorem skipSpace_gap_intercalate {c : Char} {separator first : List Char}
    {others : List (List Char)} (hgap : IsGap gap) (hc : isSpace c = false) :
    skipSpace (gap ++ (separator.intercalate ((c :: first) :: others) ++ rest)) =
      separator.intercalate ((c :: first) :: others) ++ rest := by
  cases others with
  | nil =>
    rw [List.intercalate_singleton]
    exact skipSpace_gap hgap hc
  | cons second others =>
    rw [List.intercalate_cons_cons, List.append_assoc, List.append_assoc]
    exact skipSpace_gap hgap hc

/-! ## Texts -/

/-- A quoted text is read back with the rest behind it. -/
theorem readString_quote (start : Nat) (cs rest : List Char) :
    readString start 0 [] (cs.flatMap escapeChar ++ ['"'] ++ rest) =
      .ok (String.ofList cs, rest) := by
  rw [List.append_assoc]
  exact readString_flatMap_escapeChar

/-- A text may be read with any fuel, if it is read with one unit to begin with. -/
theorem Spells.of_succ (hhead : ∃ c ∈ openings, ∃ rest, text = c :: rest)
    (hread : ∀ fuel rest, text.length < fuel + 1 →
      readValue (fuel + 1) n (text ++ rest) = .ok (value, rest))
    (hreturn : '\r' ∉ text) (hunbroken : IsUnbroken text) : Spells n text value := by
  refine ⟨hhead, ?_, hreturn, hunbroken⟩
  intro fuel rest hfuel
  cases fuel with
  | zero => omega
  | succ fuel => exact hread fuel rest hfuel

theorem spells_string (n : Nat) (s : String) : Spells n (quote s.toList) (.string s) := by
  refine .of_succ ⟨'"', by decide, _, rfl⟩ ?_ (notMem_quote (by decide) _) (isUnbroken_quote _)
  intro fuel rest hfuel
  rw [quote, List.cons_append, readValue]
  simp only [readString_quote, String.ofList_toList]

/-- A word is read as it stands. -/
theorem Spells.of_word (hhead : ∃ c ∈ openings, ∃ rest, text = c :: rest)
    (hread : ∀ fuel rest, readValue (fuel + 1) n (text ++ rest) = .ok (value, rest))
    (hreturn : '\r' ∉ text) (hback : '\\' ∉ text) : Spells n text value :=
  .of_succ hhead (fun fuel rest _ => hread fuel rest) hreturn (isUnbroken_of_notMem hback)

theorem spells_null (n : Nat) : Spells n "null".toList .null :=
  .of_word ⟨'n', by decide, _, rfl⟩ (fun _ _ => rfl) (by decide) (by decide)

theorem spells_bool (n : Nat) (b : Bool) : Spells n (writeScalar (.bool b)) (.bool b) := by
  cases b with
  | true => exact .of_word ⟨'t', by decide, _, rfl⟩ (fun _ _ => rfl) (by decide) (by decide)
  | false => exact .of_word ⟨'f', by decide, _, rfl⟩ (fun _ _ => rfl) (by decide) (by decide)

/-! ## Arrays -/

variable {texts : List (List Char)} {items : List Json}

theorem Spells.length_pos (h : Spells n text value) : 0 < text.length := by
  obtain ⟨c, -, others, rfl⟩ := h.head
  simp

/-- A bracket opens an array: one without items if it is closed at once, and otherwise one of the
items that are read behind it. -/
theorem readValue_bracket_eq_ok_iff {fuel : Nat} :
    readValue (fuel + 1) (n + 1) ('[' :: text) = .ok (value, rest) ↔
      skipSpace text = ']' :: rest ∧ value = .array [] ∨
        (∀ others, skipSpace text ≠ ']' :: others) ∧
          ∃ items, readItems fuel n [] (skipSpace text) = .ok (items, rest) ∧
            value = .array items := by
  rw [readValue]
  split
  · rename_i others hclosed
    simp [hclosed, eq_comm, and_comm]
  · rename_i hopen
    have hnot : ∀ others, skipSpace text ≠ ']' :: others := hopen
    cases readItems fuel n [] (skipSpace text) with
    | error fault => simp [hnot]
    | ok read => simp [hnot, Prod.ext_iff, eq_comm, and_comm]

/-- Texts between commas are read as the items of an array, up to its closing bracket. -/
theorem readItems_intercalate (hgap : IsGap gap) (htail : IsGap tail)
    (h : List.Forall₂ (Spells n) texts items) (hne : texts ≠ []) :
    ∀ fuel done rest, ((',' :: gap).intercalate texts).length + 1 < fuel →
      readItems fuel n done ((',' :: gap).intercalate texts ++ (tail ++ ']' :: rest)) =
        .ok (done.reverse ++ items, rest) := by
  induction h with
  | nil => exact absurd rfl hne
  | @cons text item texts items hitem hrest ih =>
    intro fuel done rest hfuel
    have hlength := hitem.length_pos
    cases fuel with
    | zero => omega
    | succ fuel =>
      rw [readItems]
      cases hrest with
      | nil =>
        rw [List.intercalate_singleton] at hfuel ⊢
        rw [hitem.read fuel _ (by omega)]
        simp only [skipSpace_gap htail (by decide : isSpace ']' = false)]
        simp
      | @cons second next others nexts hsecond hothers =>
        have hjoined := ih (by simp)
        obtain ⟨c, hc, front, rfl⟩ := hsecond.head
        rw [List.intercalate_cons_cons] at hfuel ⊢
        simp only [List.length_append, List.length_cons] at hfuel
        rw [List.append_assoc, List.append_assoc, hitem.read fuel _ (by omega)]
        simp only [List.cons_append, skipSpace,
          List.dropWhile_cons_of_neg (by decide : ¬ isSpace ',')]
        rw [← skipSpace, skipSpace_gap_intercalate hgap (isSpace_of_mem_openings hc),
          hjoined fuel (item :: done) rest (by omega)]
        simp

/-- Texts without half pairs between commas and brackets have none either. -/
theorem isUnbroken_brackets {first last : Char} (hfirst : first ≠ '\\') (hlast : last ≠ '\\')
    (hlead : IsGap lead) (hgap : IsGap gap) (htail : IsGap tail)
    (h : ∀ text ∈ texts, IsUnbroken text) :
    IsUnbroken (first :: (lead ++ ((',' :: gap).intercalate texts ++ (tail ++ [last])))) := by
  have hseparator : IsUnbroken (',' :: gap) := .cons (by decide) hgap.isUnbroken
  refine .cons hfirst (hlead.isUnbroken.append (.append (.intercalate hseparator h) ?_))
  exact htail.isUnbroken.append (isUnbroken_singleton hlast)

/-- The layout of an array that has items: white space behind the bracket, behind every comma and
in front of the closing bracket. -/
theorem spells_array (hlead : IsGap lead) (hgap : IsGap gap) (htail : IsGap tail)
    (h : List.Forall₂ (Spells n) texts items) (hne : texts ≠ []) :
    Spells (n + 1) ('[' :: (lead ++ ((',' :: gap).intercalate texts ++ (tail ++ [']']))))
      (.array items) := by
  refine .of_succ ⟨'[', by decide, _, rfl⟩ ?_ ?_ ?_
  · intro fuel rest hfuel
    simp only [List.length_cons, List.length_append] at hfuel
    have hitems := readItems_intercalate hgap htail h hne fuel [] rest (by omega)
    cases h with
    | nil => exact absurd rfl hne
    | @cons first item others items hfirst hothers =>
      obtain ⟨c, hc, front, rfl⟩ := hfirst.head
      have hskip : skipSpace (lead ++ ((',' :: gap).intercalate ((c :: front) :: others) ++
          (tail ++ [']'])) ++ rest) =
          (',' :: gap).intercalate ((c :: front) :: others) ++ (tail ++ ']' :: rest) := by
        rw [List.append_assoc, List.append_assoc,
          skipSpace_gap_intercalate hlead (isSpace_of_mem_openings hc)]
        simp
      rw [List.cons_append, readValue_bracket_eq_ok_iff, hskip]
      refine Or.inr ⟨fun _ hclosed => ?_, _, hitems, rfl⟩
      have hhead := congrArg List.head? hclosed
      rw [List.head?_append, head?_intercalate] at hhead
      obtain rfl : c = ']' := by simpa using hhead
      exact absurd hc (by decide)
  · have htexts : ∀ text ∈ texts, '\r' ∉ text := by
      clear hne
      induction h with
      | nil => simp
      | cons hitem hrest ih => exact List.forall_mem_cons.2 ⟨hitem.noReturn, ih⟩
    have hseparator : '\r' ∉ ',' :: gap := by
      simp [hgap.noReturn]
    simp [hlead.noReturn, htail.noReturn, Text.notMem_intercalate hseparator htexts]
  · have htexts : ∀ text ∈ texts, IsUnbroken text := by
      clear hne
      induction h with
      | nil => simp
      | cons hitem hrest ih => exact List.forall_mem_cons.2 ⟨hitem.unbroken, ih⟩
    exact isUnbroken_brackets (by decide) (by decide) hlead hgap htail htexts

theorem spells_emptyArray (n : Nat) : Spells (n + 1) ['[', ']'] (.array []) :=
  .of_word ⟨'[', by decide, _, rfl⟩ (fun _ _ => rfl) (by decide) (by decide)

/-! ## Objects -/

/-- A text that is read as the member of an object. -/
def SpellsMember (n : Nat) (text : List Char) (member : String × Json) : Prop :=
  ∃ valueText, Spells n valueText member.2 ∧
    text = quote member.1.toList ++ ':' :: ' ' :: valueText

variable {members : List (String × Json)} {member : String × Json}

theorem SpellsMember.head (h : SpellsMember n text member) : ∃ front, text = '"' :: front := by
  obtain ⟨valueText, -, rfl⟩ := h
  exact ⟨_, rfl⟩

theorem SpellsMember.noReturn (h : SpellsMember n text member) : '\r' ∉ text := by
  obtain ⟨valueText, hvalue, rfl⟩ := h
  simp [notMem_quote (by decide : '\r' < ' '), hvalue.noReturn]

theorem SpellsMember.isUnbroken (h : SpellsMember n text member) : IsUnbroken text := by
  obtain ⟨valueText, hvalue, rfl⟩ := h
  have hbehind : IsUnbroken (':' :: ' ' :: valueText) :=
    .cons (by decide) (.cons (by decide) hvalue.unbroken)
  exact (isUnbroken_quote _).append hbehind

/-- What is read behind a member: the closing brace, or a comma and more members. -/
def readBehindMember (fuel n : Nat) (done : List (String × Json)) (rest : List Char) :
    Reading (List (String × Json)) :=
  match skipSpace rest with
  | '}' :: rest => .ok (done, rest)
  | ',' :: rest => readMembers fuel n done (skipSpace rest)
  | rest => faultAt .expectingComma rest

/-- A member is read up to what stands behind it. -/
theorem readMembers_member {fuel : Nat} {done : List (String × Json)}
    (h : SpellsMember n text member) (hfuel : text.length < fuel) :
    readMembers (fuel + 1) n done (text ++ rest) =
      readBehindMember fuel n (Entries.set member.1 member.2 done) rest := by
  obtain ⟨valueText, hvalue, rfl⟩ := h
  simp only [List.length_append, List.length_cons] at hfuel
  have hread := hvalue.read fuel rest (by omega)
  obtain ⟨c, hc, front, rfl⟩ := hvalue.head
  have hskip : skipSpace (' ' :: (c :: front ++ rest)) = c :: front ++ rest :=
    skipSpace_gap (by simp [IsGap] : IsGap [' ']) (isSpace_of_mem_openings hc)
  have hcolon : skipSpace (':' :: ' ' :: (c :: front ++ rest)) =
      ':' :: ' ' :: (c :: front ++ rest) := rfl
  rw [quote, List.append_assoc, List.cons_append, readMembers]
  simp only [List.cons_append] at hread hskip hcolon ⊢
  simp only [readString_quote, String.ofList_toList, hcolon, hskip, hread]
  rfl

/-- A brace opens an object: one without members if it is closed at once, and otherwise one of the
members that are read behind it. -/
theorem readValue_brace_eq_ok_iff {fuel : Nat} :
    readValue (fuel + 1) (n + 1) ('{' :: text) = .ok (value, rest) ↔
      skipSpace text = '}' :: rest ∧ value = .object [] ∨
        (∀ others, skipSpace text ≠ '}' :: others) ∧
          ∃ members, readMembers fuel n [] (skipSpace text) = .ok (members, rest) ∧
            value = .object members := by
  rw [readValue]
  split
  · rename_i others hclosed
    simp [hclosed, eq_comm, and_comm]
  · rename_i hopen
    have hnot : ∀ others, skipSpace text ≠ '}' :: others := hopen
    cases readMembers fuel n [] (skipSpace text) with
    | error fault => simp [hnot]
    | ok read => simp [hnot, Prod.ext_iff, eq_comm, and_comm]

/-- Texts between commas are read as the members of an object, up to its closing brace. -/
theorem readMembers_intercalate (hgap : IsGap gap) (htail : IsGap tail)
    (h : List.Forall₂ (SpellsMember n) texts members) (hne : texts ≠ []) :
    ∀ fuel done rest, ((done ++ members).map Prod.fst).Nodup →
      ((',' :: gap).intercalate texts).length + 1 < fuel →
        readMembers fuel n done ((',' :: gap).intercalate texts ++ (tail ++ '}' :: rest)) =
          .ok (done ++ members, rest) := by
  induction h with
  | nil => exact absurd rfl hne
  | @cons text member texts members hmember hrest ih =>
    intro fuel done rest hnames hfuel
    have hnew : member.1 ∉ done.map Prod.fst := by
      rw [List.map_append, List.map_cons, List.nodup_append] at hnames
      intro hmem
      exact hnames.2.2 _ hmem _ List.mem_cons_self rfl
    have hset : Entries.set member.1 member.2 done = done ++ [member] := Entries.set_of_notMem hnew
    cases fuel with
    | zero => omega
    | succ fuel =>
      cases hrest with
      | nil =>
        rw [List.intercalate_singleton] at hfuel ⊢
        rw [readMembers_member hmember (by omega), readBehindMember,
          skipSpace_gap htail (by decide : isSpace '}' = false), hset]
        rfl
      | @cons second next others nexts hsecond hothers =>
        have hjoined := ih (by simp)
        obtain ⟨front, rfl⟩ := hsecond.head
        rw [List.intercalate_cons_cons] at hfuel ⊢
        simp only [List.length_append, List.length_cons] at hfuel
        rw [List.append_assoc, List.append_assoc, readMembers_member hmember (by omega),
          readBehindMember]
        simp only [List.cons_append, skipSpace,
          List.dropWhile_cons_of_neg (by decide : ¬ isSpace ',')]
        rw [← skipSpace, skipSpace_gap_intercalate hgap (by decide : isSpace '"' = false), hset,
          hjoined fuel (done ++ [member]) rest (by simpa using hnames) (by omega)]
        simp

/-- The layout of an object that has members. -/
theorem spells_object (hlead : IsGap lead) (hgap : IsGap gap) (htail : IsGap tail)
    (h : List.Forall₂ (SpellsMember n) texts members) (hne : texts ≠ [])
    (hnames : (members.map Prod.fst).Nodup) :
    Spells (n + 1) ('{' :: (lead ++ ((',' :: gap).intercalate texts ++ (tail ++ ['}']))))
      (.object members) := by
  refine .of_succ ⟨'{', by decide, _, rfl⟩ ?_ ?_ ?_
  · intro fuel rest hfuel
    simp only [List.length_cons, List.length_append] at hfuel
    have hmembers := readMembers_intercalate hgap htail h hne fuel [] rest hnames (by omega)
    cases h with
    | nil => exact absurd rfl hne
    | @cons first member others members hfirst hothers =>
      obtain ⟨front, rfl⟩ := hfirst.head
      have hskip : skipSpace (lead ++ ((',' :: gap).intercalate (('"' :: front) :: others) ++
          (tail ++ ['}'])) ++ rest) =
          (',' :: gap).intercalate (('"' :: front) :: others) ++ (tail ++ '}' :: rest) := by
        rw [List.append_assoc, List.append_assoc,
          skipSpace_gap_intercalate hlead (by decide : isSpace '"' = false)]
        simp
      rw [List.cons_append, readValue_brace_eq_ok_iff, hskip]
      refine Or.inr ⟨fun _ hclosed => ?_, _, hmembers, rfl⟩
      have hhead := congrArg List.head? hclosed
      rw [List.head?_append, head?_intercalate] at hhead
      exact absurd hhead (by simp)
  · have htexts : ∀ text ∈ texts, '\r' ∉ text := by
      clear hne hnames
      induction h with
      | nil => simp
      | cons hmember hrest ih => exact List.forall_mem_cons.2 ⟨hmember.noReturn, ih⟩
    have hseparator : '\r' ∉ ',' :: gap := by
      simp [hgap.noReturn]
    simp [hlead.noReturn, htail.noReturn, Text.notMem_intercalate hseparator htexts]
  · have htexts : ∀ text ∈ texts, IsUnbroken text := by
      clear hne hnames
      induction h with
      | nil => simp
      | cons hmember hrest ih => exact List.forall_mem_cons.2 ⟨hmember.isUnbroken, ih⟩
    exact isUnbroken_brackets (by decide) (by decide) hlead hgap htail htexts

theorem spells_emptyObject (n : Nat) : Spells (n + 1) ['{', '}'] (.object []) :=
  .of_word ⟨'{', by decide, _, rfl⟩ (fun _ _ => rfl) (by decide) (by decide)

/-! ## Both layouts -/

/-- A value without numbers, with different names in every object and up to `n` arrays and objects
inside one another. -/
inductive Readable : Nat → Json → Prop
  | null {n : Nat} : Readable n .null
  | bool {n : Nat} (b : Bool) : Readable n (.bool b)
  | string {n : Nat} (s : String) : Readable n (.string s)
  | array {n : Nat} {items : List Json} (h : ∀ item ∈ items, Readable n item) :
      Readable (n + 1) (.array items)
  | object {n : Nat} {members : List (String × Json)} (hnames : (members.map Prod.fst).Nodup)
      (h : ∀ member ∈ members, Readable n member.2) : Readable (n + 1) (.object members)

theorem writeItems_eq (items : List Json) :
    writeItems items = [',', ' '].intercalate (items.map write) := by
  induction items with
  | nil => simp [writeItems]
  | cons item rest ih =>
    cases rest with
    | nil => simp [writeItems]
    | cons next rest =>
      rw [writeItems, ih]
      · simp [List.intercalate_cons_cons]
      · simp

/-- The text of a member on one line. -/
def writeMember (member : String × Json) : List Char :=
  quote member.1.toList ++ ':' :: ' ' :: write member.2

theorem writeMembers_eq (members : List (String × Json)) :
    writeMembers members = [',', ' '].intercalate (members.map writeMember) := by
  induction members with
  | nil => simp [writeMembers]
  | cons member rest ih =>
    cases rest with
    | nil => simp [writeMembers, writeMember]
    | cons next rest =>
      rw [writeMembers, ih]
      · simp [writeMember, List.intercalate_cons_cons]
      · simp

theorem writeIndentedItems_eq (depth : Nat) (items : List Json) :
    writeIndentedItems depth items =
      (',' :: newLine depth).intercalate (items.map (writeIndented depth)) := by
  induction items with
  | nil => simp [writeIndentedItems]
  | cons item rest ih =>
    cases rest with
    | nil => simp [writeIndentedItems]
    | cons next rest =>
      rw [writeIndentedItems, ih]
      · simp [List.intercalate_cons_cons]
      · simp

/-- The text of a member on a line of its own. -/
def writeIndentedMember (depth : Nat) (member : String × Json) : List Char :=
  quote member.1.toList ++ ':' :: ' ' :: writeIndented depth member.2

theorem writeIndentedMembers_eq (depth : Nat) (members : List (String × Json)) :
    writeIndentedMembers depth members =
      (',' :: newLine depth).intercalate (members.map (writeIndentedMember depth)) := by
  induction members with
  | nil => simp [writeIndentedMembers]
  | cons member rest ih =>
    cases rest with
    | nil => simp [writeIndentedMembers, writeIndentedMember]
    | cons next rest =>
      rw [writeIndentedMembers, ih]
      · simp [writeIndentedMember, List.intercalate_cons_cons]
      · simp

theorem isGap_newLine (depth : Nat) : IsGap (newLine depth) := by
  intro c hc
  rcases List.mem_cons.1 hc with hc | hc
  · exact Or.inr hc
  · exact Or.inl (List.eq_of_mem_replicate hc)

theorem isGap_nil : IsGap [] := by
  simp [IsGap]

theorem isGap_blank : IsGap [' '] := by
  simp [IsGap]

/-- The text on one line is read back. -/
theorem Readable.spells_write (h : Readable n value) : Spells n (write value) value := by
  induction h with
  | null => exact spells_null _
  | bool b => exact spells_bool _ b
  | string s => exact spells_string _ s
  | @array n items h ih =>
    rw [write, writeItems_eq]
    cases items with
    | nil => simpa using spells_emptyArray n
    | cons item rest =>
      have hitems := List.forall₂_map_left_iff.2 (List.forall₂_same.2 ih)
      simpa using spells_array isGap_nil isGap_blank isGap_nil hitems (by simp)
  | @object n members hnames h ih =>
    rw [write, writeMembers_eq]
    cases members with
    | nil => simpa using spells_emptyObject n
    | cons member rest =>
      have hmembers : List.Forall₂ (SpellsMember n) ((member :: rest).map writeMember)
          (member :: rest) :=
        List.forall₂_map_left_iff.2 <| List.forall₂_same.2 fun m hm => ⟨write m.2, ih m hm, rfl⟩
      simpa using spells_object isGap_nil isGap_blank isGap_nil hmembers (by simp) hnames

/-- The text with one item or member a line is read back. -/
theorem Readable.spells_writeIndented (h : Readable n value) (depth : Nat) :
    Spells n (writeIndented depth value) value := by
  induction h generalizing depth with
  | null => exact spells_null _
  | bool b => exact spells_bool _ b
  | string s => exact spells_string _ s
  | @array n items h ih =>
    cases items with
    | nil => exact spells_emptyArray n
    | cons item rest =>
      rw [writeIndented, writeIndentedItems_eq]
      · have hitems := List.forall₂_map_left_iff.2
          (List.forall₂_same.2 fun item hitem => ih item hitem (depth + 1))
        have hgap := isGap_newLine (depth + 1)
        simpa using spells_array hgap hgap (isGap_newLine depth) hitems (by simp)
      · simp
  | @object n members hnames h ih =>
    cases members with
    | nil => exact spells_emptyObject n
    | cons member rest =>
      rw [writeIndented, writeIndentedMembers_eq]
      · have hmembers : List.Forall₂ (SpellsMember n)
            ((member :: rest).map (writeIndentedMember (depth + 1))) (member :: rest) :=
          List.forall₂_map_left_iff.2 <| List.forall₂_same.2 fun m hm =>
            ⟨writeIndented (depth + 1) m.2, ih m hm (depth + 1), rfl⟩
        have hgap := isGap_newLine (depth + 1)
        simpa using spells_object hgap hgap (isGap_newLine depth) hmembers (by simp) hnames
      · simp

theorem skipSpace_of_isGap (h : IsGap gap) : skipSpace gap = [] := by
  induction gap with
  | nil => rfl
  | cons c gap ih =>
    have hc : isSpace c := by
      rcases h c List.mem_cons_self with rfl | rfl <;> decide
    rw [skipSpace, List.dropWhile_cons_of_pos hc]
    exact ih fun x hx => h x (List.mem_cons_of_mem _ hx)

variable [Host]

/-- A text that spells a value is parsed as the value, also with white space behind it. -/
theorem Spells.parse_eq (h : Spells Host.jsonDepth text value) (htail : IsGap tail) :
    parse (text ++ tail) = .ok value := by
  have hfuel : text.length < (text ++ tail).length + 1 := by
    rw [List.length_append]
    omega
  have hread := h.read ((text ++ tail).length + 1) tail hfuel
  have hwhole := (h.unbroken.append htail.isUnbroken).holdsHalfPair_eq
  obtain ⟨c, hc, rest, rfl⟩ := h.head
  have hskip : skipSpace (c :: rest ++ tail) = c :: rest ++ tail :=
    skipSpace_gap isGap_nil (isSpace_of_mem_openings hc)
  unfold parse
  split
  · rename_i heq
    obtain rfl : c = '\uFEFF' := (List.cons.inj heq).1
    exact absurd hc (by decide)
  · rw [hskip, hread]
    simp only [skipSpace_of_isGap htail, hwhole, Bool.false_eq_true, if_false]

/-- The text of a value in either layout is parsed as the value after its lines are unified. -/
theorem Spells.parse_unifyNewlines (h : Spells Host.jsonDepth text value) (htail : IsGap tail) :
    parse (Text.unifyNewlines (text ++ tail)) = .ok value := by
  have hreturn : '\r' ∉ text ++ tail := by
    simp [h.noReturn, htail.noReturn]
  rw [Text.unifyNewlines_of_notMem hreturn]
  exact h.parse_eq htail

end ProtocolBindings.Json
