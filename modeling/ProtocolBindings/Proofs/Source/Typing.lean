import ProtocolBindings.Proofs.Source.Correspondence
import ProtocolBindings.Proofs.Source.Imports

/-!
# Imports from the typing library

The head of a module takes names from the typing library on one line, if it takes any.  It takes
what the definitions of the module use, with one exception: `Any` is looked for as a word in the
text of the annotations, and the name of a domain can be that word too.
-/

namespace ProtocolBindings

/-- What holds of the basic letters, by their places in the alphabet, and of the low line. -/
theorem Text.of_isBasic {p : Char → Prop} (hupper : ∀ n ≤ 25, p (Char.ofNat (0x41 + n)))
    (hlower : ∀ n ≤ 25, p (Char.ofNat (0x61 + n))) (hline : p '_') {c : Char}
    (h : 'A' ≤ c ∧ c ≤ 'Z' ∨ 'a' ≤ c ∧ c ≤ 'z' ∨ c = '_') : p c := by
  rcases h with h | h | rfl
  · have hrange : 0x41 ≤ c.toNat ∧ c.toNat ≤ 0x5A := h
    have hletter := hupper (c.toNat - 0x41) (by omega)
    rwa [Nat.add_sub_cancel' hrange.1, Char.ofNat_toNat] at hletter
  · have hrange : 0x61 ≤ c.toNat ∧ c.toNat ≤ 0x7A := h
    have hletter := hlower (c.toNat - 0x61) (by omega)
    rwa [Nat.add_sub_cancel' hrange.1, Char.ofNat_toNat] at hletter
  · exact hline

/-- Basic letters and the low line are word characters. -/
theorem Text.isWordCharacter_of_isBasic {c : Char}
    (h : 'A' ≤ c ∧ c ≤ 'Z' ∨ 'a' ≤ c ∧ c ≤ 'z' ∨ c = '_') : isWordCharacter c :=
  of_isBasic (p := fun c => isWordCharacter c) (by decide) (by decide)
    (by decide) h

/-! ## Reading the line -/

namespace Lexical

/-- What opens the line that takes names from the typing library. -/
def typingOpening : String := "from typing import "

def namesBetweenCommas (cs : List Char) : List String :=
  (Text.pieces (· == ',') cs).map fun name => String.ofList (name.dropWhile (· == ' '))

/-- The names that the first line of its kind takes from the typing library. -/
def typingNames? (lines : List (List Char)) : Option (List String) :=
  lines.findSome? fun line => (line.dropPrefix? typingOpening.toList).map namesBetweenCommas

variable {front back : List (List Char)} {line : List Char}

theorem dropPrefix?_typingOpening (h : line.head? ≠ some 'f') :
    line.dropPrefix? typingOpening.toList = none := by
  cases hline : line.dropPrefix? typingOpening.toList with
  | none => rfl
  | some rest =>
    obtain ⟨opening, rfl, hopening⟩ := List.dropPrefix?_eq_some_iff.1 hline
    rw [eq_of_beq hopening] at h
    exact absurd rfl h

theorem typingNames?_append (h : ∀ line ∈ front, line.dropPrefix? typingOpening.toList = none) :
    typingNames? (front ++ back) = typingNames? back := by
  have hfront : front.findSome? (fun line =>
      (line.dropPrefix? typingOpening.toList).map namesBetweenCommas) = none := by
    rw [List.findSome?_eq_none_iff]
    intro line hline
    rw [h line hline, Option.map_none]
  rw [typingNames?, List.findSome?_append, hfront]
  rfl

theorem typingNames?_of_forall (h : ∀ line ∈ front, line.dropPrefix? typingOpening.toList = none) :
    typingNames? front = none := by
  have hnone : typingNames? (front ++ []) = typingNames? [] := typingNames?_append h
  rwa [List.append_nil] at hnone

theorem typingNames?_cons (names : String) (back : List (List Char)) :
    typingNames? ((typingOpening ++ names).toList :: back) =
      some (namesBetweenCommas names.toList) := by
  rw [typingNames?, List.findSome?_cons, String.toList_append, dropPrefix?_append]
  rfl

theorem namesBetweenCommas_space (cs : List Char) :
    namesBetweenCommas (' ' :: cs) = namesBetweenCommas cs := by
  obtain ⟨first, others, hcs⟩ := List.exists_cons_of_ne_nil (Text.pieces_ne_nil (· == ',') cs)
  rw [namesBetweenCommas, namesBetweenCommas, Text.pieces_cons_of_not (by decide), hcs]
  rfl

theorem namesBetweenCommas_of_notMem {name : String} (hcomma : ',' ∉ name.toList)
    (hspace : name.toList.head? ≠ some ' ') : namesBetweenCommas name.toList = [name] := by
  have hpieces : Text.pieces (· == ',') name.toList = [name.toList] :=
    Text.pieces_of_forall_not fun c hc => beq_eq_false_iff_ne.2 (ne_of_mem_of_not_mem hc hcomma)
  have hdrop : name.toList.dropWhile (· == ' ') = name.toList := by
    cases hname : name.toList with
    | nil => rfl
    | cons c rest =>
      rw [hname] at hspace
      exact List.dropWhile_cons_of_neg (by simpa using hspace)
  rw [namesBetweenCommas, hpieces, List.map_singleton, hdrop, String.ofList_toList]

/-- Names are read back from the list that they are written as. -/
theorem namesBetweenCommas_intercalate {names : List String} (hne : names ≠ [])
    (h : ∀ name ∈ names, ',' ∉ name.toList ∧ name.toList.head? ≠ some ' ') :
    namesBetweenCommas (", ".intercalate names).toList = names := by
  induction names with
  | nil => exact absurd rfl hne
  | cons first rest ih =>
    rw [List.forall_mem_cons] at h
    have hfirst := namesBetweenCommas_of_notMem h.1.1 h.1.2
    cases rest with
    | nil =>
      rw [String.intercalate_singleton]
      exact hfirst
    | cons second rest =>
      have hrest := ih (List.cons_ne_nil _ _) h.2
      have htext : (", ".intercalate (first :: second :: rest)).toList =
          first.toList ++ ',' :: ' ' :: (", ".intercalate (second :: rest)).toList := by
        simp [String.intercalate_cons_cons]
      rw [namesBetweenCommas] at hfirst
      rw [htext, namesBetweenCommas, Text.pieces_append_cons (by decide), List.map_append, hfirst]
      exact congrArg (first :: ·) ((namesBetweenCommas_space _).trans hrest)

example : typingNames? (["import re", "from typing import Any, TypedDict", ""].map String.toList) =
    some ["Any", "TypedDict"] := by
  decide

end Lexical

open Lexical

namespace Module

/-! ## The names on the line -/

/-- The names that a module can take from the typing library, in the order in which it does. -/
def typingLibraryNames : List String :=
  ["TYPE_CHECKING", TypeHint.anyName, "TypeAlias", "TypedDict", "overload"]

variable {contents : Contents} {current name : String}

theorem typingNames_sublist (contents : Contents) (current : String) :
    (typingNames contents current).Sublist typingLibraryNames := by
  have hsome : ∀ (b : Bool) (x : String), (if b then [x] else []).Sublist [x] := by
    intro b x
    cases b <;> simp
  have hnone : ∀ (b : Bool) (x : String), (if b then [] else [x]).Sublist [x] := by
    intro b x
    cases b <;> simp
  exact ((((hnone _ _).append (hsome _ _)).append (hsome _ _)).append (hsome _ _)).append
    (hsome _ _)

theorem mem_typingNames_iff : name ∈ typingNames contents current ↔
    contents.domains current ≠ [] ∧ name = "TYPE_CHECKING" ∨
      (contents.commands ≠ [] ∨ ∃ hint ∈ contents.hints, mentionsAny hint.target) ∧
        name = TypeHint.anyName ∨
      (∃ declaration ∈ contents.declarations, declaration.usesAlias) ∧ name = "TypeAlias" ∨
      (∃ declaration ∈ contents.declarations, declaration.usesRecord) ∧ name = "TypedDict" ∨
      contents.commands ≠ [] ∧ name = "overload" := by
  have hsome : ∀ (b : Bool) (x : String), name ∈ (if b then [x] else []) ↔ b ∧ name = x := by
    intro b x
    cases b <;> simp
  have hnone : ∀ (b : Bool) (x : String), name ∈ (if b then [] else [x]) ↔ ¬b ∧ name = x := by
    intro b x
    cases b <;> simp
  rw [typingNames]
  simp only [List.mem_append, hsome, hnone]
  simp only [List.any_eq_true, Bool.or_eq_true, Bool.not_eq_true', List.isEmpty_iff,
    List.isEmpty_eq_false_iff, or_assoc, ne_eq]

/-! ## The word -/

/-- A text in two parts mentions what one of its parts does, if no word reaches over the character
between them. -/
theorem mentionsAny_of_toList_eq {text front back : String} {c : Char}
    (hc : Text.isWordCharacter c = false) (htext : text.toList = front.toList ++ c :: back.toList) :
    mentionsAny text ↔ mentionsAny front ∨ mentionsAny back := by
  have hpieces := Text.pieces_append_cons (p := fun d => !Text.isWordCharacter d) (c := c)
    (by rw [hc]; rfl) front.toList back.toList
  simp only [mentionsAny, htext, hpieces, List.contains_iff_mem, List.mem_append]

theorem not_mentionsAny_of_notMem {text : String} (h : 'A' ∉ text.toList) : ¬mentionsAny text := by
  intro hmentions
  rw [mentionsAny, List.contains_iff_mem] at hmentions
  exact h (Text.mem_of_mem_pieces hmentions (by decide))

/-- A word mentions itself only. -/
theorem mentionsAny_iff_of_isPart {word : String} (h : Reference.isPart word.toList) :
    mentionsAny word ↔ word = TypeHint.anyName := by
  have hword : ∀ c ∈ word.toList, (!Text.isWordCharacter c) = false := by
    obtain ⟨first, rest, hword, hfirst, hrest⟩ := Reference.isPart_toList_iff.1 h
    rw [hword, List.forall_mem_cons, Text.isWordCharacter_of_isBasic hfirst]
    exact ⟨rfl, fun c hc => by rw [hrest c hc]; rfl⟩
  rw [mentionsAny, Text.pieces_of_forall_not hword, List.contains_iff_mem, List.mem_singleton,
    String.toList_inj]
  exact eq_comm

theorem mentionsAny_listOf (n : Nat) (leaf : String) :
    mentionsAny (TypeHint.listOf n leaf) ↔ mentionsAny leaf := by
  induction n with
  | zero => rfl
  | succ n ih =>
    have hopening : (TypeHint.listOf (n + 1) leaf).toList =
        "list".toList ++ '[' :: (TypeHint.listOf n leaf ++ "]").toList := by
      rw [TypeHint.listOf]
      simp
    have hclosing : (TypeHint.listOf n leaf ++ "]").toList =
        (TypeHint.listOf n leaf).toList ++ ']' :: "".toList := by
      simp
    have hlist : ¬mentionsAny "list" := by decide
    have hempty : ¬mentionsAny "" := by decide
    rw [mentionsAny_of_toList_eq (by decide) hopening,
      mentionsAny_of_toList_eq (by decide) hclosing, ih, or_iff_right hlist, or_iff_left hempty]

theorem not_mentionsAny_typeName (typeId : String) : ¬mentionsAny (Naming.typeName typeId) := by
  apply not_mentionsAny_of_notMem
  intro hmem
  have hupper := isBasicUpper_name (f := .type { id := typeId }) hmem
  exact absurd hupper (by decide)

/-- The name of a type mentions what the name of a domain in front of it does. -/
theorem mentionsAny_linkText {current domain typeId : String} :
    mentionsAny (TypeHint.linkText current domain typeId) ↔
      domain ≠ current ∧ mentionsAny domain := by
  have hname := not_mentionsAny_typeName typeId
  rw [TypeHint.linkText]
  split
  · rename_i hsame
    rw [String.empty_append]
    exact ⟨fun h => absurd h hname, fun h => absurd hsame h.1⟩
  · rename_i hother
    have htext : (domain ++ "." ++ Naming.typeName typeId).toList =
        domain.toList ++ '.' :: (Naming.typeName typeId).toList := by
      simp
    rw [mentionsAny_of_toList_eq (by decide) htext, or_iff_left hname]
    exact (and_iff_right hother).symm

end Module

/-! ## Hints of values of any type -/

namespace TypeHint

/-- Whether a hint uses the type of any value: it is that type or that of arbitrary objects, inside
any number of arrays. -/
def UsesAny (hint : TypeHint) : Prop :=
  ∃ n, hint.target = listOf n anyName ∨ hint.target = listOf n "dict[str, Any]"

theorem listOf_listOf (m n : Nat) (leaf : String) :
    listOf m (listOf n leaf) = listOf (m + n) leaf := by
  induction m with
  | zero => rw [Nat.zero_add, listOf]
  | succ m ih => rw [listOf, ih, Nat.succ_add, listOf]

theorem mem_listOf {c : Char} {leaf : String} (h : c ∈ leaf.toList) (n : Nat) :
    c ∈ (listOf n leaf).toList := by
  induction n with
  | zero => exact h
  | succ n ih =>
    rw [listOf, String.toList_append, String.toList_append]
    exact List.mem_append_left _ (List.mem_append_right _ ih)

variable {hint : TypeHint}

/-- A hint of a primitive uses that type exactly if it mentions it. -/
theorem mentionsAny_iff_usesAny_of_primitive {n : Nat} {name : String}
    (h : hint.target = listOf n (primitiveName name)) :
    Module.mentionsAny hint.target ↔ hint.UsesAny := by
  constructor
  · rw [h, Module.mentionsAny_listOf]
    intro hmentions
    obtain ⟨k, hk⟩ : ∃ k, primitiveName name = listOf k anyName ∨
        primitiveName name = listOf k "dict[str, Any]" := by
      unfold primitiveName at hmentions ⊢
      split at hmentions
      · exact absurd hmentions (by decide)
      · exact absurd hmentions (by decide)
      · exact absurd hmentions (by decide)
      · exact absurd hmentions (by decide)
      · exact ⟨0, Or.inr rfl⟩
      · exact ⟨1, Or.inl (by decide)⟩
      · exact ⟨0, Or.inl rfl⟩
    refine ⟨n + k, ?_⟩
    rw [h, ← listOf_listOf, ← listOf_listOf]
    exact hk.imp (congrArg _) (congrArg _)
  · rintro ⟨k, hk | hk⟩
    · rw [hk, Module.mentionsAny_listOf]
      decide
    · rw [hk, Module.mentionsAny_listOf]
      decide

/-- A name of a type has a low line, unlike that type. -/
theorem LinksTo.not_usesAny {current domain typeId : String} {n : Nat}
    (h : hint.LinksTo current n domain typeId) : ¬hint.UsesAny := by
  have hname : '_' ∈ (linkText current domain typeId).toList := by
    rw [linkText, Naming.typeName, String.toList_append, String.toList_append]
    exact List.mem_append_right _ (List.mem_append_left _ (by decide))
  have hmem : '_' ∈ hint.target.toList := by
    rw [h.target]
    exact mem_listOf hname n
  have hnone : ∀ k leaf, '_' ∉ String.toList leaf → hint.target ≠ listOf k leaf := by
    intro k leaf hleaf htarget
    rw [htarget] at hmem
    exact notMem_listOf (by decide) (by decide) hleaf k hmem
  rintro ⟨k, htarget | htarget⟩
  · exact hnone k _ (by decide) htarget
  · exact hnone k _ (by decide) htarget

end TypeHint

namespace Module

variable {d : Domain} {hint : TypeHint}

/-- A hint mentions the type of any value if it uses it, and besides by the name of a domain
only. -/
theorem mentionsAny_target_iff (hhint : hint ∈ (Contents.documented d).hints) :
    mentionsAny hint.target ↔
      hint.UsesAny ∨ ∃ other ∈ hint.domains, other ≠ d.name ∧ mentionsAny other := by
  have hprimitive : ∀ n name, hint.target = TypeHint.listOf n (TypeHint.primitiveName name) →
      hint.domains = [] → (mentionsAny hint.target ↔
        hint.UsesAny ∨ ∃ other ∈ hint.domains, other ≠ d.name ∧ mentionsAny other) := by
    intro n name htarget hdomains
    rw [TypeHint.mentionsAny_iff_usesAny_of_primitive htarget, hdomains]
    simp
  rcases exists_annotates_of_mem_hints hhint with ⟨f, hf, r, hannotates⟩ | ⟨name, rfl⟩
  · cases hleaf : r.leaf? with
    | none =>
      obtain ⟨⟨name, htarget⟩, hdomains⟩ := hannotates.of_leaf?_eq_none hleaf
      exact hprimitive _ name htarget hdomains
    | some reference =>
      have hlinks := hannotates.linksTo hleaf
      rw [or_iff_right hlinks.not_usesAny, hlinks.target, mentionsAny_listOf, mentionsAny_linkText,
        hlinks.domains]
      split
      · rename_i hsame
        simp [hsame]
      · simp
  · exact hprimitive 0 name rfl rfl

/-! ## What the definitions use -/

/-- The names of the typing library that a domain's module, whose text is `source`, has to take from
it. -/
inductive NeedsTyping (d : Domain) (source : String) : String → Prop where
  /-- A type that is rendered as an alias. -/
  | aliased {t : TypeDef} {target : String} (ht : t ∈ d.types)
      (htext : (Declaration.bareOfTypeDef d.name t).text =
        Naming.typeName t.id ++ ": TypeAlias = " ++ target) :
      NeedsTyping d source "TypeAlias"
  | object {t : TypeDef} (ht : t ∈ d.types) (hshape : t.shape = .object) :
      NeedsTyping d source "TypedDict"
  | result {c : Command} (hc : c ∈ d.commands) (hreturns : c.returns ≠ []) :
      NeedsTyping d source "TypedDict"
  | checking {other : String} (hnames : NamesDomain d source other) :
      NeedsTyping d source "TYPE_CHECKING"
  | overload (hcommands : d.commands ≠ []) : NeedsTyping d source "overload"
  | command (hcommands : d.commands ≠ []) : NeedsTyping d source TypeHint.anyName
  /-- An annotation that is written in the module. -/
  | hinted {f : Definition} {hint : TypeHint} (hf : f ∈ definitions d) (hhint : hint ∈ f.hints d)
      (hwritten : hint.expression.toList <:+: source.toList) (hany : hint.UsesAny) :
      NeedsTyping d source TypeHint.anyName

/-- What needs the type of any value is a command or an annotation that uses it. -/
theorem needsTyping_anyName_iff {source : String} : NeedsTyping d source TypeHint.anyName ↔
    d.commands ≠ [] ∨ ∃ f ∈ definitions d, ∃ hint ∈ f.hints d,
      hint.expression.toList <:+: source.toList ∧ hint.UsesAny := by
  constructor
  · intro hneeds
    generalize hname : TypeHint.anyName = name at hneeds
    cases hneeds with
    | command hcommands => exact Or.inl hcommands
    | hinted hf hhint hwritten hany => exact Or.inr ⟨_, hf, _, hhint, hwritten, hany⟩
    | aliased | object | result | checking | overload => exact absurd hname (by decide)
  · rintro (hcommands | ⟨f, hf, hint, hhint, hwritten, hany⟩)
    · exact .command hcommands
    · exact .hinted hf hhint hwritten hany

theorem usesAlias_bareOfTypeDef_iff {domain : String} {t : TypeDef} :
    (Declaration.bareOfTypeDef domain t).usesAlias ↔
      ∃ target, (Declaration.bareOfTypeDef domain t).text =
        Naming.typeName t.id ++ ": TypeAlias = " ++ target := by
  rw [Declaration.bareOfTypeDef]
  split
  · simp only [Bool.false_eq_true, false_iff, not_exists]
    intro target htext
    obtain ⟨rest, hrecord⟩ := exists_recordText (Naming.typeName t.id)
      (TypeHint.ofFields domain t.properties)
    rw [hrecord, String.append_assoc, String.append_assoc, String.append_right_inj] at htext
    have hfirst := congrArg (fun text => text.toList.head?) htext
    simp at hfirst
  · simp

theorem usesRecord_bareOfTypeDef_iff {domain : String} {t : TypeDef} :
    (Declaration.bareOfTypeDef domain t).usesRecord ↔ t.shape = .object := by
  rw [Declaration.bareOfTypeDef]
  split
  · rename_i hshape
    simp [hshape]
  · rename_i hother
    simpa using hother

theorem exists_usesAlias_iff : (∃ declaration ∈ (Contents.documented d).declarations,
    declaration.usesAlias) ↔ ∃ t ∈ d.types, ∃ target,
      (Declaration.bareOfTypeDef d.name t).text =
        Naming.typeName t.id ++ ": TypeAlias = " ++ target := by
  constructor
  · rintro ⟨declaration, hdeclaration, halias⟩
    rcases mem_declarations_iff.1 hdeclaration with ⟨t, ht, rfl⟩ | ⟨c, -, -, rfl⟩
    · exact ⟨t, ht, usesAlias_bareOfTypeDef_iff.1 halias⟩
    · cases halias
  · rintro ⟨t, ht, htext⟩
    exact ⟨_, documented_mem_declarations ht, usesAlias_bareOfTypeDef_iff.2 htext⟩

theorem exists_usesRecord_iff : (∃ declaration ∈ (Contents.documented d).declarations,
    declaration.usesRecord) ↔
      (∃ t ∈ d.types, t.shape = .object) ∨ ∃ c ∈ d.commands, c.returns ≠ [] := by
  constructor
  · rintro ⟨declaration, hdeclaration, hrecord⟩
    rcases mem_declarations_iff.1 hdeclaration with ⟨t, ht, rfl⟩ | ⟨c, hc, hreturns, rfl⟩
    · exact Or.inl ⟨t, ht, usesRecord_bareOfTypeDef_iff.1 hrecord⟩
    · exact Or.inr ⟨c, hc, hreturns⟩
  · rintro (⟨t, ht, hshape⟩ | ⟨c, hc, hreturns⟩)
    · exact ⟨_, documented_mem_declarations ht, usesRecord_bareOfTypeDef_iff.2 hshape⟩
    · exact ⟨_, mem_declarations_iff.2 (Or.inr ⟨c, hc, hreturns, rfl⟩), rfl⟩

/-- A hint mentions the type of any value if an annotation uses it or another domain has its name as
a word. -/
theorem exists_mentionsAny_iff (package version : String) :
    (∃ hint ∈ (Contents.documented d).hints, mentionsAny hint.target) ↔
      (∃ f ∈ definitions d, ∃ hint ∈ f.hints d, hint.expression.toList <:+:
          (documented package d version).source.toList ∧ hint.UsesAny) ∨
        ∃ other ∈ (Contents.documented d).domains d.name, mentionsAny other := by
  constructor
  · rintro ⟨hint, hhint, hmentions⟩
    rcases (mentionsAny_target_iff hhint).1 hmentions with hany | ⟨other, hother, hne, hmentions⟩
    · rw [hints_documented] at hhint
      obtain ⟨f, hf, hhint⟩ := List.mem_flatMap.1 hhint
      have hwritten := infix_of_mem_annotations (expression_mem_annotations hhint)
      exact Or.inl ⟨f, hf, hint, hhint, hwritten.trans (infix_source package version hf), hany⟩
    · exact Or.inr ⟨other, mem_domains_iff.2 ⟨⟨hint, hhint, hother⟩, hne⟩, hmentions⟩
  · rintro (⟨f, hf, hint, hhint, -, hany⟩ | ⟨other, hother, hmentions⟩)
    · have hmem : hint ∈ (Contents.documented d).hints := by
        rw [hints_documented]
        exact List.mem_flatMap.2 ⟨f, hf, hhint⟩
      exact ⟨hint, hmem, (mentionsAny_target_iff hmem).2 (Or.inl hany)⟩
    · obtain ⟨⟨hint, hhint, hmem⟩, hne⟩ := mem_domains_iff.1 hother
      exact ⟨hint, hhint, (mentionsAny_target_iff hhint).2 (Or.inr ⟨other, hmem, hne, hmentions⟩)⟩

/-- A module takes the names that it needs, and `Any` also if another domain has it as a word in its
name. -/
theorem mem_typingNames_documented_iff {name : String} (package version : String) :
    name ∈ typingNames (.documented d) d.name ↔
      NeedsTyping d (documented package d version).source name ∨
        name = TypeHint.anyName ∧
          ∃ other ∈ (Contents.documented d).domains d.name, mentionsAny other := by
  have hcommands : (Contents.documented d).commands ≠ [] ↔ d.commands ≠ [] := by
    simp [Contents.documented]
  rw [mem_typingNames_iff, hcommands, exists_usesAlias_iff, exists_usesRecord_iff,
    exists_mentionsAny_iff package version]
  constructor
  · rintro (⟨hdomains, rfl⟩ | ⟨hnonempty | ⟨f, hf, hint, hhint, hwritten, hany⟩ | hother, rfl⟩ |
      ⟨⟨t, ht, target, htext⟩, rfl⟩ | ⟨⟨t, ht, hshape⟩ | ⟨c, hc, hreturns⟩, rfl⟩ | ⟨hnonempty, rfl⟩)
    · obtain ⟨other, hother⟩ := List.exists_mem_of_ne_nil _ hdomains
      exact Or.inl (.checking ((mem_domains_iff_namesDomain package version).1 hother))
    · exact Or.inl (.command hnonempty)
    · exact Or.inl (.hinted hf hhint hwritten hany)
    · exact Or.inr ⟨rfl, hother⟩
    · exact Or.inl (.aliased ht htext)
    · exact Or.inl (.object ht hshape)
    · exact Or.inl (.result hc hreturns)
    · exact Or.inl (.overload hnonempty)
  · rintro (hneeds | ⟨rfl, hother⟩)
    · cases hneeds with
      | aliased ht htext => exact Or.inr (Or.inr (Or.inl ⟨⟨_, ht, _, htext⟩, rfl⟩))
      | object ht hshape => exact Or.inr (Or.inr (Or.inr (Or.inl ⟨Or.inl ⟨_, ht, hshape⟩, rfl⟩)))
      | result hc hreturns =>
        exact Or.inr (Or.inr (Or.inr (Or.inl ⟨Or.inr ⟨_, hc, hreturns⟩, rfl⟩)))
      | checking hnames =>
        have hother := (mem_domains_iff_namesDomain package version).2 hnames
        exact Or.inl ⟨List.ne_nil_of_mem hother, rfl⟩
      | overload hnonempty => exact Or.inr (Or.inr (Or.inr (Or.inr ⟨hnonempty, rfl⟩)))
      | command hnonempty => exact Or.inr (Or.inl ⟨Or.inl hnonempty, rfl⟩)
      | hinted hf hhint hwritten hany =>
        exact Or.inr (Or.inl ⟨Or.inr (Or.inl ⟨_, hf, _, hhint, hwritten, hany⟩), rfl⟩)
    · exact Or.inr (Or.inl ⟨Or.inr (Or.inr hother), rfl⟩)

/-! ## The line of a module -/

/-- A module that takes no names from the typing library has no types and no commands. -/
theorem eq_nil_of_typingNames_eq_nil (h : typingNames (.documented d) d.name = []) :
    d.types = [] ∧ d.commands = [] := by
  have hnone : ∀ name, ¬NeedsTyping d (documented "" d "").source name := by
    intro name hneeds
    exact List.not_mem_nil (h ▸ (mem_typingNames_documented_iff "" "").2 (Or.inl hneeds))
  constructor
  · rw [List.eq_nil_iff_forall_not_mem]
    intro t ht
    by_cases hshape : t.shape = .object
    · exact hnone _ (.object ht hshape)
    · have halias : (Declaration.bareOfTypeDef d.name t).usesAlias := by
        rw [Declaration.bareOfTypeDef]
        split
        · contradiction
        · rfl
      obtain ⟨target, htext⟩ := usesAlias_bareOfTypeDef_iff.1 halias
      exact hnone _ (.aliased ht htext)
  · by_contra hcommands
    exact hnone _ (.overload hcommands)

/-- The text of such a module has no line of its kind. -/
theorem exists_lines_of_eq_nil (package version : String) (haccepts : Accepts d)
    (h : typingNames (.documented d) d.name = []) :
    ∃ lines, linesBehindDocstring? (documented package d version).source = some lines ∧
      typingNames? lines = none := by
  obtain ⟨htypes, hcommands⟩ := eq_nil_of_typingNames_eq_nil h
  have hdefinitions : definitions d = [.experimental] := by
    rw [definitions, htypes, hcommands]
    rfl
  have hblocks : headBlocks package d = [futureImport, exportList []] := by
    rw [headBlocks, Contents.documented, definedNames, htypes, hcommands]
    rfl
  obtain ⟨later, hlines, hlater⟩ := linesBehindDocstring?_documented package d version
  refine ⟨_, hlines, typingNames?_of_forall ?_⟩
  rw [List.forall_mem_cons, List.forall_mem_append, hblocks]
  refine ⟨rfl, by decide, fun line hline => ?_⟩
  rcases hlater line hline with rfl | ⟨f, hf, hline⟩
  · rfl
  · rw [hdefinitions, List.mem_singleton] at hf
    subst hf
    have heach : EachLine (fun line => line.dropPrefix? typingOpening.toList = none)
        (experimentalFunction d) :=
      eachLine_experimentalFunction haccepts (by decide)
        fun cs => dropPrefix?_typingOpening (by simp)
    exact heach line hline

theorem exists_standardImports {contents : Contents} {current : String}
    (h : typingNames contents current ≠ []) : ∃ mappings,
      standardImports contents current =
        mappings ++ [typingOpening ++ ", ".intercalate (typingNames contents current)] ∧
      ∀ line ∈ mappings, line = "from collections.abc import Mapping" := by
  refine ⟨if contents.commands.isEmpty then [] else ["from collections.abc import Mapping"], ?_, ?_⟩
  · rw [standardImports, List.isEmpty_eq_false_iff.2 h]
    rfl
  · intro line hline
    split at hline
    · cases hline
    · exact List.mem_singleton.1 hline

/-- The text of any other module has a line of its kind, behind lines of other kinds. -/
theorem exists_lines_of_ne_nil (package version : String)
    (h : typingNames (.documented d) d.name ≠ []) :
    ∃ front back, linesBehindDocstring? (documented package d version).source =
        some (front ++ (typingOpening ++
          ", ".intercalate (typingNames (.documented d) d.name)).toList :: back) ∧
      ∀ line ∈ front, line.dropPrefix? typingOpening.toList = none := by
  obtain ⟨later, hlines, -⟩ := linesBehindDocstring?_documented package d version
  obtain ⟨mappings, hstandard, hmappings⟩ := exists_standardImports h
  have hne : standardImports (.documented d) d.name ≠ [] := by
    rw [hstandard]
    exact List.concat_ne_nil _ _
  obtain ⟨blocks, hblocks⟩ : ∃ blocks, headBlocks package d = futureImport ::
      "\n".intercalate (standardImports (.documented d) d.name) :: blocks := by
    rw [headBlocks, importBlocks, List.isEmpty_eq_false_iff.2 hne]
    exact ⟨_, rfl⟩
  have hfuture : linesOf futureImport = [futureImport.toList] := linesOf_of_notMem (by decide)
  have hsplit := linesOf_intercalate hne
    fun line hline => (isPlain_of_mem_standardImports hline).notMem_lineFeed
  refine ⟨[] :: [] :: futureImport.toList :: [] :: mappings.map String.toList,
    blockLines blocks ++ later, ?_, ?_⟩
  · rw [hlines, hblocks, blockLines, List.flatMap_cons, List.flatMap_cons, hfuture, hsplit,
      hstandard, List.map_append]
    simp only [List.cons_append, List.nil_append, List.append_assoc, List.map_cons, List.map_nil]
    rfl
  · simp only [List.forall_mem_cons, List.forall_mem_map]
    refine ⟨rfl, rfl, by decide, rfl, fun line hline => ?_⟩
    rw [hmappings line hline]
    decide

/-- The names on the line of a module are those that it takes from the typing library. -/
theorem exists_typingNames? (package version : String) (haccepts : Accepts d) :
    ∃ lines, linesBehindDocstring? (documented package d version).source = some lines ∧
      typingNames? lines = if typingNames (.documented d) d.name = [] then none
        else some (typingNames (.documented d) d.name) := by
  by_cases h : typingNames (.documented d) d.name = []
  · rw [if_pos h]
    exact exists_lines_of_eq_nil package version haccepts h
  · obtain ⟨front, back, hlines, hfront⟩ := exists_lines_of_ne_nil package version h
    have hnames : ∀ name ∈ typingLibraryNames,
        ',' ∉ name.toList ∧ name.toList.head? ≠ some ' ' := by
      decide
    have hread := namesBetweenCommas_intercalate h fun name hname =>
      hnames name ((typingNames_sublist _ _).subset hname)
    refine ⟨_, hlines, ?_⟩
    rw [typingNames?_append hfront, typingNames?_cons, hread, if_neg h]

/-! ## Exact names -/

/-- Whether a module takes exactly the names that are wanted from the typing library: if any are,
they stand on the line of its kind, without duplicates, and otherwise there is no such line. -/
def ListsTyping (wanted : String → Prop) (source : String) : Prop :=
  ∃ lines, linesBehindDocstring? source = some lines ∧
    (typingNames? lines = none ↔ ∀ name, ¬wanted name) ∧
      ∀ names, typingNames? lines = some names → names.Nodup ∧ ∀ name, name ∈ names ↔ wanted name

theorem listsTyping_iff {wanted : String → Prop} (package version : String) (haccepts : Accepts d) :
    ListsTyping wanted (documented package d version).source ↔
      ∀ name, name ∈ typingNames (.documented d) d.name ↔ wanted name := by
  obtain ⟨lines, hlines, hnames⟩ := exists_typingNames? package version haccepts
  have hnodup : (typingNames (.documented d) d.name).Nodup :=
    (by decide : typingLibraryNames.Nodup).sublist (typingNames_sublist _ _)
  constructor
  · rintro ⟨lines', hlines', habsent, hlisted⟩
    obtain rfl := Option.some.inj (hlines.symm.trans hlines')
    split at hnames
    · rename_i hnil
      intro name
      rw [hnil]
      exact iff_of_false List.not_mem_nil (habsent.1 hnames name)
    · exact (hlisted _ hnames).2
  · intro hwanted
    refine ⟨lines, hlines, ?_, ?_⟩
    · rw [hnames]
      simp [← hwanted, List.eq_nil_iff_forall_not_mem]
    · intro names hsome
      rw [hnames] at hsome
      split at hsome
      · cases hsome
      · obtain rfl := Option.some.inj hsome
        exact ⟨hnodup, hwanted⟩

/-- Imports from the typing library are exact up to a word.  The module of every accepted domain
takes what it needs on one line, and `Any` also if another domain that its annotations name has that
word in its name.  So it takes exactly what it needs unless it takes `Any` for such a name only; and
a domain that a document can name has the word in its name only if that is its name. -/
theorem listsTyping_needsTyping_iff {package version : String} {m : Module}
    (h : ofDomain package d version = .ok m) :
    ListsTyping (fun name => NeedsTyping d m.source name ∨
        name = TypeHint.anyName ∧ ∃ other ∈ m.domains, mentionsAny other) m.source ∧
      (ListsTyping (NeedsTyping d m.source) m.source ↔
        NeedsTyping d m.source TypeHint.anyName ∨ ∀ other ∈ m.domains, ¬mentionsAny other) ∧
      (d.IsWellFormed → ∀ other ∈ m.domains, mentionsAny other ↔ other = TypeHint.anyName) := by
  obtain ⟨haccepts, rfl⟩ := ofDomain_eq_ok_iff.1 h
  rw [listsTyping_iff package version haccepts, listsTyping_iff package version haccepts]
  have hmem : ∀ name, name ∈ typingNames (.documented d) d.name ↔ _ :=
    fun name => mem_typingNames_documented_iff package version
  refine ⟨hmem, ⟨fun hexact => ?_, fun hcase name => ?_⟩, fun hwell other hother => ?_⟩
  · by_cases hother : ∃ other ∈ (documented package d version).domains, mentionsAny other
    · exact Or.inl ((hexact _).1 ((hmem _).2 (Or.inr ⟨rfl, hother⟩)))
    · exact Or.inr fun other hmem hmentions => hother ⟨other, hmem, hmentions⟩
  · rw [hmem name, or_iff_left_iff_imp]
    rintro ⟨rfl, other, hother, hmentions⟩
    exact hcase.resolve_right fun hnone => hnone other hother hmentions
  · exact mentionsAny_iff_of_isPart (isPart_of_mem_domains hwell hother)

/-- A domain with an array of frames of another domain and with other types. -/
def framesDomain (other : String) (types : List TypeDef) : Domain where
  name := "Page"
  types := { id := "Frames", shape := .array (.named ⟨some other, "Frame"⟩) } :: types

def anythingObject : TypeDef where
  id := "Details"
  shape := .object
  properties := [{ name := "data", typeRef := .array (.primitive "any") }]

theorem listsTyping_framesDomain : ∃ m,
    ofDomain "rpc" (framesDomain "Media" [anythingObject]) "tot" = .ok m ∧
      ListsTyping (NeedsTyping (framesDomain "Media" [anythingObject]) m.source) m.source ∧
        ∀ name, name ∈ ["TYPE_CHECKING", "Any", "TypeAlias", "TypedDict"] ↔
          NeedsTyping (framesDomain "Media" [anythingObject]) m.source name := by
  have hm : ofDomain "rpc" (framesDomain "Media" [anythingObject]) "tot" =
      .ok (documented "rpc" (framesDomain "Media" [anythingObject]) "tot") :=
    ofDomain_of_isOk (by decide)
  have hdomains : ∀ other ∈
      (documented "rpc" (framesDomain "Media" [anythingObject]) "tot").domains,
        ¬mentionsAny other := by
    decide
  have hnames : typingNames (.documented (framesDomain "Media" [anythingObject])) "Page" =
      ["TYPE_CHECKING", "Any", "TypeAlias", "TypedDict"] := by
    decide
  have hlists := (listsTyping_needsTyping_iff hm).2.1.2 (Or.inr hdomains)
  have hexact := (listsTyping_iff "rpc" "tot" (ofDomain_eq_ok_iff.1 hm).1).1 hlists
  refine ⟨_, hm, hlists, ?_⟩
  rwa [← hnames]

/-- A domain called `Any` makes a module take that name for nothing. -/
theorem not_listsTyping_framesDomain : ∃ m, ofDomain "rpc" (framesDomain "Any" []) "tot" = .ok m ∧
    ¬ListsTyping (NeedsTyping (framesDomain "Any" []) m.source) m.source := by
  have hm : ofDomain "rpc" (framesDomain "Any" []) "tot" =
      .ok (documented "rpc" (framesDomain "Any" []) "tot") :=
    ofDomain_of_isOk (by decide)
  have htaken : TypeHint.anyName ∈ typingNames (.documented (framesDomain "Any" [])) "Page" := by
    decide
  refine ⟨_, hm, fun hlists => ?_⟩
  have hexact := (listsTyping_iff "rpc" "tot" (ofDomain_eq_ok_iff.1 hm).1).1 hlists
  rcases needsTyping_anyName_iff.1 ((hexact _).1 htaken) with
    hcommands | ⟨f, hf, hint, hhint, -, hany⟩
  · exact hcommands rfl
  · have hdefinitions : definitions (framesDomain "Any" []) = [.experimental, .type
        { id := "Frames", shape := .array (.named ⟨some "Any", "Frame"⟩) }] :=
      rfl
    rw [hdefinitions, List.mem_pair] at hf
    rcases hf with rfl | rfl
    · cases hhint
    · obtain rfl := List.mem_singleton.1 hhint
      exact (TypeHint.linksTo_ofTypeRef "Page" rfl).not_usesAny hany

end Module

end ProtocolBindings
