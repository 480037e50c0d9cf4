import ProtocolBindings.Proofs.Source.Captures
import ProtocolBindings.Proofs.Source.Head
import ProtocolBindings.Proofs.Source.Listing

/-!
# What a module exports

The list at the head of a module holds the names of its definitions.  For an accepted domain they
are distinct identifiers of the generated language, none of its keywords, and apart from
`experimental` none of the names that the head itself can bind.  Only the names of types and
functions are checked when the module is made; the rest follows from the form of the names.
-/

namespace ProtocolBindings

namespace Text

/-- An identifier goes on as long as characters follow that may continue one. -/
theorem isIdentifier_append {front back : String} (h : isIdentifier front)
    (hback : ∀ c ∈ back.toList, isIdentifierContinue c) : isIdentifier (front ++ back) := by
  rw [isIdentifier] at h ⊢
  rw [String.toList_append]
  cases hfront : front.toList with
  | nil =>
    rw [hfront] at h
    cases h
  | cons first rest =>
    rw [hfront, isIdentifierChars, Bool.and_eq_true] at h
    rw [List.cons_append, isIdentifierChars, List.all_append, h.1, h.2, Bool.true_and,
      Bool.true_and, List.all_eq_true]
    exact hback

end Text

namespace Naming

variable {command : String}

/-- A function's name is the name of its command, with a low line behind it if it is taken. -/
theorem functionName_cases (command : String) :
    (underscore command ∈ keywords ++ reservedNames ∧
        functionName command = underscore command ++ "_") ∨
      (underscore command ∉ keywords ++ reservedNames ∧
        functionName command = underscore command) := by
  by_cases htaken : underscore command ∈ keywords ++ reservedNames
  · refine Or.inl ⟨htaken, ?_⟩
    rw [functionName]
    exact if_pos (by simpa using htaken)
  · refine Or.inr ⟨htaken, ?_⟩
    rw [functionName]
    exact if_neg (by simpa using htaken)

theorem isIdentifier_underscore (h : Text.isIdentifier (functionName command)) :
    Text.isIdentifier (underscore command) := by
  have htaken : ∀ name ∈ keywords ++ reservedNames, Text.isIdentifier name := by decide
  rcases functionName_cases command with ⟨hmem, -⟩ | ⟨-, hname⟩
  · exact htaken _ hmem
  · rw [← hname]
    exact h

/-- The record of a command's values has a proper name if its function has one. -/
theorem isIdentifier_resultName (h : Text.isIdentifier (functionName command)) :
    Text.isIdentifier (resultName command) := by
  have hmark : ∀ c ∈ "_result".toList, Text.isIdentifierContinue c := fun c hc =>
    List.all_eq_true.1 Module.isIdentifierContinue_marks.2.2 c hc
  exact Text.isIdentifier_append (isIdentifier_underscore h) hmark

/-- No name begins with a low line. -/
theorem underscore_ne_of_head? {name : String} (h : name.toList.head? = some '_') :
    underscore command ≠ name := by
  rintro rfl
  rw [underscore, String.toList_ofList] at h
  exact head?_underscoreChars_ne _ h

end Naming

namespace Module

variable {d : Domain} {f : Definition}

def headNames : List String :=
  ["annotations", "experimental", "overload", "Any", "TYPE_CHECKING", "TypeAlias", "TypedDict",
    "Mapping", "_session"]

/-- The name under which the head binds the session module. -/
def sessionName : String := "_session"

/-- A name without capitals that holds a low line is no keyword, and of the names of the head at
most that of the session module. -/
theorem notMem_of_lowLine {name : String} (hlow : '_' ∈ name.toList)
    (hlower : ∀ c ∈ name.toList, Text.isBasicUpper c = false) (hsession : name ≠ sessionName) :
    name ∉ Naming.keywords ∧ name ∉ headNames := by
  have hkeywords : ∀ keyword ∈ Naming.keywords, '_' ∉ keyword.toList := by decide
  have hheads : ∀ bound ∈ headNames, '_' ∉ bound.toList ∨ bound = sessionName ∨
      bound.toList.any Text.isBasicUpper = true := by
    decide
  refine ⟨fun hmem => hkeywords name hmem hlow, ?_⟩
  intro hmem
  rcases hheads name hmem with hnone | heq | hupper
  · exact hnone hlow
  · exact hsession heq
  · obtain ⟨c, hc, hcapital⟩ := List.any_eq_true.1 hupper
    rw [hlower c hc] at hcapital
    cases hcapital

/-- A free name is no keyword and no name of the head. -/
theorem notMem_of_free {command : String}
    (h : Naming.underscore command ∉ Naming.keywords ++ Naming.reservedNames) :
    Naming.underscore command ∉ Naming.keywords ∧ Naming.underscore command ∉ headNames := by
  have hheads : ∀ bound ∈ headNames, bound ∈ Naming.reservedNames ∨
      bound.toList.head? = some '_' ∨ bound.toList.any Text.isBasicUpper = true := by
    decide
  rw [List.mem_append, not_or] at h
  refine ⟨h.1, ?_⟩
  intro hmem
  rcases hheads _ hmem with hreserved | hbegins | hupper
  · exact h.2 hreserved
  · exact Naming.underscore_ne_of_head? hbegins rfl
  · obtain ⟨c, hc, hcapital⟩ := List.any_eq_true.1 hupper
    rw [Naming.isBasicUpper_underscore hc] at hcapital
    cases hcapital

/-- A definition other than `experimental` is called neither like a keyword nor like a name of the
head. -/
theorem Definition.name_notMem (hf : f ≠ .experimental) :
    f.name ∉ Naming.keywords ∧ f.name ∉ headNames := by
  have hlower : ∀ c ∈ f.name.toList, Text.isBasicUpper c = false := fun c => isBasicUpper_name
  cases f with
  | experimental => exact absurd rfl hf
  | type t =>
    refine notMem_of_lowLine ?_ hlower ?_
    · simp [Definition.name, Naming.typeName, Naming.typeMark]
    · intro heq
      have hhead := congrArg (fun name => name.toList.head?) heq
      simp [Definition.name, Naming.typeName, Naming.typeMark, sessionName] at hhead
  | record c =>
    refine notMem_of_lowLine ?_ hlower ?_
    · simp [Definition.name, Naming.resultName]
    · intro heq
      have hlast := congrArg (fun name => name.toList.getLast?) heq
      simp [Definition.name, Naming.resultName, sessionName] at hlast
  | function c =>
    rcases Naming.functionName_cases c.name with ⟨-, hname⟩ | ⟨hfree, hname⟩
    · refine notMem_of_lowLine ?_ hlower ?_
      · simp [Definition.name, hname]
      · intro heq
        have hlast := congrArg (fun name => name.toList.getLast?) heq
        simp [Definition.name, hname, sessionName] at hlast
    · rw [Definition.name, hname]
      exact notMem_of_free hfree

/-- The definitions of an accepted domain are called by identifiers. -/
theorem Accepts.isIdentifier_name (h : Accepts d) (hf : f ∈ definitions d) :
    Text.isIdentifier f.name := by
  cases f with
  | experimental => exact (by decide : Text.isIdentifier experimentalName)
  | type t => exact h.typeName t (type_mem_definitions_iff.1 hf)
  | record c =>
    exact Naming.isIdentifier_resultName (h.functionName c (record_mem_definitions_iff.1 hf).1)
  | function c => exact h.functionName c (function_mem_definitions_iff.1 hf)

theorem mem_definedNames {name : String} (h : name ∈ definedNames d) :
    ∃ f ∈ definitions d, f ≠ .experimental ∧ f.name = name := by
  have hperm := names_definitions_perm d
  rw [definitions, List.map_cons] at hperm
  have hnames := (List.perm_cons _).1 hperm
  obtain ⟨f, hf, rfl⟩ := List.mem_map.1 (hnames.mem_iff.2 h)
  refine ⟨f, List.mem_cons_of_mem _ hf, ?_, rfl⟩
  rintro rfl
  rcases List.mem_append.1 hf with htype | hcommand
  · obtain ⟨t, -, heq⟩ := List.mem_map.1 htype
    cases heq
  · obtain ⟨c, -, hc⟩ := List.mem_flatMap.1 hcommand
    rw [Definition.ofCommand] at hc
    split at hc <;> simp at hc

/-! ## The list in the text -/

/-- What opens the list of a module's names. -/
def openingOfExports : String := "__all__ = ["

/-- What closes the list of a module's names. -/
def closingOfExports : String := "]"

theorem exportList_eq (names : List String) : exportList names =
    Lexical.listText openingOfExports closingOfExports (experimentalName :: names) := by
  have hopening : "__all__ = [\n" = openingOfExports ++ "\n" := by decide
  have hclosing : "\n]" = "\n" ++ closingOfExports := by decide
  rw [exportList, Lexical.listText, hopening, hclosing]
  simp only [String.append_assoc]
  rfl

/-- What stands in front of the list in a module's head. -/
def headFront (package : String) (d : Domain) (version : String) : String :=
  "\n\n".intercalate
    ([moduleDocstring d version, "from __future__ import annotations"] ++
      importBlocks package d.name (.documented d)) ++ "\n"

theorem head_eq (package : String) (d : Domain) (version : String) :
    head package d version =
      headFront package d version ++ "\n" ++ exportList (definedNames d) := by
  have hgap : "\n\n" = "\n" ++ "\n" := by decide
  rw [head, intercalate_append (by simp) (List.cons_ne_nil _ _), String.intercalate_singleton,
    Contents.names_documented, headFront]
  simp only [String.append_assoc]
  rfl

/-- The last list that the head of a module opens holds its names. -/
theorem listed?_head (package version : String) (h : Accepts d) :
    Lexical.listed? openingOfExports closingOfExports (head package d version) =
      some (experimentalName :: definedNames d) := by
  have hplain : ∀ name ∈ experimentalName :: definedNames d, Lexical.IsPlain name := by
    rw [List.forall_mem_cons]
    exact ⟨by decide, fun name hname => h.isPlain_of_mem_definedNames hname⟩
  have hlist : Lexical.linesOf (exportList (definedNames d)) = _ :=
    (congrArg Lexical.linesOf (exportList_eq _)).trans
      (Lexical.linesOf_listText (by decide) (by decide) (List.cons_ne_nil _ _) hplain)
  have hlines : Lexical.linesOf (head package d version) = _ :=
    (congrArg Lexical.linesOf (head_eq package d version)).trans (Lexical.linesOf_append _ _)
  rw [hlist] at hlines
  refine Lexical.listed?_eq hlines hplain ?_ ?_ ?_
  · intro n hprefix
    simp [openingOfExports, Lexical.entryLine] at hprefix
  · intro n heq
    simp [closingOfExports, Lexical.entryLine] at heq
  · rw [List.forall_mem_singleton]
    decide

/-- What the names that a module exports are to be. -/
structure ExportsDefinitions (d : Domain) (names : List String) : Prop where
  /-- Beside `experimental` the names of the types, and for every command that of its function
  and, if it returns values, of their record. -/
  eq : names = experimentalName :: (d.types.map (fun t => Naming.typeName t.id) ++
    d.commands.flatMap fun c =>
      Naming.functionName c.name ::
        (if c.returns.isEmpty then [] else [Naming.resultName c.name]))
  nodup : names.Nodup
  isIdentifier : ∀ name ∈ names, Text.isIdentifier name
  notKeyword : ∀ name ∈ names, name ∉ Naming.keywords
  notHead : ∀ name ∈ names.tail, name ∉ headNames

/-- The names of an accepted domain's definitions are what a module may export. -/
theorem Accepts.exportsDefinitions (h : Accepts d) :
    ExportsDefinitions d (experimentalName :: definedNames d) := by
  have hperm := names_definitions_perm d
  have hdefinition : ∀ name ∈ experimentalName :: definedNames d,
      ∃ f ∈ definitions d, f.name = name :=
    fun name hname => List.mem_map.1 (hperm.mem_iff.2 hname)
  refine ⟨rfl, hperm.nodup_iff.1 h.nodup_definitions, ?_, ?_, ?_⟩
  · intro name hname
    obtain ⟨f, hf, rfl⟩ := hdefinition name hname
    exact h.isIdentifier_name hf
  · rw [List.forall_mem_cons]
    refine ⟨by decide, ?_⟩
    intro name hname
    obtain ⟨f, -, hne, rfl⟩ := mem_definedNames hname
    exact (Definition.name_notMem hne).1
  · intro name hname
    obtain ⟨f, -, hne, rfl⟩ := mem_definedNames hname
    exact (Definition.name_notMem hne).2

/-- Behind its head the text of a module goes on with another line. -/
theorem exists_source_eq (package : String) (d : Domain) (version : String) :
    ∃ behind, (documented package d version).source =
      head package d version ++ "\n" ++ behind := by
  obtain ⟨body, hsource, hspaced⟩ := source_documented package d version
  rw [definitions, List.map_cons] at hspaced
  cases hspaced with
  | @cons gap text rest texts hgap hrest =>
    have hline : ∃ more, gap = "\n" ++ more := by
      rcases hgap with rfl | rfl
      · exact ⟨"\n", by decide⟩
      · exact ⟨"\n\n", by decide⟩
    obtain ⟨more, rfl⟩ := hline
    refine ⟨more ++ Definition.text d .experimental ++ rest ++ "\n", ?_⟩
    rw [hsource]
    simp only [String.append_assoc]

/-- The list at the head of a generated module holds the names of its definitions in order.  They
are distinct identifiers, no keywords, and apart from `experimental` no names that the head can
bind. -/
theorem exportsDefinitions_of_ofDomain {package version : String} {m : Module}
    (h : ofDomain package d version = .ok m) : ∃ names behind,
      m.source = head package d version ++ "\n" ++ behind ∧
        Lexical.listed? "__all__ = [" "]" (head package d version) = some names ∧
          ExportsDefinitions d names := by
  obtain ⟨haccepts, rfl⟩ := ofDomain_eq_ok_iff.1 h
  obtain ⟨behind, hsource⟩ := exists_source_eq package d version
  exact ⟨_, behind, hsource, listed?_head package version haccepts, haccepts.exportsDefinitions⟩

/-- A domain with names that are taken, names beyond the basic alphabet and a record. -/
def takenNames : Domain where
  name := "Página"
  types := [{ id := "Année" }]
  commands :=
    [{ name := "_session" },
      { name := "import", returns := [{ name := "x" }] },
      { name := "experimental" },
      { name := "getΣΑΣ" }]

theorem exportsDefinitions_takenNames : ∃ m names behind,
    ofDomain "rpc" takenNames "tot" = .ok m ∧
      m.source = head "rpc" takenNames "tot" ++ "\n" ++ behind ∧
        Lexical.listed? "__all__ = [" "]" (head "rpc" takenNames "tot") = some names ∧
          names = ["experimental", "cdp_année", "session", "import_", "import_result",
            "experimental_", "getσας"] ∧ ExportsDefinitions takenNames names := by
  have haccepts : Accepts takenNames :=
    ⟨by decide, by decide, by decide, by decide⟩
  have hm : ofDomain "rpc" takenNames "tot" = .ok (documented "rpc" takenNames "tot") :=
    ofDomain_eq_ok_iff.2 ⟨haccepts, rfl⟩
  obtain ⟨names, behind, hsource, hlisted, hexports⟩ := exportsDefinitions_of_ofDomain hm
  refine ⟨_, names, behind, hm, hsource, hlisted, ?_, hexports⟩
  rw [hexports.eq]
  decide

end Module

end ProtocolBindings
