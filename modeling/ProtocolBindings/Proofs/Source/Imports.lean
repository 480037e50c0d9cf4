import ProtocolBindings.Proofs.Source.Header

/-!
# Imports of other modules

The module of a domain imports the modules of the domains that its annotations name, for the type
checker only.  Which these are is read back from its lines: a block for the type checker imports
what stands on the line below, or on the lines up to a closing bracket.
-/

namespace ProtocolBindings

/-! ## Reading a block -/

namespace Lexical

variable {package : String} {names : List String} {lines front back : List (List Char)}

/-- The name of a module that has a line of an import to itself. -/
def moduleOn? (line : List Char) : Option String := do
  let entry ← line.dropPrefix? "        ".toList
  let name ← entry.dropSuffix? [',']
  return String.ofList name

/-- The names on the first lines, up to the line that closes the import. -/
def modulesOn? : List (List Char) → Option (List String)
  | [] => none
  | line :: rest =>
    if line == "    )".toList then some []
    else do
      let name ← moduleOn? line
      let names ← modulesOn? rest
      return name :: names

/-- The modules that the first lines of a block import out of a package. -/
def importedModules? (package : String) : List (List Char) → Option (List String)
  | [] => none
  | line :: rest => do
    let imported ← line.dropPrefix? ("    from " ++ package ++ " import ").toList
    if imported == ['('] then modulesOn? rest else return [String.ofList imported]

/-- What each of the blocks for the type checker imports out of a package. -/
def checkedImports (package : String) : List (List Char) → List (Option (List String))
  | [] => []
  | line :: rest =>
    if line == checkingLine.toList then importedModules? package rest :: checkedImports package rest
    else checkedImports package rest

theorem dropPrefix?_append (front rest : List Char) :
    (front ++ rest).dropPrefix? front = some rest :=
  List.dropPrefix?_eq_some_iff.2 ⟨front, rfl, beq_self_eq_true front⟩

theorem moduleOn?_line (name : String) :
    moduleOn? ("        " ++ name ++ ",").toList = some name := by
  have hentry : ("        " ++ name ++ ",").toList =
      "        ".toList ++ (name.toList ++ [',']) := by
    simp
  have hname : (name.toList ++ [',']).dropSuffix? [','] = some name.toList :=
    List.dropSuffix?_eq_some_iff.2 ⟨[','], rfl, beq_self_eq_true _⟩
  rw [moduleOn?, hentry, dropPrefix?_append]
  simp [hname]

/-- The names of modules are read back from their lines. -/
theorem modulesOn?_append (names : List String) (back : List (List Char)) :
    modulesOn? (names.map (fun name => ("        " ++ name ++ ",").toList) ++
      "    )".toList :: back) = some names := by
  induction names with
  | nil => rfl
  | cons name rest ih =>
    have hne : ("        " ++ name ++ ",").toList ≠ "    )".toList := by
      intro heq
      simp at heq
    rw [List.map_cons, List.cons_append, modulesOn?, beq_eq_false_iff_ne.2 hne, moduleOn?_line, ih]
    rfl

theorem checkedImports_of_forall (h : ∀ line ∈ lines, line ≠ checkingLine.toList) :
    checkedImports package lines = [] := by
  induction lines with
  | nil => rfl
  | cons line rest ih =>
    rw [List.forall_mem_cons] at h
    rw [checkedImports, beq_eq_false_iff_ne.2 h.1, ih h.2]
    rfl

theorem checkedImports_append (h : ∀ line ∈ front, line ≠ checkingLine.toList) :
    checkedImports package (front ++ back) = checkedImports package back := by
  induction front with
  | nil => rfl
  | cons line rest ih =>
    rw [List.forall_mem_cons] at h
    rw [List.cons_append, checkedImports, beq_eq_false_iff_ne.2 h.1, ih h.2]
    rfl

example : checkedImports "rpc" (["x = 1", "if TYPE_CHECKING:", "    from rpc import (",
    "        DOM,", "        Page,", "    )", "", "if TYPE_CHECKING:", "    from rpc import Log",
    "if TYPE_CHECKING:", "    pass"].map String.toList) =
      [some ["DOM", "Page"], some ["Log"], none] := by
  decide

end Lexical

open Lexical

namespace Module

def importLines (package : String) (domains : List String) : List (List Char) :=
  match domains with
  | [only] => [("    from " ++ package ++ " import " ++ only).toList]
  | _ => ("    from " ++ package ++ " import " ++ "(").toList ::
      (domains.map (fun name => ("        " ++ name ++ ",").toList) ++ ["    )".toList])

/-- Whether names may stand in an import: on one line each, and apart from the bracket that opens a
list of names. -/
def AreImportable (domains : List String) : Prop :=
  ∀ name ∈ domains, '\n' ∉ name.toList ∧ name ≠ "("

variable {package : String} {domains : List String}

/-- Several modules are imported over several lines. -/
theorem domainImport_of_length_ne_one (h : domains.length ≠ 1) :
    domainImport package domains = "    from " ++ package ++ " import " ++ "(" ++ "\n" ++
      "\n".intercalate (domains.map fun name => "        " ++ name ++ ",") ++ "\n" ++ "    )" := by
  unfold domainImport
  split
  · exact absurd rfl h
  · apply String.toList_inj.1
    simp [Naming.moduleName]

theorem importLines_of_length_ne_one (h : domains.length ≠ 1) :
    importLines package domains = ("    from " ++ package ++ " import " ++ "(").toList ::
      (domains.map (fun name => ("        " ++ name ++ ",").toList) ++ ["    )".toList]) := by
  unfold importLines
  split
  · exact absurd rfl h
  · rfl

theorem linesOf_domainImport (hpackage : '\n' ∉ package.toList) (hne : domains ≠ [])
    (h : AreImportable domains) :
    linesOf (domainImport package domains) = importLines package domains := by
  have hfrom : '\n' ∉ ("    from " ++ package ++ " import ").toList :=
    notMem_append (notMem_append (by decide) hpackage) (by decide)
  by_cases hlength : domains.length = 1
  · obtain ⟨only, rfl⟩ := List.length_eq_one_iff.1 hlength
    exact linesOf_of_notMem (notMem_append hfrom (h only (List.mem_singleton.2 rfl)).1)
  · have hentries : ∀ entry ∈ domains.map fun name => "        " ++ name ++ ",",
        '\n' ∉ entry.toList := by
      rw [List.forall_mem_map]
      exact fun name hname => notMem_append (notMem_append (by decide) (h name hname).1) (by decide)
    rw [domainImport_of_length_ne_one hlength, importLines_of_length_ne_one hlength, linesOf_append,
      linesOf_append, linesOf_of_notMem (notMem_append hfrom (by decide)),
      linesOf_intercalate (by simpa using hne) hentries, linesOf_of_notMem (by decide),
      List.map_map]
    rfl

theorem importedModules?_importLines (h : AreImportable domains) (back : List (List Char)) :
    importedModules? package (importLines package domains ++ back) = some domains := by
  by_cases hlength : domains.length = 1
  · obtain ⟨only, rfl⟩ := List.length_eq_one_iff.1 hlength
    have hbracket : (only.toList == ['(']) = false := by
      rw [beq_eq_false_iff_ne]
      intro heq
      exact (h only (List.mem_singleton.2 rfl)).2 (String.toList_inj.1 heq)
    rw [importLines, List.singleton_append, importedModules?, String.toList_append,
      dropPrefix?_append, Option.bind_eq_bind, Option.bind_some, hbracket, String.ofList_toList]
    rfl
  · have hbracket : ("(".toList == ['(']) = true := by decide
    rw [importLines_of_length_ne_one hlength, List.cons_append, importedModules?,
      String.toList_append, dropPrefix?_append, List.append_assoc, List.singleton_append,
      Option.bind_eq_bind, Option.bind_some, hbracket, if_pos rfl, modulesOn?_append]

theorem ne_checkingLine_of_mem_importLines {line : List Char}
    (hline : line ∈ importLines package domains) : line ≠ checkingLine.toList := by
  have hspace : line.head? = some ' ' := by
    unfold importLines at hline
    split at hline
    · rw [List.mem_singleton.1 hline]
      simp
    · rcases List.mem_cons.1 hline with rfl | hline
      · simp
      rcases List.mem_append.1 hline with hline | hline
      · obtain ⟨name, -, rfl⟩ := List.mem_map.1 hline
        simp
      · rw [List.mem_singleton.1 hline]
        rfl
  exact ne_checkingLine_of_head? hspace (by decide)

/-! ## The head of a module -/

variable {d : Domain}

/-- The blocks of a module's head behind its docstring, up to the imports for the type checker. -/
def frontBlocks (d : Domain) : List String :=
  let standard := standardImports (.documented d) d.name
  futureImport ::
    ((if standard.isEmpty then [] else ["\n".intercalate standard]) ++
      (if (Contents.documented d).commands.isEmpty then []
        else ["from chrome_remote_interface import session as _session"]))

/-- The block of a module's head that imports other modules, if there are any. -/
def checkingBlocks (package : String) (d : Domain) : List String :=
  let domains := (Contents.documented d).domains d.name
  if domains.isEmpty then [] else ["if TYPE_CHECKING:\n" ++ domainImport package domains]

theorem headBlocks_eq (package : String) (d : Domain) : headBlocks package d =
    frontBlocks d ++ (checkingBlocks package d ++ [exportList (definedNames d)]) := by
  rw [headBlocks, importBlocks, frontBlocks, checkingBlocks]
  simp only [List.cons_append, List.append_assoc]

theorem ne_checkingLine_of_mem_blockLines {blocks : List String} (h : ∀ b ∈ blocks, NoChecks b) :
    ∀ line ∈ blockLines blocks, line ≠ checkingLine.toList := by
  intro line hline
  obtain ⟨block, hblock, hline⟩ := List.mem_flatMap.1 hline
  rcases List.mem_cons.1 hline with rfl | hline
  · exact ne_checkingLine_nil
  · exact h block hblock line hline

theorem noChecks_of_mem_standardImports {contents : Contents} {current line : String}
    (h : line ∈ standardImports contents current) : NoChecks line := by
  have hplain := isPlain_of_mem_standardImports h
  have hhead : line.toList.head? = some 'f' := by
    rw [standardImports, List.mem_append] at h
    rcases h with h | h
    · split at h
      · cases h
      · rw [List.mem_singleton.1 h]
        rfl
    · split at h
      · cases h
      · rw [List.mem_singleton.1 h, String.toList_append]
        rfl
  exact eachLine_of_notMem hplain.notMem_lineFeed (ne_checkingLine_of_head? hhead (by decide))

theorem noChecks_of_mem_frontBlocks {block : String} (h : block ∈ frontBlocks d) :
    NoChecks block := by
  rw [frontBlocks, List.mem_cons, List.mem_append] at h
  rcases h with rfl | h | h
  · exact noChecks_of_notMem (by decide)
  · split at h
    · cases h
    · rw [List.mem_singleton.1 h]
      exact .lines ne_checkingLine_nil fun line hline => noChecks_of_mem_standardImports hline
  · split at h
    · cases h
    · rw [List.mem_singleton.1 h]
      exact noChecks_of_notMem (by decide)

theorem noChecks_exportList (d : Domain) : NoChecks (exportList (definedNames d)) := by
  have hnames : ∀ name ∈ experimentalName :: definedNames d, 'K' ∉ name.toList := by
    rw [List.forall_mem_cons]
    refine ⟨by decide, fun name hname => ?_⟩
    obtain ⟨f, -, -, rfl⟩ := mem_definedNames hname
    exact notMem_name f
  refine noChecks_of_notMem (notMem_append (notMem_append (by decide) ?_) (by decide))
  refine notMem_intercalate (by decide) (List.forall_mem_map.2 fun name hname => ?_)
  exact notMem_append (notMem_append (by decide) (hnames name hname)) (by decide)

/-- A domain whose annotations are quiet has a module with no other blocks for the type checker than
that of its head. -/
theorem exists_lines_documented (package version : String) (h : Accepts d)
    (hquiet : ∀ hint ∈ (Contents.documented d).hints, hint.IsQuiet) :
    ∃ front back, linesBehindDocstring? (documented package d version).source =
        some (front ++ (blockLines (checkingBlocks package d) ++ back)) ∧
      (∀ line ∈ front, line ≠ checkingLine.toList) ∧ ∀ line ∈ back, line ≠ checkingLine.toList := by
  obtain ⟨later, hlines, hlater⟩ := linesBehindDocstring?_documented package d version
  refine ⟨[] :: blockLines (frontBlocks d), blockLines [exportList (definedNames d)] ++ later, ?_,
    ?_, ?_⟩
  · rw [hlines, headBlocks_eq, blockLines_append, blockLines_append]
    simp only [List.cons_append, List.append_assoc]
  · rw [List.forall_mem_cons]
    exact ⟨ne_checkingLine_nil,
      ne_checkingLine_of_mem_blockLines fun block hblock => noChecks_of_mem_frontBlocks hblock⟩
  · rw [List.forall_mem_append]
    constructor
    · refine ne_checkingLine_of_mem_blockLines ?_
      rw [List.forall_mem_singleton]
      exact noChecks_exportList d
    · intro line hline
      rcases hlater line hline with rfl | ⟨f, hf, hline⟩
      · exact ne_checkingLine_nil
      · refine Definition.noChecks_text h hf (fun hint hhint => hquiet hint ?_) line hline
        rw [hints_documented]
        exact List.mem_flatMap.2 ⟨f, hf, hhint⟩

end Module

/-! ## Annotations on one line -/

namespace TypeHint

variable {hint : TypeHint}

theorem notMem_listOf {c : Char} {leaf : String} (hopen : c ∉ "list[".toList)
    (hclose : c ∉ "]".toList) (h : c ∉ leaf.toList) (n : Nat) : c ∉ (listOf n leaf).toList := by
  induction n with
  | zero => exact h
  | succ n ih => exact notMem_append (notMem_append hopen ih) hclose

theorem notMem_expression {c : Char} (hnull : c ∉ " | None".toList) (hquote : c ∉ "\"".toList)
    (h : c ∉ hint.target.toList) : c ∉ hint.expression.toList := by
  have htext : c ∉ hint.text.toList := by
    rw [text]
    split
    · exact notMem_append h hnull
    · exact h
  rw [expression]
  split
  · exact notMem_append (notMem_append hquote htext) hquote
  · exact htext

theorem isQuiet_of_isPlain (h : hint.IsPlain) : hint.IsQuiet :=
  Or.inl (notMem_expression (by decide) (by decide) h.target.notMem_lineFeed)

theorem isQuiet_of_notMem (h : 'K' ∉ hint.target.toList) : hint.IsQuiet :=
  Or.inr (notMem_expression (by decide) (by decide) h)

theorem notMem_primitiveName (name : String) : 'K' ∉ (primitiveName name).toList := by
  unfold primitiveName
  split <;> decide

end TypeHint

/-- The reference inside all arrays of a well-formed type is well-formed. -/
theorem TypeRef.IsWellFormed.of_leaf? {r : TypeRef} {reference : Reference} (h : r.IsWellFormed)
    (hleaf : r.leaf? = some reference) : reference.IsWellFormed := by
  induction r with
  | primitive name => cases hleaf
  | array items ih => exact ih h hleaf
  | named other =>
    obtain rfl := Option.some.inj hleaf
    exact h

namespace Module

open TypeHint

variable {d : Domain} {other : String}

/-! ## The domains that annotations name -/

/-- Whether an annotation of a domain's module names a type of another domain: the type that it is
the hint of refers to that domain, inside any number of arrays, and the type is written behind the
name of its domain. -/
def NamesDomain (d : Domain) (source other : String) : Prop :=
  ∃ f ∈ definitions d, ∃ r hint typeId, Annotates d f r hint ∧
    r.leaf? = some ⟨some other, typeId⟩ ∧
    hint.target = listOf r.arrays (other ++ "." ++ Naming.typeName typeId) ∧
    hint.expression.toList <:+: (f.text d).toList ∧ (f.text d).toList <:+: source.toList

theorem mem_domains_iff : other ∈ (Contents.documented d).domains d.name ↔
    (∃ hint ∈ (Contents.documented d).hints, other ∈ hint.domains) ∧ other ≠ d.name := by
  rw [Contents.domains, Ascending.mem_ofList, List.mem_filter, List.mem_flatMap]
  simp

/-- A module names no other domains than those that its annotations refer to. -/
theorem mem_domains_iff_namesDomain (package version : String) :
    other ∈ (Contents.documented d).domains d.name ↔
      NamesDomain d (documented package d version).source other := by
  rw [mem_domains_iff]
  constructor
  · rintro ⟨⟨hint, hhint, hmem⟩, hother⟩
    rcases exists_annotates_of_mem_hints hhint with ⟨f, hf, r, hannotates⟩ | ⟨name, rfl⟩
    · cases hleaf : r.leaf? with
      | none =>
        rw [(hannotates.of_leaf?_eq_none hleaf).2] at hmem
        cases hmem
      | some reference =>
        obtain ⟨domain, typeId⟩ := reference
        have hlinks := hannotates.linksTo hleaf
        rw [hlinks.domains] at hmem
        split at hmem
        · cases hmem
        · rename_i hdomain
          obtain rfl := List.mem_singleton.1 hmem
          cases domain with
          | none => exact absurd rfl hdomain
          | some domain =>
            refine ⟨f, hf, r, hint, typeId, hannotates, hleaf, ?_, hannotates.infix_text,
              infix_source package version hf⟩
            rw [hlinks.target, linkText, if_neg hother]
    · cases hmem
  · rintro ⟨f, hf, r, hint, typeId, hannotates, hleaf, htarget, -, -⟩
    have hlinks := hannotates.linksTo hleaf
    have hother : other ≠ d.name := by
      rintro rfl
      have htext := listOf_injective _ (hlinks.target.symm.trans htarget)
      have hlength := congrArg String.length htext
      simp [linkText] at hlength
    refine ⟨⟨hint, hannotates.mem_hints hf, ?_⟩, hother⟩
    rw [hlinks.domains]
    exact (if_neg hother).symm ▸ List.mem_singleton.2 rfl

/-- The hints of a domain that refers to no other one are quiet. -/
theorem isQuiet_of_domains_eq_nil (h : (Contents.documented d).domains d.name = [])
    {hint : TypeHint} (hhint : hint ∈ (Contents.documented d).hints) : hint.IsQuiet := by
  apply isQuiet_of_notMem
  rcases exists_annotates_of_mem_hints hhint with ⟨f, hf, r, hannotates⟩ | ⟨name, rfl⟩
  · cases hleaf : r.leaf? with
    | none =>
      obtain ⟨⟨name, hname⟩, -⟩ := hannotates.of_leaf?_eq_none hleaf
      rw [hname]
      exact notMem_listOf (by decide) (by decide) (notMem_primitiveName name) _
    | some reference =>
      have hlinks := hannotates.linksTo hleaf
      have hsame : reference.domain.getD d.name = d.name := by
        by_contra hother
        refine List.not_mem_nil (h ▸ mem_domains_iff.2 ⟨⟨hint, hhint, ?_⟩, hother⟩)
        rw [hlinks.domains]
        exact (if_neg hother).symm ▸ List.mem_singleton.2 rfl
      rw [hlinks.target, linkText, if_pos hsame, String.empty_append]
      exact notMem_listOf (by decide) (by decide)
        (notMem_name (.type { id := reference.typeId })) _
  · exact notMem_primitiveName name

/-- The domains that a module names are words, if its references can be written in a document. -/
theorem isPart_of_mem_domains (hwell : d.IsWellFormed)
    (h : other ∈ (Contents.documented d).domains d.name) : Reference.isPart other.toList := by
  obtain ⟨f, hf, r, hint, typeId, hannotates, hleaf, -⟩ := (mem_domains_iff_namesDomain "" "").1 h
  exact ((hannotates.isWellFormed hf hwell).of_leaf? hleaf).domain other rfl

/-- Words are importable. -/
theorem areImportable_domains (hwell : d.IsWellFormed) :
    AreImportable ((Contents.documented d).domains d.name) := by
  intro name hname
  have hpart := isPart_of_mem_domains hwell hname
  refine ⟨(isPlain_of_isPart hpart).notMem_lineFeed, ?_⟩
  rintro rfl
  exact absurd hpart (by decide)

/-! ## Exact imports -/

/-- The text of the block that imports modules for the type checker, behind an empty line; there is
none without modules. -/
def checkingText (package : String) : List String → String
  | [] => ""
  | [only] => "\n\nif TYPE_CHECKING:\n    from " ++ package ++ " import " ++ only
  | names =>
    "\n\nif TYPE_CHECKING:\n    from " ++ package ++ " import (\n" ++
      "\n".intercalate (names.map fun name => "        " ++ name ++ ",") ++ "\n    )"

/-- What the imports of a domain's module are to be. -/
structure ImportsExactly (package : String) (d : Domain) (m : Module) : Prop where
  ascending : m.domains.Pairwise (· < ·)
  notSelf : d.name ∉ m.domains
  /-- Exactly the domains that annotations name are imported. -/
  mem_iff : ∀ other, other ∈ m.domains ↔ NamesDomain d m.source other
  /-- They are imported right in front of the list of the module's names, by the first block for the
  type checker. -/
  written : ∃ front behind lines,
    m.source = front ++ checkingText package m.domains ++ "\n\n__all__ = [\n" ++ behind ∧
      linesBehindDocstring? front = some lines ∧ checkingLine.toList ∉ lines
  /-- Without such domains there is no block for the type checker. -/
  unopened : m.domains = [] →
    ∃ lines, linesBehindDocstring? m.source = some lines ∧ checkingLine.toList ∉ lines
  /-- If the names can be read, there is no other block, and its names are read back. -/
  read : Config.isPackageName package → d.IsWellFormed →
    ∃ lines, linesBehindDocstring? m.source = some lines ∧
      checkedImports package lines = if m.domains = [] then [] else [some m.domains]

theorem checkingText_eq (package : String) (domains : List String) :
    checkingText package domains = if domains.isEmpty then ""
      else "\n\n" ++ ("if TYPE_CHECKING:\n" ++ domainImport package domains) := by
  have hopening : "\n\nif TYPE_CHECKING:\n    from " =
      "\n\n" ++ ("if TYPE_CHECKING:\n" ++ "    from ") := by decide
  unfold checkingText domainImport
  split
  · rfl
  · rw [hopening, if_neg (by simp)]
    simp only [String.append_assoc]
  · rename_i hempty hone
    rw [hopening, if_neg (by simpa using hempty)]
    simp only [Naming.moduleName, String.append_assoc]

/-- The head of a module, with the text of its block for the type checker. -/
theorem head_eq_checkingText (package : String) (d : Domain) (version : String) :
    head package d version =
      moduleDocstring d version ++ "\n\n".intercalate ("" :: frontBlocks d) ++
        checkingText package ((Contents.documented d).domains d.name) ++ "\n\n" ++
          exportList (definedNames d) := by
  rw [head_eq_intercalate, headBlocks_eq, ← List.cons_append,
    intercalate_append (List.cons_ne_nil _ _) (by simp), checkingBlocks, checkingText_eq]
  split
  · rw [List.nil_append, String.intercalate_singleton, String.append_empty]
    simp only [String.append_assoc]
  · rw [List.singleton_append, String.intercalate_cons_cons, String.intercalate_singleton]
    simp only [String.append_assoc]

theorem exists_written (package : String) (d : Domain) (version : String) :
    ∃ front behind lines, (documented package d version).source =
        front ++ checkingText package ((Contents.documented d).domains d.name) ++
          "\n\n__all__ = [\n" ++ behind ∧
      linesBehindDocstring? front = some lines ∧ checkingLine.toList ∉ lines := by
  obtain ⟨behind, hsource⟩ := exists_source_eq package d version
  obtain ⟨exports, hexports⟩ : ∃ exports, ∀ rest, "\n\n" ++ (exportList (definedNames d) ++ rest) =
      "\n\n__all__ = [\n" ++ (exports ++ rest) := by
    have hgap : "\n\n__all__ = [\n" = "\n\n" ++ "__all__ = [\n" := by decide
    simp only [exportList, hgap, String.append_assoc]
    exact ⟨_ ++ _, fun rest => by rw [String.append_assoc]⟩
  refine ⟨moduleDocstring d version ++ "\n\n".intercalate ("" :: frontBlocks d),
    exports ++ "\n" ++ behind, _, ?_, linesBehindDocstring?_moduleDocstring d version _, ?_⟩
  · rw [hsource, head_eq_checkingText]
    simp only [String.append_assoc, hexports]
  · rw [linesOf_paragraphs, linesOf_empty, List.mem_append, List.mem_singleton, not_or]
    refine ⟨by decide, fun hmem => ?_⟩
    exact ne_checkingLine_of_mem_blockLines (fun b hb => noChecks_of_mem_frontBlocks hb) _ hmem rfl

/-- The lines of the block for the type checker, if there is one. -/
theorem blockLines_checkingBlocks (package : String)
    (hne : (Contents.documented d).domains d.name ≠ []) : blockLines (checkingBlocks package d) =
      [] :: checkingLine.toList ::
        linesOf (domainImport package ((Contents.documented d).domains d.name)) := by
  have hblock : "if TYPE_CHECKING:\n" = checkingLine ++ "\n" := by decide
  rw [checkingBlocks, if_neg (by simpa using hne), blockLines, List.flatMap_cons, List.flatMap_nil,
    List.append_nil, hblock, linesOf_append, linesOf_of_notMem (by decide)]
  rfl

theorem exists_unopened (package version : String) (h : Accepts d)
    (hnone : (Contents.documented d).domains d.name = []) :
    ∃ lines, linesBehindDocstring? (documented package d version).source = some lines ∧
      checkingLine.toList ∉ lines := by
  obtain ⟨front, back, hlines, hfront, hback⟩ := exists_lines_documented package version h
    fun hint hhint => isQuiet_of_domains_eq_nil hnone hhint
  refine ⟨_, hlines, ?_⟩
  rw [checkingBlocks, hnone, List.mem_append]
  rintro (hmem | hmem)
  · exact hfront _ hmem rfl
  · exact hback _ hmem rfl

theorem exists_read (version : String) {package : String} (h : Accepts d)
    (hpackage : Config.isPackageName package) (hwell : d.IsWellFormed)
    (hne : (Contents.documented d).domains d.name ≠ []) :
    ∃ lines, linesBehindDocstring? (documented package d version).source = some lines ∧
      checkedImports package lines = [some ((Contents.documented d).domains d.name)] := by
  obtain ⟨front, back, hlines, hfront, hback⟩ := exists_lines_documented package version h
    fun hint hhint => isQuiet_of_isPlain (isPlain_of_mem_hints hwell hhint)
  have himportable := areImportable_domains hwell
  have hblock := linesOf_domainImport
    (Config.isPlain_of_isPackageName hpackage).notMem_lineFeed hne himportable
  have hrest : ∀ line ∈ importLines package ((Contents.documented d).domains d.name) ++ back,
      line ≠ checkingLine.toList := by
    rw [List.forall_mem_append]
    exact ⟨fun line => ne_checkingLine_of_mem_importLines, hback⟩
  refine ⟨_, hlines, ?_⟩
  rw [checkedImports_append hfront, blockLines_checkingBlocks package hne, hblock,
    List.cons_append, List.cons_append, checkedImports,
    beq_eq_false_iff_ne.2 ne_checkingLine_nil, if_neg Bool.false_ne_true, checkedImports,
    beq_self_eq_true, if_pos rfl, importedModules?_importLines himportable,
    checkedImports_of_forall hrest]

/-- The imports of other modules are exact: the module of every accepted domain imports, for the
type checker only, the modules of exactly those other domains that its annotations name. -/
theorem importsExactly_of_ofDomain {package version : String} {m : Module}
    (h : ofDomain package d version = .ok m) : ImportsExactly package d m := by
  obtain ⟨haccepts, rfl⟩ := ofDomain_eq_ok_iff.1 h
  refine ⟨Ascending.pairwise_ofList _, fun hmem => (mem_domains_iff.1 hmem).2 rfl,
    fun other => mem_domains_iff_namesDomain package version, exists_written package d version,
    exists_unopened package version haccepts, fun hpackage hwell => ?_⟩
  by_cases hnone : (Contents.documented d).domains d.name = []
  · obtain ⟨lines, hlines, hmem⟩ := exists_unopened package version haccepts hnone
    refine ⟨lines, hlines, ?_⟩
    rw [checkedImports_of_forall fun line hline => ne_of_mem_of_not_mem hline hmem]
    exact (if_pos hnone).symm
  · obtain ⟨lines, hlines, hread⟩ := exists_read version haccepts hpackage hwell hnone
    exact ⟨lines, hlines, hread.trans (if_neg hnone).symm⟩

/-- A domain that refers to four others: inside arrays, in a field that is overwritten, in a
parameter and in a value that may be absent. -/
def linkedDomain : Domain where
  name := "Network"
  types :=
    [{ id := "Frames", shape := .array (.array (.named ⟨some "Page", "FrameId"⟩)) },
      { id := "Info", shape := .object, properties :=
        [{ name := "node", typeRef := .named ⟨some "DOM", "NodeId"⟩ },
          { name := "node", typeRef := .named ⟨some "Network", "Frames"⟩ }] }]
  commands :=
    [{ name := "get"
       parameters := [{ name := "entry", typeRef := .named ⟨some "Log", "Entry"⟩ }]
       returns :=
        [{ name := "object", typeRef := .named ⟨some "Runtime", "Id"⟩, optional := true }] }]

theorem importsExactly_linkedDomain : ∃ m lines, ofDomain "rpc" linkedDomain "tot" = .ok m ∧
    m.domains = ["Page", "Runtime"] ∧ ¬NamesDomain linkedDomain m.source "DOM" ∧
      linesBehindDocstring? m.source = some lines ∧
        checkedImports "rpc" lines = [some ["Page", "Runtime"]] := by
  have hm : ofDomain "rpc" linkedDomain "tot" = .ok (documented "rpc" linkedDomain "tot") :=
    ofDomain_of_isOk (by decide)
  have hdomains : (documented "rpc" linkedDomain "tot").domains = ["Page", "Runtime"] := by
    decide
  have hexact := importsExactly_of_ofDomain hm
  have hwell : linkedDomain.IsWellFormed := by
    have hword : ∀ domain typeId : String, Reference.isPart domain.toList →
        Reference.isPart typeId.toList → Reference.IsWellFormed ⟨some domain, typeId⟩ :=
      fun domain typeId hdomain htype => ⟨htype, by simpa using hdomain⟩
    refine ⟨?_, ?_, ?_⟩
    · simp only [linkedDomain, List.forall_mem_cons, TypeShape.items?, Option.mem_some_iff,
        forall_eq']
      exact ⟨hword _ _ (by decide) (by decide), by simp, by simp⟩
    · simp only [linkedDomain, List.forall_mem_cons]
      exact ⟨by simp, ⟨hword _ _ (by decide) (by decide), hword _ _ (by decide) (by decide),
        by simp⟩, by simp⟩
    · simp only [linkedDomain, List.forall_mem_cons]
      exact ⟨⟨hword _ _ (by decide) (by decide), by simp⟩, by simp⟩
  obtain ⟨lines, hlines, hread⟩ := hexact.read (by decide) hwell
  rw [hdomains] at hread
  refine ⟨_, lines, hm, hdomains, fun hnames => ?_, hlines, hread⟩
  have hmem := (hexact.mem_iff "DOM").2 hnames
  rw [hdomains] at hmem
  exact absurd hmem (by decide)

end Module

end ProtocolBindings
