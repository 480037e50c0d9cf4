import ProtocolBindings.Proofs.Schema.ReferenceText
import ProtocolBindings.Proofs.Source.Typing

/-!
# Names in imports

An import takes names out of a package, and each of them, and each part of the package's name, has
to be an identifier that is no keyword.  The parts of a package's name and the names of the domains
of a schema are checked to be identifiers, and the domain of a reference to be a word.  So what can
go wrong is that one of them is a keyword, or that a word has a character that no identifier has.
-/

namespace ProtocolBindings

open Lexical

/-- Whether a name may stand in an import. -/
def IsImportName (name : String) : Prop :=
  Text.isIdentifier name ∧ name ∉ Naming.keywords

def packageParts (package : String) : List String :=
  (Text.pieces (· == '.') package.toList).map String.ofList

/-- Whether a module can be imported by its name, and whether every block for the type checker in
its text is an import of such names out of a package with such parts. -/
structure Module.ImportsByNames (package : String) (m : Module) : Prop where
  own : IsImportName m.moduleName
  others : ∃ lines, linesBehindDocstring? m.source = some lines ∧
    ∀ imported ∈ checkedImports package lines, ∃ names, imported = some names ∧ names ≠ [] ∧
      (∀ part ∈ packageParts package, IsImportName part) ∧ ∀ name ∈ names, IsImportName name

/-! ## Identifiers -/

theorem Config.isPackageName_iff {package : String} :
    isPackageName package ↔ ∀ part ∈ packageParts package, Text.isIdentifier part := by
  rw [isPackageName, packageParts, List.all_eq_true, List.forall_mem_map]

/-- Basic letters and the low line may begin an identifier. -/
theorem Text.isIdentifierStart_of_isBasic {c : Char}
    (h : 'A' ≤ c ∧ c ≤ 'Z' ∨ 'a' ≤ c ∧ c ≤ 'z' ∨ c = '_') : isIdentifierStart c :=
  of_isBasic (p := fun c => isIdentifierStart c) (by decide) (by decide)
    (by decide) h

/-- A word is an identifier if its characters may continue one. -/
theorem Reference.isIdentifier_iff {name : String} (h : IsWord name) :
    Text.isIdentifier name ↔ ∀ c ∈ name.toList, Text.isIdentifierContinue c := by
  constructor
  · exact Text.all_continue_of_isIdentifierChars
  · intro hcontinue
    obtain ⟨first, rest, hname, hfirst, -⟩ := h
    rw [hname, List.forall_mem_cons] at hcontinue
    rw [Text.isIdentifier, hname, Text.isIdentifierChars, Bool.and_eq_true, List.all_eq_true]
    exact ⟨Text.isIdentifierStart_of_isBasic hfirst, hcontinue.2⟩

/-! ## Modules -/

namespace Module

variable {d : Domain} {package : String}

/-- What the names that a module imports have to be. -/
structure MayBeImported (package other : String) : Prop where
  noKeyword : other ∉ Naming.keywords
  continues : ∀ c ∈ other.toList, Text.isIdentifierContinue c
  package : ∀ part ∈ packageParts package, part ∉ Naming.keywords

theorem mayBeImported_iff {other : String} (hpackage : Config.isPackageName package)
    (hother : Reference.IsWord other) : MayBeImported package other ↔
      (∀ part ∈ packageParts package, IsImportName part) ∧ IsImportName other := by
  have hparts := Config.isPackageName_iff.1 hpackage
  rw [IsImportName, Reference.isIdentifier_iff hother]
  constructor
  · intro h
    exact ⟨fun part hpart => ⟨hparts part hpart, h.package part hpart⟩, h.continues, h.noKeyword⟩
  · rintro ⟨hpackage, hcontinues, hkeyword⟩
    exact ⟨hkeyword, hcontinues, fun part hpart => (hpackage part hpart).2⟩

/-- The block of a module's head for the type checker is read as one import. -/
theorem exists_checkedImports (version : String) (h : Accepts d)
    (hpackage : Config.isPackageName package) (hwell : d.IsWellFormed) :
    ∃ lines, linesBehindDocstring? (documented package d version).source = some lines ∧
      ∀ imported, imported ∈ checkedImports package lines ↔
        imported = some ((Contents.documented d).domains d.name) ∧
          (Contents.documented d).domains d.name ≠ [] := by
  by_cases hnone : (Contents.documented d).domains d.name = []
  · obtain ⟨lines, hlines, hmem⟩ := exists_unopened package version h hnone
    refine ⟨lines, hlines, ?_⟩
    rw [checkedImports_of_forall fun line hline => ne_of_mem_of_not_mem hline hmem]
    simp [hnone]
  · obtain ⟨lines, hlines, hread⟩ := exists_read version h hpackage hwell hnone
    refine ⟨lines, hlines, ?_⟩
    rw [hread]
    simp [hnone]

/-- The domains that a module names are words, if its references can be written in a document. -/
theorem isWord_of_mem_domains {other : String} (hwell : d.IsWellFormed)
    (h : other ∈ (Contents.documented d).domains d.name) : Reference.IsWord other :=
  Reference.isPart_toList_iff.1 (isPart_of_mem_domains hwell h)

/-- Whether the module of an accepted domain imports by names is decided by its own name, the
domains that its annotations name and the name of the package. -/
theorem importsByNames_documented_iff (version : String) (h : Accepts d)
    (hpackage : Config.isPackageName package) (hwell : d.IsWellFormed) :
    (documented package d version).ImportsByNames package ↔
      d.name ∉ Naming.keywords ∧
        ∀ other, NamesDomain d (documented package d version).source other →
          MayBeImported package other := by
  obtain ⟨lines, hlines, hread⟩ := exists_checkedImports version h hpackage hwell
  constructor
  · rintro ⟨hown, lines', hlines', hothers⟩
    obtain rfl := Option.some.inj (hlines.symm.trans hlines')
    refine ⟨hown.2, ?_⟩
    intro other hnames
    have hmem := (mem_domains_iff_namesDomain package version).2 hnames
    obtain ⟨names, hsome, -, hparts, himported⟩ :=
      hothers _ ((hread _).2 ⟨rfl, List.ne_nil_of_mem hmem⟩)
    obtain rfl := Option.some.inj hsome
    rw [mayBeImported_iff hpackage (isWord_of_mem_domains hwell hmem)]
    exact ⟨hparts, himported other hmem⟩
  · rintro ⟨hown, hothers⟩
    refine ⟨⟨h.domainName, hown⟩, lines, hlines, ?_⟩
    intro imported himported
    obtain ⟨rfl, hne⟩ := (hread imported).1 himported
    have hnames : ∀ other ∈ (Contents.documented d).domains d.name,
        (∀ part ∈ packageParts package, IsImportName part) ∧ IsImportName other := by
      intro other hother
      rw [← mayBeImported_iff hpackage (isWord_of_mem_domains hwell hother)]
      exact hothers other ((mem_domains_iff_namesDomain package version).1 hother)
    obtain ⟨first, hfirst⟩ := List.exists_mem_of_ne_nil _ hne
    exact ⟨_, rfl, hne, (hnames first hfirst).1, fun other hother => (hnames other hother).2⟩

end Module

/-! ## Packages -/

namespace Package

/-- The modules that are generated for a schema can be imported, and import each other, by
identifiers that are no keywords, exactly if no domain is called like a keyword and this holds of
every other domain that an annotation of a module names: it is called like no keyword, its word has
only characters of identifiers, and no part of the package's name, out of which it is imported, is a
keyword. -/
theorem importsByNames_iff [Host] {version : ProtocolVersion} {document : Json} {schema : Schema}
    {package : String} {modules : List Module}
    (hschema : Schema.ofJson version document = .ok schema)
    (hpackage : Config.isPackageName package)
    (hmodules : Package.modules package schema = .ok modules) :
    (∀ m ∈ modules, m.ImportsByNames package) ↔
      ∀ d ∈ schema.domains, d.name ∉ Naming.keywords ∧
        ∀ m, Module.ofDomain package d schema.version = .ok m →
          ∀ other, Module.NamesDomain d m.source other → Module.MayBeImported package other := by
  obtain ⟨haccepts, rfl⟩ := modules_eq_ok_iff.1 hmodules
  rw [List.forall_mem_map]
  refine forall₂_congr ?_
  intro d hd
  have hwell := Schema.isWellFormed_of_ofJson hschema hd
  rw [Module.importsByNames_documented_iff schema.version (haccepts d hd) hpackage hwell]
  simp [Module.ofDomain_eq_ok_iff, haccepts d hd]

/-- An array of frames of another domain. -/
def linkNode (other : String) : Json :=
  .object [("id", .string "Frames"), ("type", .string "array"),
    ("items", .object [("$ref", .string (other ++ "." ++ "Frame"))])]

/-- A document with a domain that has such an array. -/
def linkDocument (other : String) : Json :=
  .object [("domains", .array [.object
    [("domain", .string "Page"), ("types", .array [linkNode other])]])]

def linkSchema (other : String) : Schema where
  version := "tot"
  domains := [Module.framesDomain other []]

theorem ofJson_linkDocument [Host] {other : String} (h : Reference.IsWord other) :
    Schema.ofJson (.select none) (linkDocument other) = .ok (linkSchema other) := by
  have hframe : Reference.IsWord "Frame" := Reference.isPart_toList_iff.1 (by decide)
  have hreference : TypeRef.ofJson (.object [("$ref", .string (other ++ "." ++ "Frame"))]) =
      .ok (.named ⟨some other, "Frame"⟩) := by
    have hparse := Reference.parse_eq_ok_iff_isWrittenAs.2 ⟨_, rfl, .behindDomain h hframe⟩
    rw [TypeRef.ofJson, TypeRef.ofMembers]
    change Except.mapError _ (Except.map _ (Reference.parse _)) = _
    rw [hparse]
    rfl
  have hshape : TypeShape.ofJson (linkNode other) =
      .ok (.array (.named ⟨some other, "Frame"⟩)) := by
    have hnesting :
        TypeRef.nesting (.object [("$ref", .string (other ++ "." ++ "Frame"))]) = 1 := by
      simp [TypeRef.nesting, List.lookup_cons]
    change (TypeRef.requireShallow (TypeRef.nesting _) >>= fun _ =>
      TypeRef.itemsOf _).map TypeShape.array = _
    have hshallow : TypeRef.requireShallow 1 = .ok () :=
      TypeRef.requireShallow_eq_ok_iff.2 Host.typeDepth_pos
    rw [hnesting, hshallow, TypeRef.itemsOf, if_neg (by decide), TypeRef.itemsOf,
      if_neg (by decide), TypeRef.itemsOf, if_pos (by decide), hreference]
    rfl
  have hframes : TypeDef.IsBuiltFrom (linkNode other)
      { id := "Frames", shape := .array (.named ⟨some other, "Frame"⟩) } :=
    ⟨⟨_, rfl⟩, rfl, hshape, ⟨[], rfl, .nil⟩, rfl, rfl, rfl, rfl, rfl⟩
  rw [Schema.ofJson_eq_ok_iff]
  refine ⟨rfl, ⟨_, rfl, .cons ?_ .nil⟩, List.nodup_singleton _⟩
  exact ⟨⟨_, rfl⟩, rfl, ⟨_, rfl, .cons hframes .nil⟩, ⟨[], rfl, .nil⟩, ⟨[], rfl, rfl⟩, rfl, rfl,
    rfl, List.nodup_singleton _⟩

/-- Its module is generated whatever the domain of the reference is called. -/
theorem modules_linkSchema (package other : String) :
    Package.modules package (linkSchema other) =
      .ok [Module.documented package (Module.framesDomain other []) "tot"] := by
  have hdomain : Text.isIdentifier "Page" := by decide
  have htype : Text.isIdentifier (Naming.typeName "Frames") := by decide
  refine modules_eq_ok_iff.2 ⟨?_, rfl⟩
  intro d hd
  obtain rfl := List.mem_singleton.1 hd
  refine ⟨hdomain, ?_, ?_, List.nodup_singleton _⟩
  · intro t ht
    obtain rfl := List.mem_singleton.1 ht
    exact htype
  · intro c hc
    cases hc

theorem namesDomain_framesDomain_iff {package version other name : String} (h : other ≠ "Page") :
    Module.NamesDomain (Module.framesDomain other [])
      (Module.documented package (Module.framesDomain other []) version).source name ↔
        name = other := by
  have hlinks := TypeHint.linksTo_ofTypeRef "Page" (r := .array (.named ⟨some other, "Frame"⟩)) rfl
  have hdomains := hlinks.domains.trans (if_neg h)
  have hhints : (Module.Contents.documented (Module.framesDomain other [])).hints =
      [TypeHint.ofTypeRef "Page" (.array (.named ⟨some other, "Frame"⟩))] :=
    rfl
  have hname : (Module.framesDomain other []).name = "Page" := rfl
  rw [← Module.mem_domains_iff_namesDomain, Module.mem_domains_iff, hhints, hname]
  simp only [List.mem_singleton, exists_eq_left, hdomains, Option.getD_some, ne_eq]
  exact and_iff_left_of_imp fun hsame => hsame ▸ h

theorem importsByNames_link :
    Schema.ofJson (.select none) (linkDocument "DOM") = .ok (linkSchema "DOM") ∧
      Config.isPackageName defaultName ∧
      ∃ modules, Package.modules defaultName (linkSchema "DOM") = .ok modules ∧
        ∀ m ∈ modules, m.ImportsByNames defaultName := by
  have hword : Reference.IsWord "DOM" := Reference.isPart_toList_iff.1 (by decide)
  have hschema := ofJson_linkDocument hword
  have hpackage : Config.isPackageName defaultName := by decide
  have hmodules := modules_linkSchema defaultName "DOM"
  refine ⟨hschema, hpackage, _, hmodules, (importsByNames_iff hschema hpackage hmodules).2 ?_⟩
  intro d hd
  obtain rfl := List.mem_singleton.1 hd
  refine ⟨by decide, ?_⟩
  intro m hm other hother
  obtain ⟨-, rfl⟩ := Module.ofDomain_eq_ok_iff.1 hm
  obtain rfl := (namesDomain_framesDomain_iff (by decide)).1 hother
  have hidentifier : Text.isIdentifier "DOM" := by decide
  exact ⟨by decide, (Reference.isIdentifier_iff hword).1 hidentifier, by decide⟩

theorem exists_not_importsByNames {package other : String} (hword : Reference.IsWord other)
    (hpackage : Config.isPackageName package) (hother : other ≠ "Page")
    (hmay : ¬Module.MayBeImported package other) :
    ∃ m, Package.modules package (linkSchema other) = .ok [m] ∧ ¬m.ImportsByNames package := by
  have hmodules := modules_linkSchema package other
  refine ⟨_, hmodules, ?_⟩
  intro himports
  have hwell := Schema.isWellFormed_of_ofJson (ofJson_linkDocument hword) (List.mem_singleton.2 rfl)
  have haccepts := (modules_eq_ok_iff.1 hmodules).1 _ (List.mem_singleton.2 rfl)
  rw [Module.importsByNames_documented_iff "tot" haccepts hpackage hwell] at himports
  exact hmay (himports.2 other ((namesDomain_framesDomain_iff hother).2 rfl))

/-- A domain that a reference names is imported even if its word is no identifier, and even if it is
a keyword. -/
theorem not_importsByNames_link :
    Config.isPackageName defaultName ∧
      (Schema.ofJson (.select none) (linkDocument "A²") = .ok (linkSchema "A²") ∧
        ∃ m, Package.modules defaultName (linkSchema "A²") = .ok [m] ∧
          ¬m.ImportsByNames defaultName) ∧
      Schema.ofJson (.select none) (linkDocument "class") = .ok (linkSchema "class") ∧
        ∃ m, Package.modules defaultName (linkSchema "class") = .ok [m] ∧
          ¬m.ImportsByNames defaultName := by
  have hpackage : Config.isPackageName defaultName := by decide
  have hsquared : Reference.IsWord "A²" := Reference.isPart_toList_iff.1 (by decide)
  have hclass : Reference.IsWord "class" := Reference.isPart_toList_iff.1 (by decide)
  refine ⟨hpackage, ⟨ofJson_linkDocument hsquared, ?_⟩, ofJson_linkDocument hclass, ?_⟩
  · apply exists_not_importsByNames hsquared hpackage (by decide)
    intro hmay
    exact absurd (hmay.continues '²' (by decide)) (by decide)
  · apply exists_not_importsByNames hclass hpackage (by decide)
    intro hmay
    exact hmay.noKeyword (by decide)

end Package

end ProtocolBindings
