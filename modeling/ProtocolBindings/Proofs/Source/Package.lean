import ProtocolBindings.Proofs.Generation.Names
import ProtocolBindings.Proofs.Source.Listing

/-!
# The files of a package

A package has a file for each domain, called after it, and one that lists the domains.  The
manifest records every file once, with the domain that it belongs to.  The file of the list is
called `__init__.py`, so the module of a domain with the name `__init__` would need that file
too, and the list takes it.  No other domain is lost.
-/

namespace ProtocolBindings

open Lexical Results

namespace Manifest

variable {schema : Schema} {files : List (String × String)} {d : Domain} {name text : String}

/-- A file called after a domain belongs to that domain. -/
theorem domainOf?_of_mem (hd : d ∈ schema.domains) :
    domainOf? schema (d.name ++ Package.ending) = some d.name := by
  rw [domainOf?, Package.ending]
  cases hfind : schema.domains.find? fun other => other.name ++ ".py" == d.name ++ ".py" with
  | none =>
    have hother := List.find?_eq_none.1 hfind d hd
    simp at hother
  | some other =>
    have hsame : other.name ++ ".py" = d.name ++ ".py" := by
      simpa using List.find?_some hfind
    rw [Option.map_some, (String.append_left_inj _).1 hsame]

/-- A file that no domain is called after belongs to none. -/
theorem domainOf?_eq_none (h : name ∉ schema.domainNames) :
    domainOf? schema (name ++ Package.ending) = none := by
  rw [domainOf?, Option.map_eq_none_iff, List.find?_eq_none]
  intro d hd heq
  have hsame : d.name = name := (String.append_left_inj _).1 (beq_iff_eq.1 heq)
  exact h (List.mem_map.2 ⟨d, hd, hsame⟩)

def recordOf (schema : Schema) (file : String × String) : OutputInfo where
  path := file.1
  hash := contentHash file.2
  domain := domainOf? schema file.1

theorem outputsOf_perm (schema : Schema) (files : List (String × String)) :
    (outputsOf schema files).Perm (files.map (recordOf schema)) :=
  (List.mergeSort_perm files _).map _

/-- A file with a name of its own has one record. -/
theorem filter_outputsOf (schema : Schema) (hnodup : (files.map (·.1)).Nodup)
    (hfile : (name, text) ∈ files) :
    (outputsOf schema files).filter (·.path == name) = [recordOf schema (name, text)] := by
  have hperm := (outputsOf_perm schema files).filter (·.path == name)
  have hrecords : (files.map (recordOf schema)).filter (·.path == name) =
      [recordOf schema (name, text)] := by
    rw [List.filter_map]
    exact congrArg (List.map (recordOf schema)) (Entries.filter_eq_singleton hnodup hfile)
  rw [hrecords] at hperm
  exact List.perm_singleton.1 hperm

end Manifest

namespace Package

variable {package : String} {schema : Schema} {files : List (String × String)} {d : Domain}

/-- The name of the file that lists the domains, without its ending. -/
def indexStem : String := "__init__"

def fileOf (package : String) (schema : Schema) (d : Domain) : String × String :=
  (d.name ++ ending, (Module.documented package d schema.version).source)

theorem files_eq_ok_iff : Package.files package schema = .ok files ↔
    (∀ d ∈ schema.domains, Module.Accepts d) ∧
      files = Entries.set indexName (indexSource schema)
        (Entries.ofList (schema.domains.map (fileOf package schema))) := by
  rw [Package.files, map_eq_ok_iff]
  constructor
  · rintro ⟨modules, hmodules, rfl⟩
    obtain ⟨haccepts, rfl⟩ := modules_eq_ok_iff.1 hmodules
    refine ⟨haccepts, ?_⟩
    rw [filesOf, List.map_map]
    rfl
  · rintro ⟨haccepts, rfl⟩
    refine ⟨_, modules_eq_ok_iff.2 ⟨haccepts, rfl⟩, ?_⟩
    rw [filesOf, List.map_map]
    rfl

theorem map_fst_fileOf (package : String) (schema : Schema) :
    (schema.domains.map (fileOf package schema)).map (·.1) =
      schema.domainNames.map (· ++ ending) := by
  rw [Schema.domainNames, List.map_map, List.map_map]
  rfl

/-- Domains with distinct names have files with distinct names. -/
theorem nodup_map_fst_fileOf (hnames : schema.domainNames.Nodup) :
    ((schema.domains.map (fileOf package schema)).map (·.1)).Nodup := by
  rw [map_fst_fileOf]
  exact hnames.map fun a b heq => (String.append_left_inj _).1 heq

theorem indexName_mem_iff : indexName ∈ (schema.domains.map (fileOf package schema)).map (·.1) ↔
    indexStem ∈ schema.domainNames := by
  have hname : indexName = indexStem ++ ending := by decide
  rw [map_fst_fileOf, List.mem_map, hname]
  constructor
  · rintro ⟨name, hmem, heq⟩
    rwa [← (String.append_left_inj _).1 heq]
  · exact fun hmem => ⟨_, hmem, rfl⟩

/-- The files of the domains in their order, and behind them the list. -/
theorem eq_of_notMem (h : Package.files package schema = .ok files)
    (hnames : schema.domainNames.Nodup) (hindex : indexStem ∉ schema.domainNames) :
    files = schema.domains.map (fileOf package schema) ++ [(indexName, indexSource schema)] := by
  rw [(files_eq_ok_iff.1 h).2, Entries.ofList_of_nodup (nodup_map_fst_fileOf hnames),
    Entries.set_of_notMem (mt indexName_mem_iff.1 hindex)]

/-- The list takes the file of a domain that is called like it. -/
theorem length_of_mem (h : Package.files package schema = .ok files)
    (hnames : schema.domainNames.Nodup) (hindex : indexStem ∈ schema.domainNames) :
    files.length = schema.domains.length := by
  rw [(files_eq_ok_iff.1 h).2, Entries.ofList_of_nodup (nodup_map_fst_fileOf hnames),
    Entries.length_set_of_mem (indexName_mem_iff.2 hindex), List.length_map]

/-! ## The list of the domains -/

/-- The text in front of the list of domains. -/
def indexFront (schema : Schema) : String :=
  "\n".intercalate
    [Doc.tripleQuote ++ "Chrome DevTools Protocol domains, version '" ++ schema.version ++ "'.",
      "",
      "Generated by chrome-remote-interface. Do not edit.",
      Doc.tripleQuote,
      "",
      "PROTOCOL_VERSION = \"" ++ schema.version ++ "\"",
      ""]

/-- The text behind the list of domains. -/
def indexBack : String :=
  "\n".intercalate
    ["",
      "",
      "def protocol_version() -> str:",
      "    " ++ Doc.tripleQuote ++ "Gets the current version of the Chrome DevTools Protocol." ++
        Doc.tripleQuote,
      "    return PROTOCOL_VERSION",
      ""]

theorem linesOf_indexBack : linesOf indexBack =
    ["", "", "def protocol_version() -> str:",
      "    " ++ Doc.tripleQuote ++ "Gets the current version of the Chrome DevTools Protocol." ++
        Doc.tripleQuote,
      "    return PROTOCOL_VERSION", ""].map String.toList :=
  linesOf_intercalate (List.cons_ne_nil _ _) (by decide)

/-- What opens the list of the domains, and what closes it. -/
def openingOfDomains : String := "DOMAINS = ("

def closingOfDomains : String := ")"

def domainList (names : List String) : String :=
  if names.isEmpty then openingOfDomains ++ closingOfDomains
  else listText openingOfDomains closingOfDomains names

theorem indexSource_eq (schema : Schema) :
    indexSource schema =
      indexFront schema ++ "\n" ++ domainList schema.domainNames ++ "\n" ++ indexBack := by
  have hempty : "DOMAINS = ()" = openingOfDomains ++ closingOfDomains := by decide
  have hopening : "DOMAINS = (\n" = openingOfDomains ++ "\n" := by decide
  have hclosing : "\n)" = "\n" ++ closingOfDomains := by decide
  have hlist : (if schema.domainNames.isEmpty then "DOMAINS = ()"
      else "DOMAINS = (\n" ++
        "\n".intercalate (schema.domainNames.map fun n => "    \"" ++ n ++ "\",") ++ "\n)") =
      domainList schema.domainNames := by
    rw [domainList, listText, hempty, hopening, hclosing]
    simp only [String.append_assoc]
    rfl
  rw [indexSource, hlist, indexFront, indexBack]
  simp only [String.intercalate_cons_cons, String.intercalate_singleton, String.append_assoc]

/-- The list of domains names them in the order of the schema. -/
theorem listed?_indexSource (h : ∀ name ∈ schema.domainNames, IsPlain name) :
    listed? openingOfDomains closingOfDomains (indexSource schema) = some schema.domainNames := by
  have hback : ∀ line ∈ linesOf indexBack, ¬openingOfDomains.toList <+: line := by
    rw [linesOf_indexBack, List.forall_mem_map]
    decide
  have hlines : linesOf (indexSource schema) = linesOf (indexFront schema) ++
      (linesOf (domainList schema.domainNames) ++ linesOf indexBack) := by
    rw [indexSource_eq, linesOf_append, linesOf_append, List.append_assoc]
  cases hnames : schema.domainNames with
  | nil =>
    have hlist : linesOf (domainList []) = [(openingOfDomains ++ closingOfDomains).toList] := by
      decide
    rw [hnames, hlist, List.singleton_append] at hlines
    exact listed?_eq_nil hlines (by decide) hback
  | cons first rest =>
    rw [hnames] at h
    have hlist : linesOf (listText openingOfDomains closingOfDomains (first :: rest)) = _ :=
      linesOf_listText (by decide) (by decide) (List.cons_ne_nil _ _) h
    rw [hnames, domainList, if_neg (by simp), hlist, List.cons_append, List.append_assoc,
      List.singleton_append] at hlines
    refine listed?_eq hlines h ?_ ?_ ?_
    · intro n hprefix
      simp [openingOfDomains, entryLine] at hprefix
    · intro n heq
      simp [closingOfDomains, entryLine] at heq
    · rw [List.forall_mem_cons]
      exact ⟨by decide, hback⟩

/-! ## One file for each domain -/

/-- What the files of a package are to hold: a module for each domain, the list of the domains,
and nothing else; and what their manifest records of them. -/
structure HoldsEveryDomain (package : String) (schema : Schema) (files : List (String × String)) :
    Prop where
  length : files.length = schema.domains.length + 1
  /-- Every domain has its module in the file called after it, and one record of that file. -/
  domain : ∀ d ∈ schema.domains, ∃ m, Module.ofDomain package d schema.version = .ok m ∧
    files.lookup (d.name ++ ".py") = some m.source ∧
      (Manifest.ofFiles package schema files).outputs.filter (·.path == d.name ++ ".py") =
        [{ path := d.name ++ ".py"
           hash := Manifest.contentHash m.source
           domain := some d.name }]
  /-- The list names the domains in order; the one record of its file names none. -/
  index : ∃ text, files.lookup "__init__.py" = some text ∧ text = indexSource schema ∧
    listed? "DOMAINS = (" ")" text = some schema.domainNames ∧
      (Manifest.ofFiles package schema files).outputs.filter (·.path == "__init__.py") =
        [{ path := "__init__.py"
           hash := Manifest.contentHash text
           domain := none }]
  /-- There are no records but those of the files. -/
  outputs : ((Manifest.ofFiles package schema files).outputs.map (·.path)).Perm (files.map (·.1))

/-- No domain of a generated package is lost, unless one is called like the file that lists the
domains. -/
theorem holdsEveryDomain_iff (h : Package.files package schema = .ok files)
    (hnames : schema.domainNames.Nodup) :
    HoldsEveryDomain package schema files ↔ indexStem ∉ schema.domainNames := by
  have haccepts := (files_eq_ok_iff.1 h).1
  have hnodup : (files.map (·.1)).Nodup := nodup_names h
  constructor
  · intro hholds hindex
    have hlength := hholds.length
    rw [length_of_mem h hnames hindex] at hlength
    omega
  · intro hindex
    have hfiles := eq_of_notMem h hnames hindex
    have hmodule : ∀ d ∈ schema.domains, fileOf package schema d ∈ files := by
      intro d hd
      rw [hfiles]
      exact List.mem_append_left _ (List.mem_map.2 ⟨d, hd, rfl⟩)
    have hlist : (indexName, indexSource schema) ∈ files := by
      rw [hfiles]
      exact List.mem_append_right _ (List.mem_singleton.2 rfl)
    have hplain : ∀ name ∈ schema.domainNames, IsPlain name := by
      intro name hname
      obtain ⟨d, hd, rfl⟩ := List.mem_map.1 hname
      exact isPlain_of_isIdentifier (haccepts d hd).domainName
    have hnone : Manifest.domainOf? schema indexName = none :=
      Manifest.domainOf?_eq_none hindex
    refine ⟨?_, ?_, ?_, ?_⟩
    · rw [hfiles, List.length_append, List.length_map, List.length_singleton]
    · intro d hd
      refine ⟨_, Module.ofDomain_eq_ok_iff.2 ⟨haccepts d hd, rfl⟩,
        Entries.lookup_eq_some_of_mem hnodup (hmodule d hd), ?_⟩
      have hrecord := Manifest.filter_outputsOf schema hnodup (hmodule d hd)
      rw [Manifest.recordOf, Manifest.domainOf?_of_mem hd] at hrecord
      exact hrecord
    · refine ⟨_, Entries.lookup_eq_some_of_mem hnodup hlist, rfl, listed?_indexSource hplain, ?_⟩
      have hrecord := Manifest.filter_outputsOf schema hnodup hlist
      rw [Manifest.recordOf, hnone] at hrecord
      exact hrecord
    · have hperm := (Manifest.outputsOf_perm schema files).map (·.path)
      rw [List.map_map] at hperm
      exact hperm

/-- A schema of domains without contents. -/
def schemaOf (names : List String) : Schema where
  version := "tot"
  domains := names.map fun name => { name }

theorem domainNames_schemaOf (names : List String) : (schemaOf names).domainNames = names := by
  rw [Schema.domainNames, schemaOf, List.map_map]
  exact List.map_id'' (fun _ => rfl) names

theorem files_schemaOf (package : String) (names : List String)
    (h : ∀ name ∈ names, Text.isIdentifier name) :
    Package.files package (schemaOf names) =
      .ok (Entries.set indexName (indexSource (schemaOf names))
        (Entries.ofList ((schemaOf names).domains.map (fileOf package (schemaOf names))))) := by
  refine files_eq_ok_iff.2 ⟨?_, rfl⟩
  rw [schemaOf, List.forall_mem_map]
  intro name hname
  exact ⟨h name hname, by simp, by simp, List.nodup_nil⟩

theorem holdsEveryDomain_page_dom : ∃ files,
    Package.files "rpc" (schemaOf ["Page", "DOM"]) = .ok files ∧
      HoldsEveryDomain "rpc" (schemaOf ["Page", "DOM"]) files := by
  have hnames : (schemaOf ["Page", "DOM"]).domainNames = ["Page", "DOM"] :=
    domainNames_schemaOf _
  have hfiles := files_schemaOf "rpc" ["Page", "DOM"] (by decide)
  refine ⟨_, hfiles, (holdsEveryDomain_iff hfiles ?_).2 ?_⟩
  · rw [hnames]
    decide
  · rw [hnames]
    decide

/-- The list of the domains takes the file of a domain `__init__`, whose module is lost; the
record of that file says that it belongs to the domain. -/
theorem not_holdsEveryDomain_init : ∃ files,
    Package.files "rpc" (schemaOf ["__init__", "Page"]) = .ok files ∧
      (schemaOf ["__init__", "Page"]).domainNames.Nodup ∧
        files.map (·.1) = ["__init__.py", "Page.py"] ∧
          files.lookup "__init__.py" = some (indexSource (schemaOf ["__init__", "Page"])) ∧
            Manifest.domainOf? (schemaOf ["__init__", "Page"]) "__init__.py" = some "__init__" ∧
              ¬HoldsEveryDomain "rpc" (schemaOf ["__init__", "Page"]) files := by
  have hnames : (schemaOf ["__init__", "Page"]).domainNames = ["__init__", "Page"] :=
    domainNames_schemaOf _
  have hfiles := files_schemaOf "rpc" ["__init__", "Page"] (by decide)
  refine ⟨_, hfiles, ?_, rfl, Entries.lookup_set_self, by decide, ?_⟩
  · rw [hnames]
    decide
  · intro hholds
    have hlength := hholds.length
    rw [length_of_mem hfiles (by rw [hnames]; decide) (by rw [hnames]; decide)] at hlength
    omega

end Package

end ProtocolBindings
