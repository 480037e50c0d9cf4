import ProtocolBindings.Proofs.Source.Links
import ProtocolBindings.Proofs.Source.Package

/-!
# Packages of some of the domains

The module of a domain is a function of the domain, of the version and of the package's name.
Other domains take no part in it, not even those that it refers to.  So where the whole package
can be generated, a package of some of the domains can be too, and but for the list of its domains
its files are those of the whole package.
-/

namespace ProtocolBindings.Package

variable {package : String} {schema other : Schema} {names : List String}
  {files selected : List (String × String)} {modules otherModules : List Module} {d : Domain}

/-- The files of the domains: all but the one that lists them. -/
def moduleFiles (files : List (String × String)) : List (String × String) :=
  files.filter (·.1 != indexName)

/-- What a package of the named domains has in common with that of the whole schema.  Naming none
asks for all. -/
structure IsSelection (schema : Schema) (names : List String)
    (files selected : List (String × String)) : Prop where
  /-- There are files for the domains that are asked for, and no others. -/
  name_iff : ∀ name, name ∈ (moduleFiles selected).map (·.1) ↔
    name ≠ indexName ∧ ∃ d ∈ schema.domains, (names = [] ∨ d.name ∈ names) ∧
      name = d.name ++ ".py"
  nodup : ((moduleFiles selected).map (·.1)).Nodup
  /-- They come in the order of the schema. -/
  inOrder : ((moduleFiles selected).map (·.1)).Sublist (schema.domainNames.map (· ++ ".py"))
  /-- Each is the file of that name in the whole package. -/
  same : ∀ name text, (name, text) ∈ moduleFiles selected → files.lookup name = some text

theorem map_fileOf_select (package : String) (schema : Schema) (names : List String) :
    (schema.select names).domains.map (fileOf package (schema.select names)) =
      (schema.domains.map (fileOf package schema)).filter fun file =>
        ((schema.select names).domainNames.map (· ++ ending)).contains file.1 := by
  have hfile : fileOf package (schema.select names) = fileOf package schema := by
    funext d
    rw [fileOf, fileOf, Schema.version_select]
  rw [hfile, List.filter_map]
  congr 1
  rw [Schema.domains_select]
  apply List.filter_congr
  intro d hd
  rw [Bool.eq_iff_iff, Bool.or_eq_true, List.isEmpty_iff, List.contains_iff_mem,
    Function.comp_apply, List.contains_iff_mem, List.mem_map]
  constructor
  · intro hasked
    have hmem := (schema.mem_domains_select names).2 ⟨hd, hasked⟩
    exact ⟨d.name, List.mem_map_of_mem hmem, rfl⟩
  · rintro ⟨name, hname, hsame⟩
    obtain ⟨other, hother, rfl⟩ := List.mem_map.1 hname
    have hnames : other.name = d.name := (String.append_left_inj _).1 hsame
    rw [← hnames]
    exact ((schema.mem_domains_select names).1 hother).2

/-- The files of the domains are put together from those of the single domains. -/
theorem moduleFiles_eq (h : Package.files package schema = .ok files) :
    moduleFiles files =
      Entries.ofList ((schema.domains.map (fileOf package schema)).filter (·.1 != indexName)) := by
  rw [moduleFiles, (files_eq_ok_iff.1 h).2, Entries.filter_set (· != indexName),
    bne_self_eq_false, if_neg Bool.false_ne_true]
  exact Entries.filter_ofList (· != indexName) _

/-- A file belongs to a package of some domains exactly if one of these is called like it. -/
theorem moduleFiles_select (h : Package.files package schema = .ok files)
    (hselected : Package.files package (schema.select names) = .ok selected) :
    moduleFiles selected = (moduleFiles files).filter fun file =>
      ((schema.select names).domainNames.map (· ++ ending)).contains file.1 := by
  rw [moduleFiles_eq hselected, moduleFiles_eq h, map_fileOf_select, Entries.filter_ofList,
    List.filter_filter, List.filter_filter]
  simp only [Bool.and_comm]

theorem mem_keys_moduleFiles_iff (h : Package.files package schema = .ok files) (name : String) :
    name ∈ (moduleFiles files).map (·.1) ↔
      name ≠ indexName ∧ ∃ d ∈ schema.domains, name = d.name ++ ending := by
  rw [moduleFiles_eq h]
  constructor
  · intro hname
    have hpair := (Entries.sublist_keys_ofList _).subset hname
    obtain ⟨file, hfile, rfl⟩ := List.mem_map.1 hpair
    obtain ⟨hmem, hindex⟩ := List.mem_filter.1 hfile
    obtain ⟨d, hd, rfl⟩ := List.mem_map.1 hmem
    exact ⟨bne_iff_ne.1 hindex, d, hd, rfl⟩
  · rintro ⟨hindex, d, hd, rfl⟩
    apply Entries.mem_keys_ofList
    refine List.mem_map.2 ⟨fileOf package schema d, List.mem_filter.2 ⟨?_, ?_⟩, rfl⟩
    · exact List.mem_map_of_mem hd
    · exact bne_iff_ne.2 hindex

theorem isSelection (h : Package.files package schema = .ok files)
    (hselected : Package.files package (schema.select names) = .ok selected) :
    IsSelection schema names files selected := by
  have hnodup : ((moduleFiles selected).map (·.1)).Nodup :=
    (nodup_names hselected).sublist (List.filter_sublist.map _)
  refine ⟨?_, hnodup, ?_, ?_⟩
  · intro name
    rw [mem_keys_moduleFiles_iff hselected]
    refine and_congr_right fun _ => exists_congr fun d => ?_
    rw [schema.mem_domains_select names, and_assoc]
    rfl
  · have hkeys : ((moduleFiles selected).map (·.1)).Sublist
        (((schema.domains.map (fileOf package schema)).map (·.1))) := by
      rw [moduleFiles_select h hselected, moduleFiles_eq h]
      exact (List.filter_sublist.map _).trans
        ((Entries.sublist_keys_ofList _).trans (List.filter_sublist.map _))
    rwa [map_fst_fileOf] at hkeys
  · intro name text hfile
    rw [moduleFiles_select h hselected] at hfile
    have hmem : (name, text) ∈ files := List.mem_of_mem_filter (List.mem_of_mem_filter hfile)
    exact Entries.lookup_eq_some_of_mem (nodup_names h) hmem

/-- Wherever a domain stands among others, the module at its position is the same. -/
theorem getElem?_modules_eq (h : Package.modules package schema = .ok modules) {i : Nat}
    (hd : schema.domains[i]? = some d) :
    modules[i]? = some (Module.documented package d schema.version) := by
  rw [(modules_eq_ok_iff.1 h).2, List.getElem?_map, hd]
  rfl

/-- A domain that is not called like the list of the domains has its file, if the names of the
domains differ. -/
theorem lookup_of_mem (h : Package.files package schema = .ok files)
    (hnames : schema.domainNames.Nodup) (hd : d ∈ schema.domains) (hindex : d.name ≠ indexStem) :
    files.lookup (d.name ++ ending) =
      some (Module.documented package d schema.version).source := by
  have hne : d.name ++ ending ≠ indexName := by
    intro heq
    apply hindex
    exact (String.append_left_inj ending).1 heq
  have hnodup : ((schema.domains.map (fileOf package schema)).map (·.1)).Nodup :=
    nodup_map_fst_fileOf hnames
  rw [(files_eq_ok_iff.1 h).2, Entries.lookup_set_of_ne hne, Entries.ofList_of_nodup hnodup]
  exact Entries.lookup_eq_some_of_mem hnodup (List.mem_map_of_mem hd)

/-- Where the package of a schema can be generated, so can the package of the domains that are
named.  But for the list of the domains it consists of the files of these domains, in the order of
the schema, and they are those of the whole package.  More generally a domain that belongs to two
schemas of the same version has the same module in both, wherever it stands and whatever the
other domains are; and as far as the names of the domains differ, its file holds the source of
that module in both packages. -/
theorem files_select (h : Package.files package schema = .ok files) (names : List String) :
    (∃ selected, Package.files package (schema.select names) = .ok selected ∧
      IsSelection schema names files selected) ∧
      ∀ (other : Schema) (otherFiles : List (String × String)),
        Package.files package other = .ok otherFiles → other.version = schema.version →
        ∃ modules otherModules : List Module, Package.modules package schema = .ok modules ∧
          Package.modules package other = .ok otherModules ∧
          ∀ (d : Domain) (i j : Nat), schema.domains[i]? = some d → other.domains[j]? = some d →
            ∃ m : Module, modules[i]? = some m ∧ otherModules[j]? = some m ∧
              (d.name ≠ "__init__" → schema.domainNames.Nodup → other.domainNames.Nodup →
                files.lookup (d.name ++ ".py") = some m.source ∧
                  otherFiles.lookup (d.name ++ ".py") = some m.source) := by
  have haccepts := (files_eq_ok_iff.1 h).1
  constructor
  · have hselected : ∀ d ∈ (schema.select names).domains, Module.Accepts d := by
      intro d hd
      exact haccepts d ((schema.mem_domains_select names).1 hd).1
    obtain ⟨selected, hfiles⟩ : ∃ selected, Package.files package (schema.select names) =
        .ok selected := ⟨_, files_eq_ok_iff.2 ⟨hselected, rfl⟩⟩
    exact ⟨selected, hfiles, isSelection h hfiles⟩
  · intro other otherFiles hother hversion
    have hotherAccepts := (files_eq_ok_iff.1 hother).1
    obtain ⟨modules, hmodules⟩ : ∃ modules, Package.modules package schema = .ok modules :=
      ⟨_, modules_eq_ok_iff.2 ⟨haccepts, rfl⟩⟩
    obtain ⟨otherModules, hotherModules⟩ : ∃ modules, Package.modules package other = .ok modules :=
      ⟨_, modules_eq_ok_iff.2 ⟨hotherAccepts, rfl⟩⟩
    refine ⟨modules, otherModules, hmodules, hotherModules, ?_⟩
    intro d i j hi hj
    have hsame := getElem?_modules_eq hotherModules hj
    rw [hversion] at hsame
    refine ⟨_, getElem?_modules_eq hmodules hi, hsame, ?_⟩
    intro hindex hnames hotherNames
    have hfile := lookup_of_mem hother hotherNames (List.mem_of_getElem? hj) hindex
    rw [hversion] at hfile
    exact ⟨lookup_of_mem h hnames (List.mem_of_getElem? hi) hindex, hfile⟩

/-- A domain that declares a type. -/
def pageDomain : Domain where
  name := "Page"
  types := [{ id := "FrameId", shape := .primitive "string" }]

/-- An array of values of that type. -/
def framesType : TypeDef where
  id := "Frames"
  shape := .array (.named ⟨some "Page", "FrameId"⟩)

/-- A domain that declares the array. -/
def networkDomain : Domain where
  name := "Network"
  types := [framesType]

/-- A schema in which one domain refers to the other. -/
def framesSchema : Schema where
  version := "tot"
  domains := [networkDomain, pageDomain]

/-- The module that refers to another domain is the same in a package without that domain. -/
theorem files_select_network : ∃ files selected,
    Package.files "rpc" framesSchema = .ok files ∧
      Package.files "rpc" (framesSchema.select ["Network"]) = .ok selected ∧
        (∃ text, ("Network.py", text) ∈ selected ∧ files.lookup "Network.py" = some text) ∧
          "Page.py" ∉ (moduleFiles selected).map (·.1) := by
  have hok : (Package.files "rpc" framesSchema).isOk = true := by
    decide
  cases hfiles : Package.files "rpc" framesSchema with
  | error e =>
    rw [hfiles] at hok
    cases hok
  | ok files =>
    obtain ⟨⟨selected, hselected, hselection⟩, -⟩ := files_select hfiles ["Network"]
    refine ⟨files, selected, rfl, hselected, ?_, ?_⟩
    · have hname := (hselection.name_iff "Network.py").2
        ⟨by decide, networkDomain, by decide, by decide, by decide⟩
      obtain ⟨⟨name, text⟩, hfile, rfl⟩ := List.mem_map.1 hname
      exact ⟨text, List.mem_of_mem_filter hfile, hselection.same _ text hfile⟩
    · rw [hselection.name_iff]
      decide

end ProtocolBindings.Package
