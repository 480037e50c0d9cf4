import ProtocolBindings.Proofs.Results
import ProtocolBindings.Source.Package

/-!
# Accepted domains

A module is generated for a domain exactly if the names of the domain, of its types and of the
functions of its commands are identifiers and no name is defined twice.  What is generated then
is a function of the domain.
-/

namespace ProtocolBindings

open Results

theorem Text.notMem_of_isIdentifier {text : String} {c : Char} (h : Text.isIdentifier text)
    (hc : Text.isIdentifierContinue c = false) : c ∉ text.toList := by
  intro hmem
  rw [Text.all_continue_of_isIdentifierChars h c hmem] at hc
  cases hc

theorem located_eq_ok_iff {α : Type} {location : String} {result : Except GenerationError α}
    {a : α} : located location result = .ok a ↔ result = .ok a :=
  mapError_eq_ok_iff

namespace Declaration

/-- The declaration of a type behind its comment, whatever its name. -/
def documented (domain : String) (t : TypeDef) : Declaration :=
  { bareOfTypeDef domain t with
    text := "\n".intercalate (Doc.typeComment t ++ [(bareOfTypeDef domain t).text]) }

theorem ofTypeDef_eq_ok_iff {domain : String} {t : TypeDef} {declaration : Declaration} :
    ofTypeDef domain t = .ok declaration ↔
      Text.isIdentifier (Naming.typeName t.id) ∧ declaration = documented domain t := by
  rw [ofTypeDef]
  split
  · rename_i h
    simp [h, documented, eq_comm]
  · rename_i h
    simp [h, malformed]

theorem documented_name (domain : String) (t : TypeDef) :
    (documented domain t).name = Naming.typeName t.id := by
  rw [documented, bareOfTypeDef]
  cases t.shape <;> rfl

end Declaration

namespace CommandFunction

def documented (domain : String) (c : Command) : CommandFunction :=
  { commandName := c.name
    functionName := Naming.functionName c.name
    docText := Doc.command c
    method := wireMethod domain c.name
    source := sourceText (Naming.functionName c.name) (resultHint c) (Doc.command c)
      (wireMethod domain c.name) }

theorem ofCommand_eq_ok_iff {domain : String} {c : Command} {function : CommandFunction} :
    ofCommand domain c = .ok function ↔
      Text.isIdentifier (Naming.functionName c.name) ∧ function = documented domain c := by
  rw [ofCommand]
  split
  · rename_i h
    simp [h, documented, eq_comm]
  · rename_i h
    simp [h, malformed]

end CommandFunction

namespace Module

def CommandPart.documented (domain : String) (c : Command) : CommandPart where
  function := CommandFunction.documented domain c
  result :=
    if c.returns.isEmpty then none
    else some (Declaration.ofResult domain c (CommandFunction.wireMethod domain c.name))

theorem CommandPart.ofCommand_eq_ok_iff {domain : String} {c : Command} {part : CommandPart} :
    CommandPart.ofCommand domain c = .ok part ↔
      Text.isIdentifier (Naming.functionName c.name) ∧ part = documented domain c := by
  rw [CommandPart.ofCommand, bind_eq_ok_iff]
  constructor
  · rintro ⟨function, hfunction, hpart⟩
    obtain ⟨hname, rfl⟩ := CommandFunction.ofCommand_eq_ok_iff.1 hfunction
    exact ⟨hname, (pure_eq_ok_iff.1 hpart).symm⟩
  · rintro ⟨hname, rfl⟩
    exact ⟨_, CommandFunction.ofCommand_eq_ok_iff.2 ⟨hname, rfl⟩, rfl⟩

/-- The contents of a domain's module, whatever the names in it. -/
def Contents.documented (d : Domain) : Contents where
  types := d.types.map (Declaration.documented d.name)
  commands := d.commands.map (CommandPart.documented d.name)

theorem declaredTypes_eq_ok_iff {d : Domain} {types : List Declaration} :
    (d.types.mapM fun t =>
        located (d.name ++ "." ++ t.id) (Declaration.ofTypeDef d.name t)) = .ok types ↔
      (∀ t ∈ d.types, Text.isIdentifier (Naming.typeName t.id)) ∧
        types = d.types.map (Declaration.documented d.name) :=
  mapM_eq_ok_iff_forall fun _ _ => located_eq_ok_iff.trans Declaration.ofTypeDef_eq_ok_iff

theorem commandParts_eq_ok_iff {d : Domain} {commands : List CommandPart} :
    (d.commands.mapM fun c =>
        located (d.name ++ "." ++ c.name) (CommandPart.ofCommand d.name c)) = .ok commands ↔
      (∀ c ∈ d.commands, Text.isIdentifier (Naming.functionName c.name)) ∧
        commands = d.commands.map (CommandPart.documented d.name) :=
  mapM_eq_ok_iff_forall fun _ _ => located_eq_ok_iff.trans CommandPart.ofCommand_eq_ok_iff

theorem contentsOf_eq_ok_iff {d : Domain} {contents : Contents} :
    contentsOf d = .ok contents ↔
      (∀ t ∈ d.types, Text.isIdentifier (Naming.typeName t.id)) ∧
        (∀ c ∈ d.commands, Text.isIdentifier (Naming.functionName c.name)) ∧
          contents = .documented d := by
  rw [contentsOf, bind_eq_ok_iff]
  constructor
  · rintro ⟨types, htypes, h⟩
    obtain ⟨commands, hcommands, h⟩ := bind_eq_ok_iff.1 h
    obtain ⟨htypeNames, rfl⟩ := declaredTypes_eq_ok_iff.1 htypes
    obtain ⟨hcommandNames, rfl⟩ := commandParts_eq_ok_iff.1 hcommands
    exact ⟨htypeNames, hcommandNames, (pure_eq_ok_iff.1 h).symm⟩
  · rintro ⟨htypeNames, hcommandNames, rfl⟩
    refine ⟨_, declaredTypes_eq_ok_iff.2 ⟨htypeNames, rfl⟩, ?_⟩
    exact bind_eq_ok_iff.2 ⟨_, commandParts_eq_ok_iff.2 ⟨hcommandNames, rfl⟩, rfl⟩

/-- The names that the module of a domain defines beside `experimental`, in order: those of the
types, and for every command that of its function and, if it returns values, of their record. -/
def definedNames (d : Domain) : List String :=
  d.types.map (fun t => Naming.typeName t.id) ++
    d.commands.flatMap fun c =>
      Naming.functionName c.name ::
        (if c.returns.isEmpty then [] else [Naming.resultName c.name])

theorem CommandPart.names_documented (domain : String) (c : Command) :
    (CommandPart.documented domain c).names =
      Naming.functionName c.name ::
        (if c.returns.isEmpty then [] else [Naming.resultName c.name]) := by
  rw [CommandPart.names, CommandPart.documented]
  cases hempty : c.returns.isEmpty with
  | true => simp [CommandFunction.documented]
  | false => simp [CommandFunction.documented, Declaration.ofResult]

theorem Contents.names_documented (d : Domain) :
    (Contents.documented d).names = definedNames d := by
  simp only [Contents.names, Contents.documented, definedNames, List.map_map, List.flatMap_map,
    Function.comp_def, Declaration.documented_name, CommandPart.names_documented]

/-- What a domain has to be for a module to be generated. -/
structure Accepts (d : Domain) : Prop where
  domainName : Text.isIdentifier d.name
  typeName : ∀ t ∈ d.types, Text.isIdentifier (Naming.typeName t.id)
  functionName : ∀ c ∈ d.commands, Text.isIdentifier (Naming.functionName c.name)
  distinct : (definedNames d).Nodup

def documented (package : String) (d : Domain) (version : String) : Module where
  domainName := d.name
  moduleName := Naming.moduleName d.name
  declarations := (Contents.documented d).types.map (·.text)
  functions := (Contents.documented d).commands.map (·.function)
  domains := (Contents.documented d).domains d.name
  source := sourceText package d version (.documented d)

theorem ofDomain_eq_ok_iff {package version : String} {d : Domain} {m : Module} :
    ofDomain package d version = .ok m ↔ Accepts d ∧ m = documented package d version := by
  rw [ofDomain]
  split
  · rename_i hname
    simp only [Bool.not_eq_true'] at hname
    constructor
    · intro h
      simp [located, malformed, Except.mapError] at h
    · rintro ⟨h, -⟩
      simp [h.domainName] at hname
  · rename_i hname
    simp only [Bool.not_eq_true', Bool.not_eq_false] at hname
    rw [bind_eq_ok_iff]
    constructor
    · rintro ⟨contents, hcontents, h⟩
      obtain ⟨htypes, hcommands, rfl⟩ := contentsOf_eq_ok_iff.1 hcontents
      split at h
      · simp [located, malformed, Except.mapError] at h
      · rename_i hrepeated
        rw [Contents.names_documented, firstRepeated?_eq_none_iff] at hrepeated
        exact ⟨⟨hname, htypes, hcommands, hrepeated.1⟩, (pure_eq_ok_iff.1 h).symm⟩
    · rintro ⟨h, rfl⟩
      refine ⟨_, contentsOf_eq_ok_iff.2 ⟨h.typeName, h.functionName, rfl⟩, ?_⟩
      have hrepeated : firstRepeated? [] (Contents.documented d).names = none := by
        rw [Contents.names_documented, firstRepeated?_eq_none_iff]
        exact ⟨h.distinct, by simp⟩
      rw [hrepeated]
      rfl

theorem ofDomain_of_isOk {package version : String} {d : Domain}
    (h : (ofDomain package d version).isOk) :
    ofDomain package d version = .ok (documented package d version) := by
  cases hm : ofDomain package d version with
  | error e =>
    rw [hm] at h
    cases h
  | ok m => rw [(ofDomain_eq_ok_iff.1 hm).2]

end Module

/-- A package is generated exactly if every domain is accepted. -/
theorem Package.modules_eq_ok_iff {package : String} {schema : Schema} {modules : List Module} :
    Package.modules package schema = .ok modules ↔
      (∀ d ∈ schema.domains, Module.Accepts d) ∧
        modules = schema.domains.map fun d => Module.documented package d schema.version :=
  mapM_eq_ok_iff_forall fun _ _ => located_eq_ok_iff.trans Module.ofDomain_eq_ok_iff

end ProtocolBindings
