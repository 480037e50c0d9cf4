import ProtocolBindings.Proofs.Source.Documentation
import ProtocolBindings.Proofs.Source.Links
import ProtocolBindings.Statistics

/-!
# From documents to modules

A package has a module for every entry of the document, a declaration for every type of the entry
and a function for every command, in the order of the document, and nothing else.  The names that
methods have on the wire differ throughout the package: the names of domains differ and hold no
dot, and the names of the functions of one module differ.
-/

namespace ProtocolBindings

/-! ## Annotated functions -/

namespace CommandFunction

/-- Whether a text is a signature of the given name whose value is annotated by the given
expression. -/
def IsSignature (name expression ending text : String) : Prop :=
  ∃ arguments, ')' ∉ arguments.toList ∧ '\n' ∉ expression.toList ∧
    text = "def " ++ name ++ "(" ++ arguments ++ ") -> " ++ expression ++ ending

/-- Whether all signatures of a function, those of its overloads and its own, annotate its value
by the given expression. -/
def AnnotatedWith (function : CommandFunction) (expression : String) : Prop :=
  ∃ one two three own body,
    function.source = "\n\n\n".intercalate
      ["@overload\n" ++ one, "@overload\n" ++ two, "@overload\n" ++ three, own ++ body] ∧
      IsSignature function.functionName expression ": ..." one ∧
      IsSignature function.functionName expression ": ..." two ∧
      IsSignature function.functionName expression ": ..." three ∧
      IsSignature function.functionName expression ":\n" own

variable {function : CommandFunction} {expression other : String}

/-- Text that is cut at the end of the arguments and at the end of the line shows the annotation
in between. -/
theorem eq_of_signature_eq {arguments arguments' : String} (front rest rest' : String)
    (harguments : ')' ∉ arguments.toList) (harguments' : ')' ∉ arguments'.toList)
    (hline : '\n' ∉ expression.toList) (hline' : '\n' ∉ other.toList)
    (h : front ++ arguments ++ ") -> " ++ expression ++ ": ..." ++ "\n\n\n" ++ rest =
      front ++ arguments' ++ ") -> " ++ other ++ ": ..." ++ "\n\n\n" ++ rest') :
    expression = other := by
  have hchars : arguments.toList ++ ')' :: (" -> ".toList ++ (expression.toList ++ ": ...".toList ++
        '\n' :: ("\n\n".toList ++ rest.toList))) =
      arguments'.toList ++ ')' :: (" -> ".toList ++ (other.toList ++ ": ...".toList ++
        '\n' :: ("\n\n".toList ++ rest'.toList))) := by
    simpa using congrArg String.toList h
  obtain ⟨-, hbehind⟩ := Text.append_cons_inj harguments harguments' hchars
  obtain ⟨hexpression, -⟩ := Text.append_cons_inj (by simp [hline]) (by simp [hline'])
    (List.append_cancel_left hbehind)
  exact String.toList_inj.1 (List.append_cancel_right hexpression)

/-- A function is annotated by one expression only. -/
theorem AnnotatedWith.unique (h : function.AnnotatedWith expression)
    (h' : function.AnnotatedWith other) : expression = other := by
  have hfirst : ∀ one two three own : String, "\n\n\n".intercalate [one, two, three, own] =
      one ++ "\n\n\n" ++ "\n\n\n".intercalate [two, three, own] :=
    fun _ _ _ _ => String.intercalate_cons_cons
  obtain ⟨_, two, three, own, body, hsource, ⟨arguments, harguments, hline, rfl⟩, -⟩ := h
  obtain ⟨_, two', three', own', body', hsource', ⟨arguments', harguments', hline', rfl⟩, -⟩ := h'
  rw [hsource, hfirst, hfirst] at hsource'
  refine eq_of_signature_eq ("@overload\n" ++ "def " ++ function.functionName ++ "(")
    ("\n\n\n".intercalate ["@overload\n" ++ two, "@overload\n" ++ three, own ++ body])
    ("\n\n\n".intercalate ["@overload\n" ++ two', "@overload\n" ++ three', own' ++ body'])
    harguments harguments' hline hline' ?_
  simpa only [String.append_assoc] using hsource'

theorem notMem_arguments : ∀ argument ∈ [sessionArgument, parametersArgument, optionsArgument],
    ')' ∉ argument.toList := by
  simp [sessionArgument, parametersArgument, optionsArgument]

/-- A signature is one whether it is broken or not. -/
theorem isSignature_overload (name : String) {result : String} (arguments : List String)
    (hresult : '\n' ∉ result.toList) (harguments : ∀ argument ∈ arguments, ')' ∉ argument.toList) :
    ∃ one, overload name arguments result = "@overload\n" ++ one ∧
      IsSignature name result ": ..." one := by
  rw [overload]
  split
  · refine ⟨_, rfl, "\n" ++ "\n".intercalate (arguments.map fun a => "    " ++ a ++ ",") ++ "\n",
      ?_, hresult, ?_⟩
    · have hlines : ')' ∉ "\n".toList.intercalate
          ((arguments.map fun a => "    " ++ a ++ ",").map String.toList) := by
        refine Text.notMem_intercalate (by simp) ?_
        rw [List.map_map, List.forall_mem_map]
        intro argument hargument
        simpa using harguments argument hargument
      simpa using hlines
    · simp only [String.append_assoc]
      rfl
  · refine ⟨_, rfl, ", ".intercalate arguments, ?_, hresult, ?_⟩
    · rw [String.toList_intercalate]
      refine Text.notMem_intercalate (by simp) ?_
      rw [List.forall_mem_map]
      exact harguments
    · simp only [String.append_assoc]

/-- The function itself begins with a signature. -/
theorem isSignature_implementation (name docText method : String) {result : String}
    (hresult : '\n' ∉ result.toList) :
    ∃ own body, implementation name result docText method = own ++ body ∧
      IsSignature name result ":\n" own := by
  have hsplit : implementation name result docText method =
      "\n".intercalate ["def " ++ name ++ "(", "    " ++ sessionArgument ++ ",",
        "    " ++ parametersArgument ++ " | None = None,",
        "    " ++ optionsArgument ++ " | None = None,", ") -> " ++ result ++ ":"] ++ "\n" ++
      "\n".intercalate [Doc.functionDocstring docText, "    return _session.execute_command(",
        "        session,", "        " ++ Declaration.literal method ++ ",",
        "        \x7b\x7d if parameters is None else parameters,",
        "        [] if options is None else options,", "    )"] := by
    rw [implementation, ← Module.intercalate_append (List.cons_ne_nil _ _) (List.cons_ne_nil _ _)]
    simp only [List.cons_append, List.nil_append]
  refine ⟨_, _, hsplit, "\n" ++ ("    " ++ sessionArgument ++ ",") ++ "\n" ++
    ("    " ++ parametersArgument ++ " | None = None,") ++ "\n" ++
    ("    " ++ optionsArgument ++ " | None = None,") ++ "\n", ?_, hresult, ?_⟩
  · simpa using notMem_arguments
  · have hend : ":\n" = ":" ++ "\n" := rfl
    simp only [String.intercalate_cons_cons, String.intercalate_singleton, String.append_assoc,
      hend]

/-- The function of a command is annotated by the hint of its result. -/
theorem annotatedWith_resultHint {domain : String} {c : Command}
    (hname : Text.isIdentifier (Naming.functionName c.name)) :
    (documented domain c).AnnotatedWith (resultHint c) := by
  have hplain : Lexical.IsPlain (resultHint c) :=
    isPlain_resultHint (Lexical.isPlain_of_isIdentifier hname)
  have hline : '\n' ∉ (resultHint c).toList := fun hmem => absurd (hplain _ hmem) (by decide)
  obtain ⟨hsession, hrest⟩ := List.forall_mem_cons.1 notMem_arguments
  obtain ⟨hparameters, -⟩ := List.forall_mem_cons.1 hrest
  have hoverload := fun arguments =>
    isSignature_overload (Naming.functionName c.name) arguments hline
  obtain ⟨one, hone, hsignature₁⟩ := hoverload [sessionArgument] (by simp [hsession])
  obtain ⟨two, htwo, hsignature₂⟩ := hoverload [sessionArgument, parametersArgument]
    (by simp [hsession, hparameters])
  obtain ⟨three, hthree, hsignature₃⟩ := hoverload _ notMem_arguments
  obtain ⟨own, body, hown, hsignature⟩ := isSignature_implementation
    (Naming.functionName c.name) (Doc.command c) (wireMethod domain c.name) hline
  rw [AnnotatedWith, documented]
  dsimp only
  refine ⟨one, two, three, own, body, ?_, hsignature₁, hsignature₂, hsignature₃, hsignature⟩
  rw [sourceText, hone, htwo, hthree, hown]

theorem annotatedWith_iff {domain : String} {c : Command}
    (hname : Text.isIdentifier (Naming.functionName c.name)) :
    (documented domain c).AnnotatedWith expression ↔ expression = resultHint c := by
  constructor
  · exact fun h => h.unique (annotatedWith_resultHint hname)
  · rintro rfl
    exact annotatedWith_resultHint hname

/-- The hint has a record in it exactly if there are values to return. -/
theorem eq_resultHint_iff {c : Command} {record : String} :
    "_session.CommandResult[" ++ record ++ "]" = resultHint c ↔
      c.returns ≠ [] ∧ record = Naming.resultName c.name := by
  rw [resultHint]
  cases hreturns : c.returns with
  | nil =>
    have hlength : ("_session.CommandResult[" ++ record ++ "]").length ≠
        "_session.CommandResult".length := by
      rw [String.length_append, String.length_append]
      exact ne_of_gt (Nat.lt_add_right _ (Nat.lt_add_right _ (by decide)))
    simpa using fun heq => hlength (congrArg String.length heq)
  | cons p rest => simp

end CommandFunction

namespace Module

variable {package version : String} {d : Domain} {c : Command} {item entry : Json}

/-! ## Declarations -/

/-- Whether a text declares a name: behind comment lines it begins with the name, which it gives
to a record or to an alias. -/
def Declares (name text : String) : Prop :=
  ∃ comment sign rest, (∀ line ∈ comment, Lexical.ReadsAs (line ++ "\n") "") ∧
    (sign = " = TypedDict(" ∨ sign = ": TypeAlias = ") ∧
      text = "\n".intercalate (comment ++ [name ++ sign ++ rest])

theorem exists_recordText (name : String) (fields : List (String × TypeHint)) :
    ∃ rest, Declaration.recordText name fields = name ++ " = TypedDict(" ++ rest := by
  rw [Declaration.recordText]
  split
  · refine ⟨"\"" ++ name ++ "\", \x7b\x7d)", ?_⟩
    simp only [String.append_assoc]
    rfl
  · refine ⟨"\n" ++ "\n".intercalate (["    \"" ++ name ++ "\",", "    \x7b"] ++
      fields.map Declaration.recordField ++ ["    \x7d,", ")"]), ?_⟩
    simp only [List.cons_append, String.intercalate_cons_cons, String.append_assoc]

theorem declares_typeName (domain : String) (t : TypeDef) :
    Declares (Naming.typeName t.id) (Declaration.documented domain t).text := by
  have hbody : ∃ sign rest, (sign = " = TypedDict(" ∨ sign = ": TypeAlias = ") ∧
      (Declaration.bareOfTypeDef domain t).text = Naming.typeName t.id ++ sign ++ rest := by
    rw [Declaration.bareOfTypeDef]
    split
    · obtain ⟨rest, hrest⟩ := exists_recordText (Naming.typeName t.id)
        (TypeHint.ofFields domain t.properties)
      exact ⟨_, rest, Or.inl rfl, hrest⟩
    · exact ⟨_, _, Or.inr rfl, rfl⟩
  obtain ⟨sign, rest, hsign, hbody⟩ := hbody
  refine ⟨Doc.typeComment t, sign, rest, readsAs_of_mem_typeComment t, hsign, ?_⟩
  rw [Declaration.documented, hbody]

theorem declares_resultName (hdomain : Text.isIdentifier d.name)
    (hname : Text.isIdentifier (Naming.functionName c.name)) :
    Declares (Naming.resultName c.name) ((Definition.record c).text d) := by
  obtain ⟨rest, hrest⟩ := exists_recordText (Naming.resultName c.name)
    (TypeHint.ofFields d.name c.returns)
  refine ⟨[resultComment d.name c], _, rest, ?_, Or.inl rfl, ?_⟩
  · rw [List.forall_mem_singleton]
    exact readsAs_resultComment (Lexical.isPlain_of_isIdentifier hdomain)
      (Lexical.isPlain_of_isIdentifier hname)
  · rw [Definition.text, text_ofResult, hrest, List.singleton_append,
      String.intercalate_cons_cons, String.intercalate_singleton]

/-! ## Records in front of functions -/

theorem infix_definitions (hc : c ∈ d.commands) (hreturns : c.returns ≠ []) :
    [.record c, .function c] <:+: definitions d := by
  obtain ⟨front, back, hcommands⟩ := List.append_of_mem hc
  have hpart : Definition.ofCommand c = [.record c, .function c] := by
    simp [Definition.ofCommand, hreturns]
  refine ⟨.experimental :: (d.types.map .type ++ front.flatMap Definition.ofCommand),
    back.flatMap Definition.ofCommand, ?_⟩
  rw [definitions, hcommands, List.flatMap_append, List.flatMap_cons, hpart]
  simp

theorem infix_source_record (package version : String) (hc : c ∈ d.commands)
    (hreturns : c.returns ≠ []) :
    ((Definition.record c).text d ++ "\n\n\n" ++ (Definition.function c).text d).toList <:+:
      (documented package d version).source.toList := by
  have hpart : (CommandPart.documented d.name c).source =
      (Definition.record c).text d ++ "\n\n\n" ++ (Definition.function c).text d := by
    simp [CommandPart.source, CommandPart.documented, hreturns, Definition.text]
  rw [← hpart]
  refine infix_append_left (infix_intercalate (List.mem_append_right _ ?_))
  rw [Contents.documented, List.map_map]
  exact List.mem_map.2 ⟨c, hc, rfl⟩

/-- What the function of a command in the module of a domain has of the command's item in the
document.  Its signatures are annotated with a record exactly if the item returns something.  Then
the record is declared once in the module, right in front of the function. -/
structure IsFunctionOf (d : Domain) (m : Module) (item : Json) (function : CommandFunction) :
    Prop where
  name : item.get? "name" = some (.string function.commandName)
  method : function.method = m.domainName ++ "." ++ function.commandName
  plain : item.itemsOf "returns" = [] → function.AnnotatedWith "_session.CommandResult"
  result : (∃ record, function.AnnotatedWith ("_session.CommandResult[" ++ record ++ "]")) ↔
    item.itemsOf "returns" ≠ []
  declared : ∀ record, function.AnnotatedWith ("_session.CommandResult[" ++ record ++ "]") →
    ∃ c, (definitions d).filter (·.name == record) = [.record c] ∧
      Declares record ((Definition.record c).text d) ∧
      (Definition.function c).text d = function.source ∧
      [.record c, .function c] <:+: definitions d ∧
      ((Definition.record c).text d ++ "\n\n\n" ++ function.source).toList <:+: m.source.toList

theorem isFunctionOf_documented [Host] (h : Accepts d) (hc : c ∈ d.commands)
    (hbuilt : c.IsBuiltFrom item) :
    IsFunctionOf d (documented package d version) item (CommandFunction.documented d.name c) := by
  have hidentifier := h.functionName c hc
  have hreturns : item.itemsOf "returns" = [] ↔ c.returns = [] := by
    rw [← List.length_eq_zero_iff, ← List.length_eq_zero_iff, hbuilt.returns.forall₂.length_eq]
  refine ⟨Building.get?_of_requireText hbuilt.name, rfl, ?_, ?_, ?_⟩
  · intro hempty
    rw [CommandFunction.annotatedWith_iff hidentifier, CommandFunction.resultHint,
      hreturns.1 hempty]
    rfl
  · simp only [CommandFunction.annotatedWith_iff hidentifier, CommandFunction.eq_resultHint_iff]
    simp [hreturns]
  · intro record hrecord
    rw [CommandFunction.annotatedWith_iff hidentifier,
      CommandFunction.eq_resultHint_iff] at hrecord
    obtain ⟨hfull, hname⟩ := hrecord
    have hunique := h.filter_definitions (record_mem_definitions_iff.2 ⟨hc, hfull⟩)
    rw [Definition.name, ← hname] at hunique
    refine ⟨c, hunique, ?_, rfl, infix_definitions hc hfull,
      infix_source_record package version hc hfull⟩
    rw [hname]
    exact declares_resultName h.domainName hidentifier

/-! ## Entries and their modules -/

/-- What a module presents of its domain's entry in the document. -/
structure Presents [Host] (package version : String) (entry : Json) (d : Domain) (m : Module) :
    Prop where
  domain : entry.get? "domain" = some (.string m.domainName)
  types : List.Forall₂ (fun item text => ∃ t, TypeDef.ofJson item = .ok t ∧
      item.get? "id" = some (.string t.id) ∧ text = (Definition.type t).text d ∧
      Declares (Naming.typeName t.id) text)
    (entry.itemsOf "types") m.declarations
  commands : List.Forall₂ (IsFunctionOf d m) (entry.itemsOf "commands") m.functions
  layout : ∃ body, m.source = head package d version ++ body ++ "\n" ∧
    Spaced ((definitions d).map (·.text d)) body

theorem declarations_documented (package version : String) (d : Domain) :
    (documented package d version).declarations =
      d.types.map fun t => (Definition.type t).text d := by
  simp only [documented, Contents.documented, List.map_map]
  rfl

theorem functions_documented (package version : String) (d : Domain) :
    (documented package d version).functions =
      d.commands.map (CommandFunction.documented d.name) := by
  simp only [documented, Contents.documented, List.map_map]
  rfl

theorem presents_documented [Host] (h : Accepts d) (hbuilt : d.IsBuiltFrom entry) :
    Presents package version entry d (documented package d version) := by
  refine ⟨Building.get?_of_requireText hbuilt.name, ?_, ?_, source_documented package d version⟩
  · rw [declarations_documented, List.forall₂_map_right_iff]
    refine hbuilt.types.forall₂.imp fun item t ht => ?_
    exact ⟨t, TypeDef.ofJson_eq_ok_iff.2 ht, Building.get?_of_requireText ht.id, rfl,
      declares_typeName d.name t⟩
  · have hmem : List.Forall₂ (fun c item => c ∈ d.commands ∧ c.IsBuiltFrom item) d.commands
        (entry.itemsOf "commands") :=
      (List.forall₂_and_left _ _).2 ⟨fun c hc => hc, hbuilt.commands.forall₂.flip⟩
    rw [functions_documented, List.forall₂_map_right_iff]
    exact hmem.flip.imp fun item c hc => isFunctionOf_documented h hc.1 hc.2

/-! ## Methods -/

/-- The domain of a method ends at the first dot. -/
theorem wireMethod_inj {domain domain' command command' : String} (h : Text.isIdentifier domain)
    (h' : Text.isIdentifier domain')
    (heq : CommandFunction.wireMethod domain command =
      CommandFunction.wireMethod domain' command') :
    domain = domain' ∧ command = command' := by
  have hchars : domain.toList ++ '.' :: command.toList =
      domain'.toList ++ '.' :: command'.toList := by
    simpa [CommandFunction.wireMethod] using congrArg String.toList heq
  obtain ⟨hdomain, hcommand⟩ := Text.append_cons_inj
    (Text.notMem_of_isIdentifier h (by decide)) (Text.notMem_of_isIdentifier h' (by decide)) hchars
  exact ⟨String.toList_inj.1 hdomain, String.toList_inj.1 hcommand⟩

/-- Functions of one module have methods of their own, since their names differ. -/
theorem nodup_methods (h : Accepts d) :
    (d.commands.map fun c => CommandFunction.wireMethod d.name c.name).Nodup := by
  have hnames := (List.nodup_flatMap.1 (List.nodup_append.1 h.distinct).2.1).2
  rw [List.Nodup, List.pairwise_map]
  refine hnames.imp fun {c c'} (hdisjoint : List.Disjoint _ _) heq => ?_
  obtain ⟨-, hname⟩ := wireMethod_inj h.domainName h.domainName heq
  refine hdisjoint List.mem_cons_self ?_
  rw [hname]
  exact List.mem_cons_self

/-- Methods differ throughout a package, since the names of its domains do. -/
theorem nodup_package_methods {domains : List Domain} (haccepts : ∀ d ∈ domains, Accepts d)
    (hdistinct : (domains.map (·.name)).Nodup) :
    (domains.flatMap fun d =>
      d.commands.map fun c => CommandFunction.wireMethod d.name c.name).Nodup := by
  rw [List.Nodup, List.pairwise_map] at hdistinct
  refine List.nodup_flatMap.2 ⟨fun d hd => nodup_methods (haccepts d hd), ?_⟩
  refine hdistinct.imp_of_mem fun {d d'} hd hd' hne => ?_
  intro method hmethod hmethod'
  obtain ⟨c, -, rfl⟩ := List.mem_map.1 hmethod
  obtain ⟨c', -, heq⟩ := List.mem_map.1 hmethod'
  exact hne (wireMethod_inj (haccepts d hd).domainName (haccepts d' hd').domainName heq.symm).1

end Module

namespace Package

open ProtocolBindings.Module

/-- From a document on which both a schema can be built and its package be generated, nothing is
lost, added or reordered.  The modules present the entries of `domains` one by one: each has the
entry's name, a declaration for every type and a function for every command of the entry, in
order.  No two functions of the package have the same method, and the numbers that are read off
the schema are those of the modules, of their declarations and of their functions. -/
theorem modules_correspond [Host] {package : String} {version : ProtocolVersion} {document : Json}
    {schema : Schema} {modules : List Module}
    (hschema : Schema.ofJson version document = .ok schema)
    (hmodules : Package.modules package schema = .ok modules) :
    (∃ entries, document.get? "domains" = some (.array entries) ∧
      List.Forall₂ (fun entry m => ∃ d, Domain.ofJson entry = .ok d ∧
          Module.ofDomain package d version.name = .ok m ∧
            Presents package version.name entry d m)
        entries modules) ∧
      ((modules.flatMap (·.functions)).map (·.method)).Nodup ∧
      (Statistics.ofSchema schema).domains = modules.length ∧
      (Statistics.ofSchema schema).types = (modules.flatMap (·.declarations)).length ∧
      (Statistics.ofSchema schema).commands = (modules.flatMap (·.functions)).length := by
  have hbuilt := Schema.ofJson_eq_ok_iff.1 hschema
  obtain ⟨haccepts, rfl⟩ := modules_eq_ok_iff.1 hmodules
  rw [hbuilt.version]
  refine ⟨?_, ?_, ?_, ?_, ?_⟩
  · obtain ⟨entries, hentries, hdomains⟩ := hbuilt.domains
    have hmem : List.Forall₂ (fun d entry => Accepts d ∧ d.IsBuiltFrom entry) schema.domains
        entries :=
      (List.forall₂_and_left _ _).2 ⟨haccepts, hdomains.flip⟩
    refine ⟨entries, hentries, List.forall₂_map_right_iff.2 (hmem.flip.imp fun entry d hd => ?_)⟩
    exact ⟨d, Domain.ofJson_eq_ok_iff.2 hd.2, ofDomain_eq_ok_iff.2 ⟨hd.1, rfl⟩,
      presents_documented hd.1 hd.2⟩
  · simp only [List.flatMap_map, List.map_flatMap, functions_documented, List.map_map]
    exact nodup_package_methods haccepts hbuilt.distinct
  · simp [Statistics.ofSchema]
  · simp [Statistics.ofSchema, List.length_flatMap, List.flatMap_map, declarations_documented]
  · simp [Statistics.ofSchema, List.length_flatMap, List.flatMap_map, functions_documented]

/-- The item of a command that returns a text. -/
def getKeyItem : Json :=
  .object [("name", .string "getKey"), ("returns", .array
    [.object [("name", .string "key"), ("type", .string "string")]])]

/-- The item of a command that returns nothing. -/
def clearItem : Json :=
  .object [("name", .string "clear")]

/-- A document of one domain with these commands. -/
def storageDocument : Json :=
  .object [("domains", .array [.object
    [("domain", .string "Storage"), ("commands", .array [getKeyItem, clearItem])]])]

/-- The command of the first item. -/
def getKeyCommand : Command where
  name := "getKey"
  returns := [{ name := "key", typeRef := .primitive "string" }]

def storageSchema : Schema where
  version := "tot"
  domains := [{ name := "Storage", commands := [getKeyCommand, { name := "clear" }] }]

theorem ofJson_storageDocument :
    Schema.ofJson .tipOfTree storageDocument = .ok storageSchema := by
  have hkey : TypeRef.ofJson (.object [("name", .string "key"), ("type", .string "string")]) =
      .ok (.primitive "string") := by
    rw [TypeRef.ofJson, TypeRef.ofMembers]
    rfl
  have hnesting : TypeRef.nesting
      (.object [("name", .string "key"), ("type", .string "string")]) = 1 := by
    simp [TypeRef.nesting, List.lookup_cons]
  have hproperty : Property.IsBuiltFrom
      (.object [("name", .string "key"), ("type", .string "string")])
      { name := "key", typeRef := .primitive "string" } :=
    ⟨⟨_, rfl⟩, rfl, hnesting ▸ Host.typeDepth_pos, hkey, rfl, rfl, rfl, rfl, rfl⟩
  have hgetKey : getKeyCommand.IsBuiltFrom getKeyItem :=
    ⟨⟨_, rfl⟩, rfl, ⟨[], rfl, .nil⟩, ⟨_, rfl, .cons hproperty .nil⟩, rfl, rfl, rfl⟩
  have hclear : Command.IsBuiltFrom clearItem { name := "clear" } :=
    ⟨⟨_, rfl⟩, rfl, ⟨[], rfl, .nil⟩, ⟨[], rfl, .nil⟩, rfl, rfl, rfl⟩
  rw [Schema.ofJson_eq_ok_iff]
  refine ⟨rfl, ⟨_, rfl, .cons ?_ .nil⟩, by decide⟩
  exact ⟨⟨_, rfl⟩, rfl, ⟨[], rfl, .nil⟩, ⟨_, rfl, .cons hgetKey (.cons hclear .nil)⟩,
    ⟨[], rfl, rfl⟩, rfl, rfl, rfl, by decide⟩

theorem modules_correspond_storage : ∃ m getKey clear,
    Schema.ofJson .tipOfTree storageDocument = .ok storageSchema ∧
      Package.modules "rpc" storageSchema = .ok [m] ∧ m.functions = [getKey, clear] ∧
      getKey.method = "Storage.getKey" ∧ clear.method = "Storage.clear" ∧
      (∃ record, getKey.AnnotatedWith ("_session.CommandResult[" ++ record ++ "]")) ∧
      clear.AnnotatedWith "_session.CommandResult" := by
  have hok : (Package.modules "rpc" storageSchema).isOk = true := by
    decide
  cases hmodules : Package.modules "rpc" storageSchema with
  | error e =>
    rw [hmodules] at hok
    cases hok
  | ok modules =>
    obtain ⟨⟨entries, hentries, hpresents⟩, -⟩ :=
      modules_correspond ofJson_storageDocument hmodules
    obtain rfl := Json.array.inj (Option.some.inj hentries)
    obtain _ | ⟨⟨d, -, -, hm⟩, hrest⟩ := hpresents
    obtain _ | _ := hrest
    have hcommands : List.Forall₂ (IsFunctionOf d _) [getKeyItem, clearItem] _ := hm.commands
    obtain ⟨getKey, rest, hgetKey, hrest, hfunctions⟩ := List.forall₂_cons_left_iff.1 hcommands
    obtain ⟨clear, _, hclear, hnil, rfl⟩ := List.forall₂_cons_left_iff.1 hrest
    obtain rfl := List.forall₂_nil_left_iff.1 hnil
    have hname := Json.string.inj (Option.some.inj hm.domain)
    have hgetKeyName := Json.string.inj (Option.some.inj hgetKey.name)
    have hclearName := Json.string.inj (Option.some.inj hclear.name)
    refine ⟨_, getKey, clear, ofJson_storageDocument, rfl, hfunctions, ?_, ?_, ?_,
      hclear.plain rfl⟩
    · rw [hgetKey.method, ← hname, ← hgetKeyName]
      rfl
    · rw [hclear.method, ← hname, ← hclearName]
      rfl
    · exact hgetKey.result.2 (List.cons_ne_nil _ _)

end Package

end ProtocolBindings
