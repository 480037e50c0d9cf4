import ProtocolBindings.Proofs.Source.Links
import ProtocolBindings.Proofs.Text.Blank
import ProtocolBindings.Proofs.Text.Normalization

/-!
# Names that are captured

The annotations of a module mention builtin types of the language and the modules of other
domains.  A definition of one of these names captures it: what is annotated by it is no longer
what was meant.  Two names are one if they have one normal form.  Types and records cannot capture a
builtin type, since there is a low line in their names; the function of a command can.
-/

namespace ProtocolBindings

/-- No capital of the basic alphabet is the lowercase form of a character. -/
theorem Text.isBasicUpper_lowerChar (c : Char) : isBasicUpper (lowerChar c) = false := by
  have hcapitals : ∀ n < 26, lowerChar (Char.ofNat (0x41 + n)) ≠ Char.ofNat (0x41 + n) := by
    decide
  by_contra hupper
  rw [Bool.not_eq_false, isBasicUpper, Bool.and_eq_true, decide_eq_true_eq,
    decide_eq_true_eq] at hupper
  have hrange : 0x41 ≤ (lowerChar c).toNat ∧ (lowerChar c).toNat ≤ 0x5A := hupper
  have hsmall : (lowerChar c).toNat < firstSmallLetter := Nat.lt_of_le_of_lt hrange.2 (by decide)
  have hsame : c = lowerChar c := eq_of_lowerChar_eq rfl (by omega) hsmall
  apply hcapitals ((lowerChar c).toNat - 0x41) (by omega)
  rw [Nat.add_sub_cancel' hrange.1, Char.ofNat_toNat, ← hsame]
  exact hsame.symm

namespace Naming

open Text (isBasicUpper)

/-- The words of an identifier are joined without capitals. -/
theorem isBasicUpper_underscore {name : String} {c : Char} (h : c ∈ (underscore name).toList) :
    isBasicUpper c = false := by
  have hall : ∀ d ∈ Text.lowerChars (joinedWords name.toList), isBasicUpper d = false :=
    Text.forall_mem_lowerChars (by decide) fun c _ => Text.isBasicUpper_lowerChar c
  apply hall
  rwa [underscore, String.toList_ofList, underscoreChars_eq] at h

theorem nfkc_typeName (typeId : String) :
    Text.nfkc (typeName typeId) = typeMark ++ Text.nfkc (underscore typeId) := by
  have hmark : typeMark = "cdp" ++ "_" := by decide
  have hfront : Text.nfkc "cdp" = "cdp" := Text.nfkc_of_all_lt (by decide)
  rw [typeName, hmark, Text.nfkc_append_lowLine, hfront]

theorem nfkc_resultName (command : String) :
    Text.nfkc (resultName command) = Text.nfkc (underscore command) ++ "_result" := by
  have hmark : "_result" = "_" ++ "result" := by decide
  have hback : Text.nfkc "result" = "result" := Text.nfkc_of_all_lt (by decide)
  rw [resultName, hmark, ← String.append_assoc, Text.nfkc_append_lowLine, hback,
    String.append_assoc]

end Naming

namespace Module

def builtinTypes : List String := ["bool", "int", "float", "str", "list", "dict"]

/-- Whether a name stands in an expression. -/
def Mentions (expression name : String) : Prop :=
  name.toList ∈ Text.pieces (!Text.isIdentifierContinue ·) expression.toList

instance (expression name : String) : Decidable (Mentions expression name) :=
  inferInstanceAs (Decidable (_ ∈ _))

/-- The annotations of the arguments of a function, in its signatures and in the function
itself. -/
def argumentAnnotations : List String :=
  ["_session.CommandSession", "Mapping[str, Any]", "_session.CommandOptions",
    "Mapping[str, Any] | None", "_session.CommandOptions | None"]

def Definition.annotations (d : Domain) : Definition → List String
  | .experimental => ["bool"]
  | .type t => (Definition.hints d (.type t)).map (·.expression)
  | .record c => (Definition.hints d (.record c)).map (·.expression)
  | .function c => CommandFunction.resultHint c :: argumentAnnotations

/-- A definition of a module has a name that annotations of the module use for something else: for
the builtin type, or for the module of another domain. -/
structure Captures (d : Domain) (m : Module) (name : String) : Prop where
  defined : ∃ f ∈ definitions d, Text.nfkc f.name = Text.nfkc name
  used : name ∈ builtinTypes ∧ (∃ f ∈ definitions d, ∃ a ∈ f.annotations d, Mentions a name) ∨
    name ∈ m.domains

variable {d : Domain} {f : Definition} {name : String}

/-! ## Annotations in their definitions -/

theorem infix_bareOfTypeDef {domain : String} {t : TypeDef} {hint : TypeHint}
    (h : hint ∈ (Declaration.bareOfTypeDef domain t).hints) :
    hint.expression.toList <:+: (Declaration.bareOfTypeDef domain t).text.toList := by
  rw [Declaration.bareOfTypeDef] at h ⊢
  split at h
  · obtain ⟨⟨key, hint⟩, hfield, rfl⟩ := List.mem_map.1 h
    exact infix_recordText hfield
  · obtain rfl := List.mem_singleton.1 h
    exact infix_append_right List.infix_rfl

theorem infix_argument : ∀ a ∈ argumentAnnotations,
    ∃ line ∈ ["    " ++ CommandFunction.sessionArgument ++ ",",
      "    " ++ CommandFunction.parametersArgument ++ " | None = None,",
      "    " ++ CommandFunction.optionsArgument ++ " | None = None,"],
      a.toList <:+: line.toList := by
  have hsession : "    " ++ CommandFunction.sessionArgument ++ "," =
      "    session: _session.CommandSession," := by
    decide
  have hparameters : "    " ++ CommandFunction.parametersArgument ++ " | None = None," =
      "    parameters: Mapping[str, Any] | None = None," := by
    decide
  have hoptions : "    " ++ CommandFunction.optionsArgument ++ " | None = None," =
      "    options: _session.CommandOptions | None = None," := by
    decide
  rw [hsession, hparameters, hoptions]
  simp only [argumentAnnotations, List.forall_mem_cons, List.not_mem_nil, false_imp_iff,
    implies_true, and_true]
  exact ⟨⟨_, .head _, infix_ofList (by decide)⟩,
    ⟨_, .tail _ (.head _), infix_ofList (by decide)⟩,
    ⟨_, .tail _ (.tail _ (.head _)), infix_ofList (by decide)⟩,
    ⟨_, .tail _ (.head _), infix_ofList (by decide)⟩,
    ⟨_, .tail _ (.tail _ (.head _)), infix_ofList (by decide)⟩⟩

/-- Every annotation stands in its definition. -/
theorem infix_of_mem_annotations {a : String} (h : a ∈ f.annotations d) :
    a.toList <:+: (f.text d).toList := by
  cases f with
  | experimental =>
    obtain rfl := List.mem_singleton.1 h
    rw [Definition.text]
    delta experimentalFunction
    simp only [String.append_assoc]
    exact infix_append_right (infix_append_right (infix_append_left (by decide)))
  | type t =>
    obtain ⟨hint, hhint, rfl⟩ := List.mem_map.1 h
    exact infix_documented (infix_bareOfTypeDef hhint)
  | record c =>
    obtain ⟨hint, hhint, rfl⟩ := List.mem_map.1 h
    obtain ⟨⟨key, hint⟩, hfield, rfl⟩ := List.mem_map.1 hhint
    exact infix_append_right (infix_recordText hfield)
  | function c =>
    apply infix_sourceText
    rcases List.mem_cons.1 h with rfl | h
    · have hline : (CommandFunction.resultHint c).toList <:+:
          (") -> " ++ CommandFunction.resultHint c ++ ":").toList :=
        infix_append_left (infix_append_right List.infix_rfl)
      refine hline.trans (infix_intercalate ?_)
      exact .tail _ (.tail _ (.tail _ (.tail _ (.head _))))
    · obtain ⟨line, hline, hinfix⟩ := infix_argument a h
      refine hinfix.trans (infix_intercalate ?_)
      exact List.mem_cons_of_mem _ (List.mem_append_left _ hline)

/-! ## Mentions -/

/-- Which builtin types are mentioned by the annotations that are the same in all modules. -/
theorem mentions_fixed_iff : ∀ name ∈ builtinTypes,
    ∀ a ∈ "bool" :: "_session.CommandResult" :: argumentAnnotations,
      Mentions a name ↔ (name, a) ∈ [("bool", "bool"), ("str", "Mapping[str, Any]"),
        ("str", "Mapping[str, Any] | None")] := by
  decide

/-- Brackets end a name, and the ending of a record's name does not. -/
theorem isIdentifierContinue_marks :
    Text.isIdentifierContinue '[' = false ∧ Text.isIdentifierContinue ']' = false ∧
      "_result".toList.all Text.isIdentifierContinue = true := by
  decide

theorem lowLine_notMem_of_mem_builtinTypes (h : name ∈ builtinTypes) : '_' ∉ name.toList := by
  have hnone : ∀ name ∈ builtinTypes, '_' ∉ name.toList := by decide
  exact hnone name h

/-- The builtin types are called by basic letters. -/
theorem nfkc_of_mem_builtinTypes (h : name ∈ builtinTypes) : Text.nfkc name = name := by
  have hbasic : ∀ name ∈ builtinTypes, name.toList.all fun c => c.toNat < 0xA0 := by decide
  exact Text.nfkc_of_all_lt (hbasic name h)

/-- A low line keeps names apart from the builtin types. -/
theorem nfkc_notMem_builtinTypes (h : '_' ∈ name.toList) : Text.nfkc name ∉ builtinTypes :=
  fun hmem => lowLine_notMem_of_mem_builtinTypes hmem (Text.lowLine_mem_nfkc h)

/-- No name of a builtin type is kept from functions. -/
theorem nfkc_functionName_eq_iff {command : String} (hname : name ∈ builtinTypes) :
    Text.nfkc (Naming.functionName command) = name ↔
      Text.nfkc (Naming.underscore command) = name := by
  have hbasic : ∀ taken ∈ Naming.keywords ++ Naming.reservedNames,
      (taken.toList.all fun c => c.toNat < 0xA0) ∧ taken ∉ builtinTypes := by
    decide
  rw [Naming.functionName]
  split
  · rename_i htaken
    constructor
    · rintro rfl
      exact absurd hname (nfkc_notMem_builtinTypes (by simp))
    · rintro rfl
      obtain ⟨hchars, hfree⟩ := hbasic (Naming.underscore command) (by simpa using htaken)
      rw [Text.nfkc_of_all_lt hchars] at hname
      exact absurd hname hfree
  · exact Iff.rfl

theorem nfkc_experimentalName : Text.nfkc experimentalName = experimentalName :=
  Text.nfkc_of_all_lt (by decide)

/-- Only the function of a command can have the name of a builtin type. -/
theorem nfkc_name_mem_builtinTypes (h : Text.nfkc f.name ∈ builtinTypes) :
    ∃ c, f = .function c ∧ Text.nfkc (Naming.underscore c.name) = Text.nfkc f.name := by
  cases f with
  | experimental =>
    rw [Definition.name, nfkc_experimentalName] at h
    exact absurd h (by decide)
  | type t =>
    refine absurd h (nfkc_notMem_builtinTypes ?_)
    simp [Definition.name, Naming.typeName, Naming.typeMark]
  | record c =>
    refine absurd h (nfkc_notMem_builtinTypes ?_)
    simp [Definition.name, Naming.resultName]
  | function c => exact ⟨c, rfl, (nfkc_functionName_eq_iff h).1 rfl⟩

/-- The normal forms of the names that a module defines. -/
theorem exists_nfkc_name_iff : (∃ f ∈ definitions d, Text.nfkc f.name = name) ↔
    name = experimentalName ∨
      (∃ t ∈ d.types, name = Naming.typeMark ++ Text.nfkc (Naming.underscore t.id)) ∨
      (∃ c ∈ d.commands, c.returns ≠ [] ∧
        name = Text.nfkc (Naming.underscore c.name) ++ "_result") ∨
      ∃ c ∈ d.commands, name = Text.nfkc (Naming.functionName c.name) := by
  constructor
  · rintro ⟨f, hf, rfl⟩
    cases f with
    | experimental => exact Or.inl nfkc_experimentalName
    | type t =>
      exact Or.inr (Or.inl ⟨t, type_mem_definitions_iff.1 hf, Naming.nfkc_typeName t.id⟩)
    | record c =>
      obtain ⟨hc, hreturns⟩ := record_mem_definitions_iff.1 hf
      exact Or.inr (Or.inr (Or.inl ⟨c, hc, hreturns, Naming.nfkc_resultName c.name⟩))
    | function c => exact Or.inr (Or.inr (Or.inr ⟨c, function_mem_definitions_iff.1 hf, rfl⟩))
  · rintro (rfl | ⟨t, ht, rfl⟩ | ⟨c, hc, hreturns, rfl⟩ | ⟨c, hc, rfl⟩)
    · exact ⟨.experimental, List.mem_cons_self, nfkc_experimentalName⟩
    · exact ⟨.type t, type_mem_definitions_iff.2 ht, Naming.nfkc_typeName t.id⟩
    · exact ⟨.record c, record_mem_definitions_iff.2 ⟨hc, hreturns⟩,
        Naming.nfkc_resultName c.name⟩
    · exact ⟨.function c, function_mem_definitions_iff.2 hc, rfl⟩

/-- The names of definitions have no capitals. -/
theorem isBasicUpper_name {c : Char} (h : c ∈ f.name.toList) : Text.isBasicUpper c = false := by
  have hnone : ∀ text ∈ [experimentalName, Naming.typeMark, "_result", "_"],
      text.toList.any Text.isBasicUpper = false := by
    decide
  have hfixed : ∀ text ∈ [experimentalName, Naming.typeMark, "_result", "_"],
      ∀ c ∈ text.toList, Text.isBasicUpper c = false :=
    fun text htext c hc => Bool.eq_false_iff.2 (List.any_eq_false.1 (hnone text htext) c hc)
  cases f with
  | experimental => exact hfixed experimentalName (by simp) c h
  | type t =>
    rw [Definition.name, Naming.typeName, String.toList_append, List.mem_append] at h
    rcases h with h | h
    · exact hfixed _ (by simp) c h
    · exact Naming.isBasicUpper_underscore h
  | record command =>
    rw [Definition.name, Naming.resultName, String.toList_append, List.mem_append] at h
    rcases h with h | h
    · exact Naming.isBasicUpper_underscore h
    · exact hfixed _ (by simp) c h
  | function command =>
    rw [Definition.name, Naming.functionName] at h
    split at h
    · rw [String.toList_append, List.mem_append] at h
      rcases h with h | h
      · exact Naming.isBasicUpper_underscore h
      · exact hfixed _ (by simp) c h
    · exact Naming.isBasicUpper_underscore h

theorem isIdentifierContinue_resultName {command : String} {c : Char}
    (h : Text.isIdentifier (Naming.functionName command))
    (hc : c ∈ (Naming.resultName command).toList) : Text.isIdentifierContinue c := by
  rw [Naming.resultName, String.toList_append, List.mem_append] at hc
  rcases hc with hc | hc
  · exact Text.all_continue_of_isIdentifierChars h c (Naming.mem_functionName hc)
  · exact List.all_eq_true.1 isIdentifierContinue_marks.2.2 c hc

/-- The annotation of a result mentions no builtin type: what stands between its brackets is the
name of the record. -/
theorem not_mentions_resultHint {c : Command}
    (hidentifier : Text.isIdentifier (Naming.functionName c.name)) (hname : name ∈ builtinTypes) :
    ¬Mentions (CommandFunction.resultHint c) name := by
  have hnone : ¬Mentions "_session.CommandResult" name := by
    rw [mentions_fixed_iff name hname _ (by simp)]
    simp
  obtain ⟨hopen, hclose, -⟩ := isIdentifierContinue_marks
  rw [← Bool.not_eq_true'] at hopen hclose
  rw [CommandFunction.resultHint]
  split
  · exact hnone
  · intro hmentions
    have htext : ("_session.CommandResult[" ++ Naming.resultName c.name ++ "]").toList =
        "_session.CommandResult".toList ++ '[' ::
          ((Naming.resultName c.name).toList ++ ']' :: []) := by
      simp
    have hrecord : Text.pieces (!Text.isIdentifierContinue ·) (Naming.resultName c.name).toList =
        [(Naming.resultName c.name).toList] := by
      refine Text.pieces_of_forall_not fun ch hch => ?_
      rw [isIdentifierContinue_resultName hidentifier hch]
      rfl
    rw [Mentions, htext, Text.pieces_append_cons hopen, Text.pieces_append_cons hclose, hrecord,
      List.mem_append, List.mem_append, List.mem_singleton, String.toList_inj] at hmentions
    rcases hmentions with hfront | rfl | hempty
    · exact hnone hfront
    · exact lowLine_notMem_of_mem_builtinTypes hname (by simp [Naming.resultName])
    · obtain rfl : name = "" := String.toList_inj.1 (List.mem_singleton.1 hempty)
      exact absurd hname (by decide)

/-- The annotations of a function mention no builtin type but that of its parameters' names. -/
theorem eq_str_of_mentions {c : Command} {a : String}
    (hidentifier : Text.isIdentifier (Naming.functionName c.name))
    (ha : a ∈ Definition.annotations d (.function c)) (hname : name ∈ builtinTypes)
    (hmentions : Mentions a name) : name = "str" := by
  rcases List.mem_cons.1 ha with rfl | ha
  · exact absurd hmentions (not_mentions_resultHint hidentifier hname)
  · rw [mentions_fixed_iff name hname a (List.mem_cons_of_mem _ (List.mem_cons_of_mem _ ha))]
      at hmentions
    have hbool : a ≠ "bool" := by
      rintro rfl
      exact absurd ha (by decide)
    simp only [List.mem_cons, Prod.mk.injEq, hbool, and_false, List.not_mem_nil, or_false,
      false_or] at hmentions
    rcases hmentions with ⟨hstr, -⟩ | ⟨hstr, -⟩ <;> exact hstr

theorem expression_mem_annotations {hint : TypeHint} (h : hint ∈ f.hints d) :
    hint.expression ∈ f.annotations d := by
  cases f with
  | experimental => cases h
  | type t => exact List.mem_map_of_mem h
  | record c => exact List.mem_map_of_mem h
  | function c => cases h

/-- Which builtin types a module mentions: that of its mark and, if there are commands, that of
the names of parameters; any other only by a hint. -/
theorem exists_mentions_iff (h : Accepts d) (hname : name ∈ builtinTypes) :
    (∃ f ∈ definitions d, ∃ a ∈ f.annotations d, Mentions a name) ↔
      name = "bool" ∨ name = "str" ∧ d.commands ≠ [] ∨
        ∃ hint ∈ (Contents.documented d).hints, Mentions hint.expression name := by
  constructor
  · rintro ⟨f, hf, a, ha, hmentions⟩
    have hhint : ∀ hint ∈ f.hints d, Mentions hint.expression name →
        ∃ hint ∈ (Contents.documented d).hints, Mentions hint.expression name := by
      intro hint hhint hmentions
      rw [hints_documented]
      exact ⟨hint, List.mem_flatMap.2 ⟨f, hf, hhint⟩, hmentions⟩
    cases f with
    | experimental =>
      obtain rfl := List.mem_singleton.1 ha
      rw [mentions_fixed_iff name hname _ (by simp)] at hmentions
      exact Or.inl (by simpa using hmentions)
    | type t =>
      obtain ⟨hint, hmem, rfl⟩ := List.mem_map.1 ha
      exact Or.inr (Or.inr (hhint hint hmem hmentions))
    | record c =>
      obtain ⟨hint, hmem, rfl⟩ := List.mem_map.1 ha
      exact Or.inr (Or.inr (hhint hint hmem hmentions))
    | function c =>
      have hc := function_mem_definitions_iff.1 hf
      refine Or.inr (Or.inl ⟨eq_str_of_mentions (h.functionName c hc) ha hname hmentions, ?_⟩)
      exact List.ne_nil_of_mem hc
  · rintro (rfl | ⟨rfl, hcommands⟩ | ⟨hint, hhint, hmentions⟩)
    · refine ⟨.experimental, List.mem_cons_self, "bool", List.mem_singleton.2 rfl, ?_⟩
      exact (mentions_fixed_iff _ hname _ List.mem_cons_self).2 List.mem_cons_self
    · obtain ⟨c, rest, hc⟩ := List.exists_cons_of_ne_nil hcommands
      have hmapping : "Mapping[str, Any]" ∈ argumentAnnotations := by decide
      refine ⟨.function c, function_mem_definitions_iff.2 (hc ▸ List.mem_cons_self),
        "Mapping[str, Any]", List.mem_cons_of_mem _ hmapping, ?_⟩
      refine (mentions_fixed_iff _ hname _ ?_).2 (by simp)
      exact List.mem_cons_of_mem _ (List.mem_cons_of_mem _ hmapping)
    · rw [hints_documented] at hhint
      obtain ⟨f, hf, hhint⟩ := List.mem_flatMap.1 hhint
      exact ⟨f, hf, _, expression_mem_annotations hhint, hmentions⟩

/-- In a generated module, where every annotation stands in its definition, a name is captured
exactly if it is that of a builtin type which a command is called like, and which is mentioned,
or that of a domain whose module is imported, and which a type, a record, a function or the mark of
experimental ones is called like.  The types for truth values and texts are always mentioned when
there are commands. -/
theorem captures_iff {package version : String} {m : Module}
    (h : ofDomain package d version = .ok m) :
    (∀ f ∈ definitions d, (f.text d).toList <:+: m.source.toList ∧
        ∀ a ∈ f.annotations d, a.toList <:+: (f.text d).toList) ∧
      ∀ name, Captures d m name ↔
        (name ∈ builtinTypes ∧
            (∃ c ∈ d.commands, Text.nfkc (Naming.underscore c.name) = name) ∧
            (name = "bool" ∨ name = "str" ∨
              ∃ hint ∈ (Contents.documented d).hints, Mentions hint.expression name)) ∨
          (name ∈ m.domains ∧
            (Text.nfkc name = experimentalName ∨
              (∃ t ∈ d.types, Text.nfkc name = "cdp_" ++ Text.nfkc (Naming.underscore t.id)) ∨
              (∃ c ∈ d.commands, c.returns ≠ [] ∧
                Text.nfkc name = Text.nfkc (Naming.underscore c.name) ++ "_result") ∨
              ∃ c ∈ d.commands, Text.nfkc name = Text.nfkc (Naming.functionName c.name))) := by
  obtain ⟨haccepts, rfl⟩ := ofDomain_eq_ok_iff.1 h
  refine ⟨fun f hf => ⟨infix_source package version hf, fun a ha => infix_of_mem_annotations ha⟩,
    fun name => ⟨?_, ?_⟩⟩
  · rintro ⟨⟨f, hf, hcalled⟩, ⟨hname, hmentions⟩ | himported⟩
    · rw [nfkc_of_mem_builtinTypes hname] at hcalled
      subst hcalled
      obtain ⟨c, rfl, hc⟩ := nfkc_name_mem_builtinTypes hname
      refine Or.inl ⟨hname, ⟨c, function_mem_definitions_iff.1 hf, hc⟩, ?_⟩
      rcases (exists_mentions_iff haccepts hname).1 hmentions with hbool | ⟨hstr, -⟩ | hhint
      · exact Or.inl hbool
      · exact Or.inr (Or.inl hstr)
      · exact Or.inr (Or.inr hhint)
    · exact Or.inr ⟨himported, exists_nfkc_name_iff.1 ⟨f, hf, hcalled⟩⟩
  · rintro (⟨hname, ⟨c, hc, hcalled⟩, hmentions⟩ | ⟨himported, hcalled⟩)
    · have hfunction : Text.nfkc (Naming.functionName c.name) = Text.nfkc name := by
        rw [nfkc_of_mem_builtinTypes hname]
        exact (nfkc_functionName_eq_iff hname).2 hcalled
      refine ⟨⟨.function c, function_mem_definitions_iff.2 hc, hfunction⟩,
        Or.inl ⟨hname, (exists_mentions_iff haccepts hname).2 ?_⟩⟩
      rcases hmentions with hbool | hstr | hhint
      · exact Or.inl hbool
      · exact Or.inr (Or.inl ⟨hstr, List.ne_nil_of_mem hc⟩)
      · exact Or.inr (Or.inr hhint)
    · exact ⟨exists_nfkc_name_iff.2 hcalled, Or.inr himported⟩

/-- A command that returns a list of texts. -/
def getItems : Command where
  name := "getItems"
  returns := [{ name := "items", typeRef := .array (.primitive "string") }]

def itemsDomain (command : String) : Domain where
  name := "Page"
  commands := [{ name := command }, getItems]

theorem captures_iff_items : ∃ m, ofDomain "rpc" (itemsDomain "listItems") "tot" = .ok m ∧
    ∀ name, ¬Captures (itemsDomain "listItems") m name := by
  have hok : (ofDomain "rpc" (itemsDomain "listItems") "tot").isOk = true ∧
      (∀ c ∈ (itemsDomain "listItems").commands,
        Text.nfkc (Naming.underscore c.name) ∉ builtinTypes) ∧
      (documented "rpc" (itemsDomain "listItems") "tot").domains = [] := by
    decide
  obtain ⟨hok, hother, hdomains⟩ := hok
  have h := ofDomain_of_isOk hok
  refine ⟨_, h, fun name hcaptures => ?_⟩
  rcases ((captures_iff h).2 name).1 hcaptures with ⟨hname, ⟨c, hc, rfl⟩, -⟩ | ⟨himported, -⟩
  · exact hother c hc hname
  · rw [hdomains] at himported
    cases himported

/-- A command called `list` captures the type of lists, by which a record behind its function is
annotated. -/
theorem captures_list : ∃ m, ofDomain "rpc" (itemsDomain "list") "tot" = .ok m ∧
    Captures (itemsDomain "list") m "list" := by
  have hok : (ofDomain "rpc" (itemsDomain "list") "tot").isOk = true ∧
      (Definition.function { name := "list" }).name = "list" ∧
      "list[str]" ∈ (Definition.record getItems).annotations (itemsDomain "list") ∧
      Mentions "list[str]" "list" := by
    decide
  obtain ⟨hok, hcalled, hannotated, hmentioned⟩ := hok
  refine ⟨_, ofDomain_of_isOk hok,
    ⟨.function { name := "list" }, by decide, congrArg Text.nfkc hcalled⟩,
    Or.inl ⟨by decide, .record getItems, by decide, "list[str]", hannotated, hmentioned⟩⟩

end Module

end ProtocolBindings
