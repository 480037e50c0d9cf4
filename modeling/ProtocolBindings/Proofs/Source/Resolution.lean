import ProtocolBindings.Proofs.Source.Typing

/-!
# What annotations lead to

An annotation names the declaration of a type by a name that is computed from the reference alone,
and the declaration is named apart from it.  In a package that can be generated the two agree: a
reference to a declared type leads to a definition of that name, which declares that type, in the
module that the annotation names.  No other definition has that name as it is written.  One may have
another name with the same normal form, which is the same name.
-/

namespace ProtocolBindings

/-! ## The names that definitions give -/

namespace Lexical

/-- The word at the start of a line, or behind `def` if the line begins with that. -/
def wordOn (line : List Char) : List Char :=
  ((line.dropPrefix? "def ".toList).getD line).takeWhile Text.isIdentifierContinue

/-- The name that a definition gives, which stands on the first line that is neither a comment nor a
decorator. -/
def definedName? (text : String) : Option String :=
  ((linesOf text).find? fun line => line.head? != some '#' && line.head? != some '@').map
    fun line => String.ofList (wordOn line)

example : definedName? "#: A frame.\ncdp_frame: TypeAlias = str" = some "cdp_frame" ∧
    definedName? "@overload\ndef get(session): ...\n\n\ndef get(\n    session,\n): ..." =
      some "get" := by
  decide

variable {name line text : String} {c : Char}

/-- Lines with marks are passed over. -/
theorem definedName?_append (hline : '\n' ∉ line.toList)
    (hmark : line.toList.head? = some '#' ∨ line.toList.head? = some '@') (text : String) :
    definedName? (line ++ "\n" ++ text) = definedName? text := by
  have hpassed : (line.toList.head? != some '#' && line.toList.head? != some '@') = false := by
    rcases hmark with hmark | hmark
    · rw [hmark]
      rfl
    · rw [hmark]
      rfl
  rw [definedName?, definedName?, linesOf_append, linesOf_of_notMem hline, List.singleton_append,
    List.find?_cons_of_neg (by rw [hpassed]; exact Bool.false_ne_true)]

theorem definedName?_comment {comment : List String}
    (hcomment : ∀ line ∈ comment, Module.IsComment line) (text : String) :
    definedName? ("\n".intercalate (comment ++ [text])) = definedName? text := by
  induction comment with
  | nil => rw [List.nil_append, String.intercalate_singleton]
  | cons line rest ih =>
    obtain ⟨⟨body, rfl, hbody⟩, hrest⟩ := List.forall_mem_cons.1 hcomment
    have hline : '\n' ∉ ("#" ++ body).toList := by
      rw [String.toList_append, List.mem_append, not_or]
      exact ⟨by decide, fun hmem => absurd (hbody _ hmem) (by decide)⟩
    obtain ⟨next, others, hothers⟩ := List.exists_cons_of_ne_nil
      (List.append_ne_nil_of_right_ne_nil rest (List.cons_ne_nil text []))
    rw [List.cons_append, hothers, String.intercalate_cons_cons, ← hothers,
      definedName?_append hline (Or.inl (by simp)), ih hrest]

/-- The name stands at the start of the text, perhaps behind `def`. -/
theorem definedName?_of_forall (hline : '\n' ∉ line.toList)
    (hmark : ∃ c, line.toList.head? = some c ∧ c ≠ '#' ∧ c ≠ '@')
    (hword : ∀ more, wordOn (line.toList ++ more) = name.toList) (rest : String) :
    definedName? (line ++ rest) = some name := by
  obtain ⟨c, hhead, hsign, hdecorator⟩ := hmark
  have hnone : ∀ c ∈ line.toList, (c == '\n') = false :=
    fun c hc => beq_eq_false_iff_ne.2 (ne_of_mem_of_not_mem hc hline)
  have hfirst : ∀ more : List Char, (line.toList ++ more).head? = some c := by
    intro more
    rw [List.head?_append, hhead]
    rfl
  rw [definedName?, linesOf, String.toList_append, Text.pieces_append_of_forall_not hnone,
    List.find?_cons_of_pos (by rw [hfirst]; simp [hsign, hdecorator]), Option.map_some, hword,
    String.ofList_toList]

/-- What ends a name. -/
theorem isIdentifierContinue_ends : ∀ c ∈ ['(', ' ', ':', '\n'],
    Text.isIdentifierContinue c = false :=
  List.forall_iff_forall_mem.1 (by decide)

theorem takeWhile_name (hname : ∀ c ∈ name.toList, Text.isIdentifierContinue c)
    (hc : c ∈ ['(', ' ', ':', '\n']) (rest : List Char) :
    (name.toList ++ c :: rest).takeWhile Text.isIdentifierContinue = name.toList := by
  have hend : ¬Text.isIdentifierContinue c = true := by
    rw [isIdentifierContinue_ends c hc]
    exact Bool.false_ne_true
  rw [List.takeWhile_append_of_pos hname, List.takeWhile_cons_of_neg hend, List.append_nil]

theorem lineFeed_notMem_name (hname : ∀ c ∈ name.toList, Text.isIdentifierContinue c) :
    '\n' ∉ name.toList := by
  intro hmem
  have hnone := isIdentifierContinue_ends '\n' (by simp)
  rw [hname _ hmem] at hnone
  cases hnone

theorem definedName?_def (hname : ∀ c ∈ name.toList, Text.isIdentifierContinue c) (rest : String) :
    definedName? ("def " ++ name ++ "(" ++ rest) = some name := by
  have htext : "def " ++ name ++ "(" ++ rest = ("def " ++ name ++ "(") ++ rest := rfl
  rw [htext]
  refine definedName?_of_forall ?_ ⟨'d', by simp, by decide, by decide⟩ (fun more => ?_) rest
  · simpa using lineFeed_notMem_name hname
  · have hline : ("def " ++ name ++ "(").toList ++ more =
        "def ".toList ++ (name.toList ++ '(' :: more) := by
      simp
    rw [wordOn, hline, dropPrefix?_append, Option.getD_some, takeWhile_name hname (by simp)]

/-- A name with a low line is not the word that functions are defined by. -/
theorem dropPrefix?_def_eq_none (hname : ∀ c ∈ name.toList, Text.isIdentifierContinue c)
    (hlow : '_' ∈ name.toList) (hc : c ∈ ['(', ' ', ':', '\n']) (rest : List Char) :
    (name.toList ++ c :: rest).dropPrefix? "def ".toList = none := by
  cases hdrop : (name.toList ++ c :: rest).dropPrefix? "def ".toList with
  | none => rfl
  | some other =>
    obtain ⟨opening, heq, hopening⟩ := List.dropPrefix?_eq_some_iff.1 hdrop
    have hdef : ∀ c ∈ "def".toList, Text.isIdentifierContinue c :=
      List.all_eq_true.1 (by decide : "def".toList.all Text.isIdentifierContinue)
    have hwords := takeWhile_name hname hc rest
    rw [heq, eq_of_beq hopening] at hwords
    have hword := takeWhile_name hdef (by simp : ' ' ∈ ['(', ' ', ':', '\n']) other
    have hsame : "def".toList = name.toList := hword.symm.trans hwords
    rw [← hsame] at hlow
    exact absurd hlow (by decide)

theorem definedName?_assigned {sign : String}
    (hname : ∀ c ∈ name.toList, Text.isIdentifierContinue c) (hlow : '_' ∈ name.toList)
    (hsign : sign = " = TypedDict(" ∨ sign = ": TypeAlias = ")
    (rest : String) : definedName? (name ++ sign ++ rest) = some name := by
  obtain ⟨first, others, hfirst⟩ := List.exists_cons_of_ne_nil (List.ne_nil_of_mem hlow)
  have hcontinues : Text.isIdentifierContinue first := hname first (by rw [hfirst]; simp)
  have hmarks : Text.isIdentifierContinue '#' = false ∧ Text.isIdentifierContinue '@' = false := by
    decide
  obtain ⟨c, behind, hbehind, hc⟩ : ∃ c behind, sign.toList = c :: behind ∧
      c ∈ ['(', ' ', ':', '\n'] := by
    rcases hsign with rfl | rfl
    · exact ⟨' ', "= TypedDict(".toList, by decide, by simp⟩
    · exact ⟨':', " TypeAlias = ".toList, by decide, by simp⟩
  refine definedName?_of_forall ?_ ⟨first, ?_, ?_, ?_⟩ (fun more => ?_) rest
  · rw [String.toList_append, List.mem_append, not_or]
    refine ⟨lineFeed_notMem_name hname, ?_⟩
    rcases hsign with rfl | rfl <;> decide
  · rw [String.toList_append, hfirst]
    rfl
  · rintro rfl
    rw [hmarks.1] at hcontinues
    cases hcontinues
  · rintro rfl
    rw [hmarks.2] at hcontinues
    cases hcontinues
  · have hline : (name ++ sign).toList ++ more = name.toList ++ c :: (behind ++ more) := by
      rw [String.toList_append, hbehind, List.append_assoc, List.cons_append]
    rw [wordOn, hline, dropPrefix?_def_eq_none hname hlow hc, Option.getD_none,
      takeWhile_name hname hc]

end Lexical

open Lexical

namespace Module

open TypeHint

variable {d C D : Domain} {f : Definition} {r : TypeRef} {hint : TypeHint} {reference : Reference}
  {package version : String} {T : TypeDef}

theorem definedName?_experimentalFunction (d : Domain) :
    definedName? (experimentalFunction d) = some experimentalName := by
  have hname : ∀ c ∈ experimentalName.toList, Text.isIdentifierContinue c :=
    List.all_eq_true.1 (by decide : experimentalName.toList.all Text.isIdentifierContinue)
  obtain ⟨rest, hrest⟩ : ∃ rest, experimentalFunction d =
      "def " ++ experimentalName ++ "(" ++ rest := by
    delta experimentalFunction
    refine ⟨") -> bool:\n    " ++ Doc.tripleQuote ++ "Whether the " ++ d.name ++
      " domain is marked experimental." ++ Doc.tripleQuote ++ "\n    return " ++
      (if d.experimental then "True" else "False"), ?_⟩
    apply String.toList_inj.1
    simp
  rw [hrest]
  exact definedName?_def hname rest

theorem definedName?_documented_type {t : TypeDef} (domain : String)
    (hname : ∀ c ∈ (Naming.typeName t.id).toList, Text.isIdentifierContinue c) :
    definedName? (Declaration.documented domain t).text = some (Naming.typeName t.id) := by
  have hlow : '_' ∈ (Naming.typeName t.id).toList := by
    simp [Naming.typeName, Naming.typeMark]
  rw [Declaration.documented, definedName?_comment (isComment_of_mem_typeComment t),
    Declaration.bareOfTypeDef]
  split
  · obtain ⟨rest, hrest⟩ := exists_recordText (Naming.typeName t.id)
      (TypeHint.ofFields domain t.properties)
    dsimp only
    rw [hrest]
    exact definedName?_assigned hname hlow (Or.inl rfl) rest
  · exact definedName?_assigned hname hlow (Or.inr rfl) _

theorem definedName?_ofResult {domain : String} {c : Command}
    (hdomain : IsPlain domain) (hcommand : IsPlain (Naming.functionName c.name))
    (hname : ∀ c' ∈ (Naming.resultName c.name).toList, Text.isIdentifierContinue c') :
    definedName? (Declaration.ofResult domain c
      (CommandFunction.wireMethod domain c.name)).text = some (Naming.resultName c.name) := by
  have hlow : '_' ∈ (Naming.resultName c.name).toList := by
    simp [Naming.resultName]
  have hcomment : ∀ line ∈ [resultComment domain c], IsComment line := by
    rw [List.forall_mem_singleton]
    exact isComment_resultComment hdomain hcommand
  obtain ⟨rest, hrest⟩ := exists_recordText (Naming.resultName c.name)
    (TypeHint.ofFields domain c.returns)
  have hskip := definedName?_comment hcomment
    (Naming.resultName c.name ++ " = TypedDict(" ++ rest)
  rw [List.singleton_append, String.intercalate_cons_cons, String.intercalate_singleton] at hskip
  rw [text_ofResult, hrest, hskip]
  exact definedName?_assigned hname hlow (Or.inl rfl) rest

theorem definedName?_documented_function {domain : String} {c : Command}
    (hcommand : Text.isIdentifier (Naming.functionName c.name))
    (hname : ∀ c' ∈ (Naming.functionName c.name).toList, Text.isIdentifierContinue c') :
    definedName? (CommandFunction.documented domain c).source =
      some (Naming.functionName c.name) := by
  have hannotated : (CommandFunction.documented domain c).AnnotatedWith _ :=
    CommandFunction.annotatedWith_resultHint hcommand
  obtain ⟨_, two, three, own, body, hsource, ⟨arguments, -, -, rfl⟩, -⟩ := hannotated
  obtain ⟨rest, hrest⟩ : ∃ rest, (CommandFunction.documented domain c).source =
      "@overload" ++ "\n" ++ ("def " ++ Naming.functionName c.name ++ "(" ++ rest) := by
    have hdecorator : "@overload\n" = "@overload" ++ "\n" := by decide
    have hcalled : (CommandFunction.documented domain c).functionName =
        Naming.functionName c.name := by
      rw [CommandFunction.documented]
    rw [hsource, String.intercalate_cons_cons, hdecorator, hcalled]
    simp only [String.append_assoc]
    exact ⟨_, rfl⟩
  rw [hrest, definedName?_append (by decide) (Or.inr (by decide))]
  exact definedName?_def hname rest

/-- A definition that can be accepted gives its name. -/
theorem Accepts.definedName?_text (h : Accepts d) (hf : f ∈ definitions d) :
    definedName? (f.text d) = some f.name := by
  have hname := Text.all_continue_of_isIdentifierChars (h.isIdentifier_name hf)
  cases f with
  | experimental => exact definedName?_experimentalFunction d
  | type t => exact definedName?_documented_type d.name hname
  | record c =>
    have hcommand := h.functionName c (record_mem_definitions_iff.1 hf).1
    exact definedName?_ofResult (isPlain_of_isIdentifier h.domainName)
      (isPlain_of_isIdentifier hcommand) hname
  | function c =>
    have hcommand := h.functionName c (function_mem_definitions_iff.1 hf)
    exact definedName?_documented_function hcommand hname

/-! ## Declarations of one name -/

/-- The texts of the definitions that give a name, where names with one normal form are one name. -/
def textsOfName (d : Domain) (name : String) : List String :=
  ((definitions d).map (·.text d)).filter fun text =>
    (definedName? text).any fun other => Text.nfkc other == Text.nfkc name

theorem Accepts.textsOfName_eq (h : Accepts d) (name : String) : textsOfName d name =
    ((definitions d).filter fun f => Text.nfkc f.name == Text.nfkc name).map (·.text d) := by
  rw [textsOfName, List.filter_map]
  refine congrArg _ (List.filter_congr fun f hf => ?_)
  rw [Function.comp_apply, h.definedName?_text hf]
  rfl

/-- The text of a definition is the only one of its name, as the name is written. -/
theorem Accepts.filter_texts (h : Accepts d) (hf : f ∈ definitions d) :
    (((definitions d).map (·.text d)).filter fun text => definedName? text == some f.name) =
      [f.text d] := by
  have hsame : ∀ g ∈ definitions d,
      ((fun text => definedName? text == some f.name) ∘ (·.text d)) g = (g.name == f.name) := by
    intro g hg
    rw [Function.comp_apply, h.definedName?_text hg]
    rfl
  rw [List.filter_map, List.filter_congr hsame, h.filter_definitions hf]
  rfl

/-- A definition is the only one that is kept exactly if no other one is to be kept. -/
theorem Accepts.map_filter_eq_singleton_iff (h : Accepts d) (hf : f ∈ definitions d)
    {p : Definition → Bool} (hp : p f) :
    ((definitions d).filter p).map (·.text d) = [f.text d] ↔
      ∀ g ∈ definitions d, p g → g = f := by
  have hkept : f ∈ (definitions d).filter p := List.mem_filter.2 ⟨hf, hp⟩
  have hnodup : ((definitions d).filter p).Nodup :=
    (List.Nodup.of_map _ h.nodup_definitions).filter p
  rw [List.map_eq_singleton_iff]
  constructor
  · rintro ⟨only, honly, -⟩ g hg hpg
    have hg : g ∈ (definitions d).filter p := List.mem_filter.2 ⟨hg, hpg⟩
    rw [honly, List.mem_singleton] at hg hkept
    rw [hg, hkept]
  · intro honly
    refine ⟨f, ?_, rfl⟩
    rw [← List.perm_singleton, List.perm_ext_iff_of_nodup hnodup (List.nodup_singleton f)]
    intro g
    rw [List.mem_singleton]
    constructor
    · exact fun hg => honly g (List.mem_filter.1 hg).1 (List.mem_filter.1 hg).2
    · rintro rfl
      exact hkept

/-- The text of a type's declaration is the only one of its name exactly if no other type, no record
and no function has a name with the same normal form. -/
theorem Accepts.textsOfName_typeName_iff (h : Accepts d) (hT : T ∈ d.types) :
    textsOfName d (Naming.typeName T.id) = [(Definition.type T).text d] ↔
      (∀ T' ∈ d.types, Text.nfkc (Naming.underscore T'.id) = Text.nfkc (Naming.underscore T.id) →
          T' = T) ∧
        (∀ c ∈ d.commands, c.returns ≠ [] → Text.nfkc (Naming.underscore c.name) ++ "_result" ≠
          "cdp_" ++ Text.nfkc (Naming.underscore T.id)) ∧
        ∀ c ∈ d.commands, Text.nfkc (Naming.functionName c.name) ≠
          "cdp_" ++ Text.nfkc (Naming.underscore T.id) := by
  have hmem : Definition.type T ∈ definitions d := type_mem_definitions_iff.2 hT
  let sameName : Definition → Bool := fun g =>
    Text.nfkc g.name == Text.nfkc (Naming.typeName T.id)
  have hself : sameName (.type T) := beq_self_eq_true _
  rw [h.textsOfName_eq, h.map_filter_eq_singleton_iff hmem hself]
  simp only [sameName, beq_iff_eq, Naming.nfkc_typeName]
  constructor
  · intro honly
    refine ⟨fun T' hT' hname => ?_, fun c hc hreturns hname => ?_, fun c hc hname => ?_⟩
    · have hsame := honly (.type T') (type_mem_definitions_iff.2 hT')
        ((Naming.nfkc_typeName T'.id).trans (congrArg _ hname))
      exact Definition.type.inj hsame
    · have hsame := honly (.record c) (record_mem_definitions_iff.2 ⟨hc, hreturns⟩)
        ((Naming.nfkc_resultName c.name).trans hname)
      cases hsame
    · have hsame := honly (.function c) (function_mem_definitions_iff.2 hc) hname
      cases hsame
  · rintro ⟨htypes, hrecords, hfunctions⟩ g hg hname
    cases g with
    | experimental =>
      rw [Definition.name, nfkc_experimentalName] at hname
      have hhead := congrArg (fun name => name.toList.head?) hname
      simp [experimentalName, Naming.typeMark] at hhead
    | type T' =>
      rw [Definition.name, Naming.nfkc_typeName, String.append_right_inj] at hname
      rw [htypes T' (type_mem_definitions_iff.1 hg) hname]
    | record c =>
      obtain ⟨hc, hreturns⟩ := record_mem_definitions_iff.1 hg
      rw [Definition.name, Naming.nfkc_resultName] at hname
      exact absurd hname (hrecords c hc hreturns)
    | function c => exact absurd hname (hfunctions c (function_mem_definitions_iff.1 hg))

/-! ## Imports of what is named -/

/-- Whether the text of a module has an import of the module of another domain for the type checker,
right in front of the list of the module's names.  It is in the first block for the type checker,
whose mark is taken from the typing library. -/
def ImportsForChecking (package source other : String) : Prop :=
  (∃ front names behind lines,
      source = front ++ checkingText package names ++ "\n\n__all__ = [\n" ++ behind ∧
        other ∈ names ∧ linesBehindDocstring? front = some lines ∧ checkingLine.toList ∉ lines) ∧
    ∃ lines names, linesBehindDocstring? source = some lines ∧
      typingNames? lines = some names ∧ "TYPE_CHECKING" ∈ names

theorem importsForChecking_of_mem_domains (package version : String) (haccepts : Accepts d)
    {other : String} (h : other ∈ (Contents.documented d).domains d.name) :
    ImportsForChecking package (documented package d version).source other := by
  have hdomains : ((Contents.documented d).domains d.name).isEmpty = false := by
    rw [List.isEmpty_eq_false_iff]
    exact List.ne_nil_of_mem h
  have hmark : "TYPE_CHECKING" ∈ typingNames (.documented d) d.name := by
    simp [typingNames, hdomains]
  obtain ⟨front, behind, lines, hsource, hlines, hnone⟩ := exists_written package d version
  obtain ⟨sourceLines, hsourceLines, hnames⟩ := exists_typingNames? package version haccepts
  rw [if_neg (List.ne_nil_of_mem hmark)] at hnames
  exact ⟨⟨front, _, behind, lines, hsource, h, hlines, hnone⟩, sourceLines, _, hsourceLines, hnames,
    hmark⟩

/-- The module of a domain imports every other domain that one of its annotations names. -/
theorem Annotates.mem_domains (h : Annotates d f r hint) (hf : f ∈ definitions d)
    (hleaf : r.leaf? = some reference) (hother : reference.domain.getD d.name ≠ d.name) :
    reference.domain.getD d.name ∈ (Contents.documented d).domains d.name := by
  refine mem_domains_iff.2 ⟨⟨hint, h.mem_hints hf, ?_⟩, hother⟩
  rw [(h.linksTo hleaf).domains, if_neg hother]
  exact List.mem_singleton.2 rfl

/-! ## Links -/

/-- What it takes for an annotation in the module of the domain `C` to lead to the declaration of
the type `T` in the module of the domain `D`. -/
structure LeadsTo (package version : String) (C D : Domain) (mC mD : Module) (f : Definition)
    (hint : TypeHint) (arrays : Nat) (T : TypeDef) : Prop where
  /-- The annotation stands in its definition, and that among the definitions of the module. -/
  written : hint.expression.toList <:+: (f.text C).toList ∧ (f.text C).toList <:+: mC.source.toList
  /-- It is the name of the type inside arrays, behind the domain exactly if that is another one. -/
  expression : hint.expression = "\"" ++
      listOf arrays ((if D.name = C.name then "" else D.name ++ ".") ++
        ("cdp_" ++ Naming.underscore T.id)) ++ (if hint.nullable then " | None" else "") ++ "\""
  imported : D.name ≠ C.name → ImportsForChecking package mC.source D.name
  /-- Behind its head the module of `D` consists of its definitions, each of which gives its
  name. -/
  layout : ∃ body, mD.source = head package D version ++ body ++ "\n" ∧
    Spaced ((definitions D).map (·.text D)) body
  names : ∀ g ∈ definitions D, definedName? (g.text D) = some g.name
  /-- Among them is the declaration of the type, which alone gives the name that is written. -/
  declares : Declares ("cdp_" ++ Naming.underscore T.id) ((Definition.type T).text D)
  only : (((definitions D).map (·.text D)).filter fun text =>
    definedName? text == some ("cdp_" ++ Naming.underscore T.id)) = [(Definition.type T).text D]

end Module

namespace Package

open ProtocolBindings.Module TypeHint

/-- In a package that can be generated, a reference to a declared type leads to its declaration.
Let an annotation in the module of the domain `C` have a reference to the type `T` of the domain
`D` inside its arrays, where a reference without a domain means `C` itself.  Then it is written as
the name of `T`, qualified by `D` exactly if that is another domain; the module of `D` has one
definition of the name that is written, which is the declaration of `T`; if `D` is another domain,
the module of `C` imports it for the type checker; and no other type of `D` has that name.  The
declaration of `T` is the only definition with a name of that normal form exactly if no other type,
no record and no function of `D` has one. -/
theorem annotation_links {package : String} {schema : Schema} {modules : List Module}
    (hmodules : Package.modules package schema = .ok modules) {C D : Domain}
    (hC : C ∈ schema.domains) (hD : D ∈ schema.domains) {f : Definition} (hf : f ∈ definitions C)
    {r : TypeRef} {hint : TypeHint} (hannotates : Annotates C f r hint) {reference : Reference}
    (hleaf : r.leaf? = some reference) (hdomain : D.name = reference.domain.getD C.name)
    {T : TypeDef} (hT : T ∈ D.types) (hid : T.id = reference.typeId) :
    ∃ mC ∈ modules, ∃ mD ∈ modules,
      Module.ofDomain package C schema.version = .ok mC ∧
        Module.ofDomain package D schema.version = .ok mD ∧
        LeadsTo package schema.version C D mC mD f hint r.arrays T ∧
        (∀ T' ∈ D.types, Naming.underscore T'.id = Naming.underscore T.id → T' = T) ∧
        (textsOfName D ("cdp_" ++ Naming.underscore T.id) = [(Definition.type T).text D] ↔
          (∀ T' ∈ D.types,
              Text.nfkc (Naming.underscore T'.id) = Text.nfkc (Naming.underscore T.id) → T' = T) ∧
            (∀ c ∈ D.commands, c.returns ≠ [] → Text.nfkc (Naming.underscore c.name) ++ "_result" ≠
              "cdp_" ++ Text.nfkc (Naming.underscore T.id)) ∧
            ∀ c ∈ D.commands, Text.nfkc (Naming.functionName c.name) ≠
              "cdp_" ++ Text.nfkc (Naming.underscore T.id)) := by
  obtain ⟨haccepts, rfl⟩ := modules_eq_ok_iff.1 hmodules
  have hacceptsC := haccepts C hC
  have hacceptsD := haccepts D hD
  have htype : Definition.type T ∈ definitions D := type_mem_definitions_iff.2 hT
  have hcalled : Naming.typeName T.id = "cdp_" ++ Naming.underscore T.id := rfl
  have hdeclares := declares_typeName D.name T
  have honly := hacceptsD.filter_texts htype
  have hforms := hacceptsD.textsOfName_typeName_iff hT
  rw [hcalled] at hdeclares hforms
  rw [Definition.name, hcalled] at honly
  refine ⟨_, List.mem_map_of_mem hC, _, List.mem_map_of_mem hD,
    ofDomain_eq_ok_iff.2 ⟨hacceptsC, rfl⟩, ofDomain_eq_ok_iff.2 ⟨hacceptsD, rfl⟩,
    ⟨⟨hannotates.infix_text, infix_source package _ hf⟩, ?_, ?_, source_documented package D _,
      fun g hg => hacceptsD.definedName?_text hg, hdeclares, honly⟩, ?_, hforms⟩
  · rw [← hcalled, hid, hdomain]
    exact (hannotates.linksTo hleaf).expression_eq
  · intro hother
    rw [hdomain] at hother ⊢
    exact importsForChecking_of_mem_domains package _ hacceptsC
      (hannotates.mem_domains hf hleaf hother)
  · intro T' hT' hname
    have hsame := List.inj_on_of_nodup_map hacceptsD.nodup_definitions
      (type_mem_definitions_iff.2 hT') htype (congrArg (Naming.typeMark ++ ·) hname)
    exact Definition.type.inj hsame

/-- The domain of the frames that `linkedDomain` refers to, with a command besides. -/
def frameDomain : Domain where
  name := "Page"
  types := [{ id := "FrameId", shape := .primitive "string" }, { id := "Frame" }]
  commands := [{ name := "getFrame", returns := [{ name := "frame" }] }]

/-- The array of arrays of frames among the types of `linkedDomain`. -/
def linkedFrames : TypeDef where
  id := "Frames"
  shape := .array (.array (.named ⟨some "Page", "FrameId"⟩))

def frameId : TypeDef where
  id := "FrameId"
  shape := .primitive "string"

theorem annotation_links_frames : ∃ modules mC mD hint,
    Package.modules "rpc" { version := "tot", domains := [linkedDomain, frameDomain] } =
        .ok modules ∧
      mC ∈ modules ∧ mD ∈ modules ∧ hint.expression = "\"list[list[Page.cdp_frame_id]]\"" ∧
      LeadsTo "rpc" "tot" linkedDomain frameDomain mC mD (.type linkedFrames) hint 2 frameId ∧
      ImportsForChecking "rpc" mC.source "Page" ∧
      textsOfName frameDomain "cdp_frame_id" = ["cdp_frame_id: TypeAlias = str"] := by
  have hok : (Package.modules "rpc"
      { version := "tot", domains := [linkedDomain, frameDomain] }).isOk = true := by
    decide
  obtain ⟨modules, hmodules⟩ := Results.isOk_eq_true_iff.1 hok
  have hframes : Definition.type linkedFrames ∈ definitions linkedDomain := by decide
  have hframeId : frameId ∈ frameDomain.types := List.mem_cons_self
  obtain ⟨mC, hmC, mD, hmD, -, -, hleads, -, honly⟩ :=
    annotation_links hmodules (C := linkedDomain) (D := frameDomain) (by simp) (by simp) hframes
      (.target rfl) rfl rfl hframeId rfl
  have hexpression : (ofTypeRef "Network"
      (.array (.array (.named ⟨some "Page", "FrameId"⟩)))).expression =
      "\"list[list[Page.cdp_frame_id]]\"" := by
    decide
  have htext : (Definition.type frameId).text frameDomain = "cdp_frame_id: TypeAlias = str" := by
    decide
  have hone := honly.2 (by decide)
  rw [htext] at hone
  exact ⟨modules, mC, mD, _, hmodules, hmC, hmD, hexpression, hleads, hleads.imported (by decide),
    hone⟩

/-- A domain with two types whose names have one normal form, and an array of the first. -/
def ligatureDomain : Domain where
  name := "Page"
  types :=
    [{ id := "Afi", shape := .primitive "string" }, { id := "Aﬁ", shape := .primitive "integer" },
      { id := "Names", shape := .array (.named ⟨none, "Afi"⟩) }]

/-- An annotation leads to a name that two declarations give, the later one of another type. -/
theorem textsOfName_ligature : ∃ m hint,
    Package.modules "rpc" { version := "tot", domains := [ligatureDomain] } = .ok [m] ∧
      Annotates ligatureDomain (.type { id := "Names", shape := .array (.named ⟨none, "Afi"⟩) })
        (.array (.named ⟨none, "Afi"⟩)) hint ∧
      hint.expression = "\"list[cdp_afi]\"" ∧ hint.expression.toList <:+: m.source.toList ∧
      textsOfName ligatureDomain "cdp_afi" =
        ["cdp_afi: TypeAlias = str", "cdp_aﬁ: TypeAlias = int"] := by
  have hok : (Package.modules "rpc"
      { version := "tot", domains := [ligatureDomain] }).isOk = true := by
    decide +kernel
  obtain ⟨modules, hmodules⟩ := Results.isOk_eq_true_iff.1 hok
  obtain ⟨-, rfl⟩ := modules_eq_ok_iff.1 hmodules
  have hmem : Definition.type { id := "Names", shape := .array (.named ⟨none, "Afi"⟩) } ∈
      definitions ligatureDomain := type_mem_definitions_iff.2 (by simp [ligatureDomain])
  have hannotates : Annotates ligatureDomain
      (.type { id := "Names", shape := .array (.named ⟨none, "Afi"⟩) }) _ _ := .target rfl
  have hexpression : (ofTypeRef ligatureDomain.name (.array (.named ⟨none, "Afi"⟩))).expression =
      "\"list[cdp_afi]\"" := by
    decide
  have hwritten := hannotates.infix_text.trans (infix_source "rpc" "tot" hmem)
  have htexts : textsOfName ligatureDomain "cdp_afi" =
      ["cdp_afi: TypeAlias = str", "cdp_aﬁ: TypeAlias = int"] := by
    decide +kernel
  exact ⟨_, _, hmodules, hannotates, hexpression, hwritten, htexts⟩

end Package

end ProtocolBindings
