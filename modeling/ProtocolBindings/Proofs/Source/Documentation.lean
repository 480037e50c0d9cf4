import ProtocolBindings.Proofs.Source.Definitions
import ProtocolBindings.Proofs.Source.Head
import ProtocolBindings.Proofs.Source.Undocumented
import ProtocolBindings.Proofs.Text.Lines

/-!
# Documentation never becomes code

Free text of the protocol reaches a module in docstrings and in comment lines only.  Two domains
that differ in their documentation alone therefore have modules with the same code: the texts that
remain without docstrings and comment lines are equal.
-/

namespace ProtocolBindings

open Lexical

namespace Module

/-! ## Comments in front of declarations -/

theorem not_isLineEnd_of_mem_lines {text line : String} (h : line ∈ Doc.lines text) :
    ∀ c ∈ line.toList, isLineEnd c = false := by
  obtain ⟨cs, hcs, rfl⟩ := List.mem_map.1 h
  intro c hc
  rw [String.toList_ofList] at hc
  have hbreak := Text.not_isLineBreak_of_mem_splitLines hcs hc
  cases hend : isLineEnd c with
  | false => rfl
  | true =>
    simp only [isLineEnd, Bool.or_eq_true, beq_iff_eq] at hend
    rcases hend with rfl | rfl <;> exact absurd hbreak (by decide)

/-- A line with nothing but a comment. -/
def IsComment (line : String) : Prop :=
  ∃ text, line = "#" ++ text ∧ ∀ c ∈ text.toList, isLineEnd c = false

theorem IsComment.readsAs {line : String} (h : IsComment line) : ReadsAs (line ++ "\n") "" := by
  obtain ⟨text, rfl, htext⟩ := h
  exact readsAs_comment htext

theorem isComment_empty : IsComment "#:" :=
  ⟨":", by decide, IsPlain.not_isLineEnd (by decide)⟩

/-- A line of text in a comment is a comment of its own. -/
theorem isComment_commentLine {line : String} (h : ∀ c ∈ line.toList, isLineEnd c = false) :
    IsComment (Doc.commentLine line) := by
  rw [Doc.commentLine]
  split
  · exact isComment_empty
  · refine ⟨": " ++ line, ?_, ?_⟩
    · rw [← String.append_assoc]
      rfl
    · intro c hc
      rw [String.toList_append, List.mem_append] at hc
      rcases hc with hc | hc
      · exact IsPlain.not_isLineEnd (by decide : IsPlain ": ") c hc
      · exact h c hc

theorem isComment_appendParagraph {comment : List String} (h : ∀ line ∈ comment, IsComment line)
    (paragraph : String) : ∀ line ∈ Doc.appendParagraph comment paragraph, IsComment line := by
  intro line hline
  rw [Doc.appendParagraph, List.mem_append] at hline
  rcases hline with hline | hline
  · split at hline
    · simp at hline
    · rcases List.mem_append.1 hline with hline | hline
      · exact h line hline
      · rw [List.mem_singleton.1 hline]
        exact isComment_empty
  · obtain ⟨text, htext, rfl⟩ := List.mem_map.1 hline
    exact isComment_commentLine (not_isLineEnd_of_mem_lines htext)

theorem isComment_of_mem_typeComment (t : TypeDef) :
    ∀ line ∈ Doc.typeComment t, IsComment line := by
  suffices hfold : ∀ (paragraphs comment : List String), (∀ line ∈ comment, IsComment line) →
      ∀ line ∈ paragraphs.foldl Doc.appendParagraph comment, IsComment line from
    hfold (Doc.typeParagraphs t) [] (by simp)
  intro paragraphs
  induction paragraphs with
  | nil => exact fun comment h => h
  | cons paragraph rest ih =>
    intro comment h
    exact ih _ (isComment_appendParagraph h paragraph)

theorem readsAs_of_mem_typeComment (t : TypeDef) :
    ∀ line ∈ Doc.typeComment t, ReadsAs (line ++ "\n") "" :=
  fun line hline => (isComment_of_mem_typeComment t line hline).readsAs

/-- Comment lines in front of code leave the code. -/
theorem readsAs_behind_comment {comment : List String} {code : String}
    (hcomment : ∀ line ∈ comment, ReadsAs (line ++ "\n") "") (hcode : IsCode code) :
    ReadsAs ("\n".intercalate (comment ++ [code]) ++ "\n") (code ++ "\n") := by
  induction comment with
  | nil => simpa using readsAs_code code hcode
  | cons line rest ih =>
    rw [List.forall_mem_cons] at hcomment
    have hlines := hcomment.1.append (ih hcomment.2)
    cases rest with
    | nil => simpa [String.append_assoc] using hlines
    | cons next rest => simpa [String.append_assoc] using hlines

/-! ## Definitions -/

theorem alike_documented_type {domain : String} {t : TypeDef}
    (h : IsCode (Declaration.bareOfTypeDef domain t).text) :
    Alike (Declaration.documented domain t.undocumented).text
      (Declaration.documented domain t).text := by
  refine ⟨(Declaration.bareOfTypeDef domain t).text, ?_, ?_⟩
  · rw [Declaration.documented, Declaration.bareOfTypeDef_undocumented]
    exact readsAs_behind_comment (readsAs_of_mem_typeComment t.undocumented) h
  · exact readsAs_behind_comment (readsAs_of_mem_typeComment t) h

/-- The comment in front of the record of what a command returns. -/
def resultComment (domain : String) (c : Command) : String :=
  "#: Result of " ++ CommandFunction.wireMethod domain c.name ++ "."

theorem text_ofResult (domain : String) (c : Command) :
    (Declaration.ofResult domain c (CommandFunction.wireMethod domain c.name)).text =
      resultComment domain c ++ "\n" ++ Declaration.recordText (Naming.resultName c.name)
        (TypeHint.ofFields domain c.returns) := by
  delta resultComment
  apply String.toList_inj.1
  simp [Declaration.ofResult]

theorem isComment_resultComment {domain : String} {c : Command} (hdomain : IsPlain domain)
    (hname : IsPlain (Naming.functionName c.name)) : IsComment (resultComment domain c) := by
  refine ⟨": Result of " ++ CommandFunction.wireMethod domain c.name ++ ".", ?_, ?_⟩
  · delta resultComment
    apply String.toList_inj.1
    simp
  · intro c' hc'
    simp only [CommandFunction.wireMethod, String.toList_append, List.mem_append] at hc'
    rcases hc' with (hc' | (hc' | hc') | hc') | hc'
    · exact IsPlain.not_isLineEnd (by decide : IsPlain ": Result of ") c' hc'
    · exact hdomain.not_isLineEnd c' hc'
    · exact IsPlain.not_isLineEnd (by decide : IsPlain ".") c' hc'
    · exact Naming.not_isLineEnd_of_functionName hname c' hc'
    · exact IsPlain.not_isLineEnd (by decide : IsPlain ".") c' hc'

theorem readsAs_resultComment {domain : String} {c : Command} (hdomain : IsPlain domain)
    (hname : IsPlain (Naming.functionName c.name)) :
    ReadsAs (resultComment domain c ++ "\n") "" :=
  (isComment_resultComment hdomain hname).readsAs

/-- The record of the values that a command returns reads as itself without its comment. -/
theorem alike_ofResult {domain : String} {c : Command} (hdomain : IsPlain domain)
    (hname : IsPlain (Naming.functionName c.name))
    (hreturns : ∀ p ∈ c.returns, p.typeRef.IsWellFormed) :
    Alike (Declaration.ofResult domain c (CommandFunction.wireMethod domain c.name)).text
      (Declaration.ofResult domain c (CommandFunction.wireMethod domain c.name)).text := by
  have hrecord : IsCode (Declaration.recordText (Naming.resultName c.name)
      (TypeHint.ofFields domain c.returns)) :=
    Declaration.isCode_recordText (Naming.isPlain_resultName hname) fun field hfield =>
      TypeHint.isPlain_of_mem_ofFields hreturns hfield
  have hreads := (readsAs_resultComment hdomain hname).append (readsAs_code _ hrecord)
  rw [String.empty_append, ← String.append_assoc, ← text_ofResult] at hreads
  exact ⟨_, hreads, hreads⟩

/-- Blocks with two empty lines between them are alike if they are alike one by one. -/
theorem alike_blocks {as bs : List String} (h : List.Forall₂ Alike as bs) :
    Alike ("\n\n\n".intercalate as) ("\n\n\n".intercalate bs) :=
  alike_intercalate (by decide) (readsAs_lineFeed.append readsAs_lineFeed) h

theorem alike_paragraphs {as bs : List String} (h : List.Forall₂ Alike as bs) :
    Alike ("\n\n".intercalate as) ("\n\n".intercalate bs) :=
  alike_intercalate (by decide) readsAs_lineFeed h

/-- The function of a command reads as that of the command without its documentation. -/
theorem alike_documented_function {domain : String} {c : Command}
    (hname : IsPlain (Naming.functionName c.name)) :
    Alike (CommandFunction.documented domain c.undocumented).source
      (CommandFunction.documented domain c).source := by
  have hhint : CommandFunction.resultHint c.undocumented = CommandFunction.resultHint c := by
    rw [CommandFunction.resultHint, CommandFunction.resultHint, c.isEmpty_returns_undocumented]
    rfl
  have hresult := CommandFunction.isPlain_resultHint hname
  have hoverload : ∀ arguments : List String, (∀ a ∈ arguments, IsPlain a) →
      Alike (CommandFunction.overload (Naming.functionName c.name) arguments
          (CommandFunction.resultHint c))
        (CommandFunction.overload (Naming.functionName c.name) arguments
          (CommandFunction.resultHint c)) :=
    fun arguments harguments =>
      alike_of_code _ (CommandFunction.isCode_overload hname harguments hresult)
  rw [CommandFunction.documented, CommandFunction.documented, CommandFunction.sourceText,
    CommandFunction.sourceText, hhint]
  exact alike_blocks
    (.cons (hoverload _ (by decide)) <|
    .cons (hoverload _ (by decide)) <|
    .cons (hoverload _ (by decide)) <|
    .cons (CommandFunction.alike_implementation hname hresult _ _ _) .nil)

theorem CommandPart.alike_documented {domain : String} {c : Command} (hdomain : IsPlain domain)
    (hname : IsPlain (Naming.functionName c.name))
    (hreturns : ∀ p ∈ c.returns, p.typeRef.IsWellFormed) :
    Alike (CommandPart.documented domain c.undocumented).source
      (CommandPart.documented domain c).source := by
  have hfunction : Alike (CommandFunction.documented domain c.undocumented).source
      (CommandFunction.documented domain c).source := alike_documented_function hname
  rw [CommandPart.source, CommandPart.source, CommandPart.result_undocumented]
  cases hempty : c.returns.isEmpty with
  | true => simpa [CommandPart.documented, hempty] using hfunction
  | false =>
    have hblocks := alike_blocks (.cons (alike_ofResult hdomain hname hreturns)
      (.cons hfunction .nil))
    simpa [CommandPart.documented, hempty] using hblocks

/-- The function that tells whether the domain is experimental reads without its docstring. -/
theorem alike_experimentalFunction {d : Domain} (hname : IsPlain d.name) :
    Alike (experimentalFunction d) (experimentalFunction d) := by
  have hwords : ∀ c ∈ ("Whether the " ++ d.name ++ " domain is marked experimental.").toList,
      isPlain c :=
    (IsPlain.append (by decide) hname).append (by decide)
  have hbody := docstringBody_of_isPlain hwords .nil
  rw [List.append_nil] at hbody
  have hdocstring := readsAs_docstring "    " _ (by simp [isIndentation]) hbody
    (docstringBody_of_isPlain hwords Doc.docstringBody_two_quotes)
  have hvalue : IsPlain (if d.experimental then "True" else "False") := by
    split <;> decide
  have hreturn := IsPlain.append (by decide : IsPlain "    return ") hvalue
  have hopen : IsPlain "def experimental() -> bool:" := by decide
  have hreads := ((readsAs_code _ hopen.isCode).append hdocstring).append
    (readsAs_code _ hreturn.isCode)
  have htext : experimentalFunction d ++ "\n" =
      "def experimental() -> bool:" ++ "\n" ++ ("    " ++ "\"\"\"" ++
        ("Whether the " ++ d.name ++ " domain is marked experimental.") ++ "\"\"\"" ++ "\n") ++
          ("    return " ++ (if d.experimental then "True" else "False") ++ "\n") := by
    delta experimentalFunction
    apply String.toList_inj.1
    simp [experimentalName, Doc.tripleQuote]
  rw [← htext, ← String.append_assoc] at hreads
  exact ⟨_, hreads, hreads⟩

/-! ## Modules -/

variable {package version : String} {d : Domain}

/-- The blocks at the head of a module are alike: only the docstring differs. -/
theorem alike_head_blocks (version : String) (hpackage : Config.isPackageName package)
    (hwell : d.IsWellFormed) (h : Accepts d) :
    List.Forall₂ Alike
      ([moduleDocstring d.undocumented version, "from __future__ import annotations"] ++
        importBlocks package d.undocumented.name (.documented d.undocumented) ++
          [exportList (Contents.documented d.undocumented).names])
      ([moduleDocstring d version, "from __future__ import annotations"] ++
        importBlocks package d.name (.documented d) ++
          [exportList (Contents.documented d).names]) := by
  have hdocstring : Alike (moduleDocstring d.undocumented version) (moduleDocstring d version) :=
    ⟨"", Doc.readsAs_moduleDocstring _, Doc.readsAs_moduleDocstring _⟩
  have hempty : (Contents.documented d.undocumented).commands.isEmpty =
      (Contents.documented d).commands.isEmpty := by
    simp [Contents.documented, Domain.undocumented]
  have himports : importBlocks package d.undocumented.name (.documented d.undocumented) =
      importBlocks package d.name (.documented d) :=
    importBlocks_congr (outlines_undocumented d) hempty
  have hnames : (Contents.documented d.undocumented).names = (Contents.documented d).names := by
    rw [Contents.names_documented, Contents.names_documented, definedNames_undocumented]
  have hexports : IsCode (exportList (Contents.documented d).names) := by
    rw [Contents.names_documented]
    exact isCode_exportList fun name hname => h.isPlain_of_mem_definedNames hname
  rw [himports, hnames]
  refine List.rel_append (List.rel_append (.cons hdocstring (.cons ?_ .nil)) ?_) (.cons ?_ .nil)
  · exact alike_of_code _ (IsPlain.isCode (by decide))
  · exact List.forall₂_same.2 fun block hblock =>
      alike_of_code block (isCode_of_mem_importBlocks hpackage hwell hblock)
  · exact alike_of_code _ hexports

/-- The block of type declarations, which is there if there are types. -/
theorem alike_type_blocks (hwell : d.IsWellFormed) (h : Accepts d) :
    List.Forall₂ Alike
      (if (Contents.documented d.undocumented).types.isEmpty then []
        else ["\n\n".intercalate ((Contents.documented d.undocumented).types.map (·.text))])
      (if (Contents.documented d).types.isEmpty then []
        else ["\n\n".intercalate ((Contents.documented d).types.map (·.text))]) := by
  have hempty : (Contents.documented d.undocumented).types.isEmpty =
      (Contents.documented d).types.isEmpty := by
    simp [Contents.documented, Domain.undocumented]
  have htexts : List.Forall₂ Alike ((Contents.documented d.undocumented).types.map (·.text))
      ((Contents.documented d).types.map (·.text)) := by
    simp only [Contents.documented, Domain.undocumented, List.map_map, List.forall₂_map_left_iff,
      List.forall₂_map_right_iff, List.forall₂_same, Function.comp_apply]
    intro t ht
    exact alike_documented_type (Declaration.isCode_bareOfTypeDef
      (isPlain_of_isIdentifier (h.typeName t ht)) (hwell.items t ht) (hwell.properties t ht))
  rw [hempty]
  split
  · exact .nil
  · exact .cons (alike_paragraphs htexts) .nil

theorem alike_command_blocks (hwell : d.IsWellFormed) (h : Accepts d) :
    List.Forall₂ Alike ((Contents.documented d.undocumented).commands.map (·.source))
      ((Contents.documented d).commands.map (·.source)) := by
  simp only [Contents.documented, Domain.undocumented, List.map_map, List.forall₂_map_left_iff,
    List.forall₂_map_right_iff, List.forall₂_same, Function.comp_apply]
  intro c hc
  exact CommandPart.alike_documented (isPlain_of_isIdentifier h.domainName)
    (isPlain_of_isIdentifier (h.functionName c hc)) (hwell.returns c hc)

/-- The text of a module reads as that of the domain without its documentation. -/
theorem exists_readsAs_undocumented (version : String) (hpackage : Config.isPackageName package)
    (hwell : d.IsWellFormed) (h : Accepts d) :
    ∃ code, ReadsAs (documented package d.undocumented version).source code ∧
      ReadsAs (documented package d version).source code := by
  have hexperimental : experimentalFunction d.undocumented = experimentalFunction d := rfl
  have hblocks := alike_blocks <| List.rel_append (List.rel_append
    (.cons (alike_paragraphs (alike_head_blocks version hpackage hwell h))
      (.cons (alike_experimentalFunction (isPlain_of_isIdentifier h.domainName)) .nil))
    (alike_type_blocks hwell h)) (alike_command_blocks hwell h)
  obtain ⟨code, hundocumented, hdocumented⟩ := hblocks
  refine ⟨code ++ "\n", ?_, hdocumented⟩
  rw [← hexperimental] at hundocumented
  exact hundocumented

/-- Two accepted domains that differ in their documentation only have the same code: both modules
are read to their ends, and what remains without docstrings and comment lines is one text. -/
theorem code?_source_eq {d₁ d₂ : Domain} {m₁ m₂ : Module}
    (hpackage : Config.isPackageName package) (hwell : d₁.IsWellFormed)
    (hsame : d₁.undocumented = d₂.undocumented)
    (h₁ : ofDomain package d₁ version = .ok m₁) (h₂ : ofDomain package d₂ version = .ok m₂) :
    ∃ code, code? m₁.source = some code ∧ code? m₂.source = some code := by
  obtain ⟨haccepts₁, rfl⟩ := ofDomain_eq_ok_iff.1 h₁
  obtain ⟨haccepts₂, rfl⟩ := ofDomain_eq_ok_iff.1 h₂
  have hwell₂ : d₂.IsWellFormed := by
    rw [← Domain.isWellFormed_undocumented_iff, ← hsame]
    exact Domain.isWellFormed_undocumented_iff.2 hwell
  obtain ⟨code₁, hcommon₁, hreads₁⟩ := exists_readsAs_undocumented version hpackage hwell haccepts₁
  obtain ⟨code₂, hcommon₂, hreads₂⟩ := exists_readsAs_undocumented version hpackage hwell₂ haccepts₂
  have hcode : code₁ = code₂ := by
    have hsome := code?_of_readsAs hcommon₁
    rw [hsame, code?_of_readsAs hcommon₂] at hsome
    exact (Option.some.inj hsome).symm
  refine ⟨code₁, code?_of_readsAs hreads₁, ?_⟩
  rw [hcode]
  exact code?_of_readsAs hreads₂

/-- A domain with quotes, backslashes and line ends in its documentation. -/
def quotedPage : Domain where
  name := "Page"
  description := some "\"\"\"\r\nimport os\\"
  types :=
    [{ id := "FrameId"
       description := some "a line\u2028import os \"\"\""
       deprecated := true
       shape := .enumeration "string"
       allowed := some ["\"\"\"\n"] }]
  commands :=
    [{ name := "navigate"
       description := some "\\\"\"\"\n# \""
       parameters := [{ name := "url\"\"\"", typeRef := .primitive "\n\"" }]
       returns := [{ name := "frame\"", typeRef := .named ⟨none, "FrameId"⟩, optional := true }] }]

theorem accepts_quotedPage : Accepts quotedPage where
  domainName := by decide
  typeName := by decide
  functionName := by decide
  distinct := by decide

theorem code?_source_eq_quotedPage :
    ∃ m₁ m₂, ofDomain "app.rpc" quotedPage "tip" = .ok m₁ ∧
      ofDomain "app.rpc" quotedPage.undocumented "tip" = .ok m₂ ∧
        ∃ code, code? m₁.source = some code ∧ code? m₂.source = some code := by
  have hpackage : Config.isPackageName "app.rpc" := by decide
  have hwell : quotedPage.IsWellFormed := by
    refine ⟨by simp [quotedPage, TypeShape.items?], by simp [quotedPage], ?_⟩
    simp only [quotedPage, List.forall_mem_singleton]
    exact ⟨by decide, by simp⟩
  have h₁ : ofDomain "app.rpc" quotedPage "tip" = .ok (documented "app.rpc" quotedPage "tip") :=
    ofDomain_eq_ok_iff.2 ⟨accepts_quotedPage, rfl⟩
  have h₂ : ofDomain "app.rpc" quotedPage.undocumented "tip" =
      .ok (documented "app.rpc" quotedPage.undocumented "tip") :=
    ofDomain_eq_ok_iff.2 ⟨accepts_undocumented accepts_quotedPage, rfl⟩
  have hsame : quotedPage.undocumented = quotedPage.undocumented.undocumented := rfl
  exact ⟨_, _, h₁, h₂, code?_source_eq hpackage hwell hsame h₁ h₂⟩

/-! ## Names with quotes in them -/

/-- Documentation becomes code: two domains differ in nothing else, but their modules are read to
their ends as different code. -/
def BecomesCode (package version : String) (d₁ d₂ : Domain) : Prop :=
  d₁.undocumented = d₂.undocumented ∧ ∃ m₁ m₂ code₁ code₂,
    ofDomain package d₁ version = .ok m₁ ∧ ofDomain package d₂ version = .ok m₂ ∧
      code? m₁.source = some code₁ ∧ code? m₂.source = some code₂ ∧ code₁ ≠ code₂

/-- What stands behind the docstring of a module without commands. -/
def behindDocstring (package : String) (d : Domain) : List Char :=
  let contents := Contents.documented d
  let head := "from __future__ import annotations" ::
    (importBlocks package d.name contents ++ [exportList contents.names])
  -- The texts are taken apart here: a short text is evaluated faster than a long one.
  let experimental :=
    ["def ", experimentalName, "() -> bool:\n    ", Doc.tripleQuote, "Whether the ", d.name,
      " domain is marked experimental.", Doc.tripleQuote, "\n    return ",
      if d.experimental then "True" else "False"]
  '\n' :: (['\n', '\n'].intercalate (head.map String.toList) ++ ['\n', '\n', '\n'] ++
    experimental.flatMap String.toList ++ ['\n', '\n', '\n'] ++
      ['\n', '\n'].intercalate (contents.types.map (·.text.toList)) ++ ['\n'])

theorem toList_source_documented (htypes : d.types ≠ []) (hcommands : d.commands = []) :
    (documented package d version).source.toList =
      (moduleDocstring d version ++ "\n").toList ++ behindDocstring package d := by
  have htexts : (Contents.documented d).types.isEmpty = false := by
    simpa [Contents.documented] using htypes
  have hnone : (Contents.documented d).commands.map (·.source) = [] := by
    simp [Contents.documented, hcommands]
  have hfeeds : "\n\n".toList = ['\n', '\n'] ∧ "\n\n\n".toList = ['\n', '\n', '\n'] ∧
      "\n".toList = ['\n'] := by
    decide
  rw [documented, behindDocstring]
  delta sourceText experimentalFunction
  simp only [htexts, hnone, hfeeds, Bool.false_eq_true, if_false, String.intercalate_cons_cons,
    String.intercalate_singleton, String.toList_append, String.toList_intercalate, List.map_cons,
    List.map_append, List.map_nil, List.map_map, List.flatMap_cons, List.flatMap_nil,
    List.cons_append, List.nil_append, List.append_nil, List.append_assoc, Function.comp_def]

theorem code?_source_documented (htypes : d.types ≠ []) (hcommands : d.commands = []) :
    code? (documented package d version).source =
      (codeFrom .start (behindDocstring package d)).map
        fun code => String.ofList ('\n' :: code) := by
  have hdocstring : ReadsAs (moduleDocstring d version ++ "\n") ("" ++ "\n") :=
    Doc.readsAs_moduleDocstring _
  rw [code?, toList_source_documented htypes hcommands, hdocstring]
  simp [Function.comp_def]

theorem becomesCode_of_types {d₁ d₂ : Domain} (hsame : d₁.undocumented = d₂.undocumented)
    (hcommands : d₁.commands = [] ∧ d₂.commands = []) (htypes : d₁.types ≠ [] ∧ d₂.types ≠ [])
    (haccepts : Accepts d₁ ∧ Accepts d₂)
    (hne : codeFrom .start (behindDocstring package d₁) ≠ none ∧
      codeFrom .start (behindDocstring package d₂) ≠ none ∧
        codeFrom .start (behindDocstring package d₁) ≠
          codeFrom .start (behindDocstring package d₂)) :
    BecomesCode package version d₁ d₂ := by
  obtain ⟨code₁, hcode₁⟩ := Option.ne_none_iff_exists'.1 hne.1
  obtain ⟨code₂, hcode₂⟩ := Option.ne_none_iff_exists'.1 hne.2.1
  refine ⟨hsame, _, _, String.ofList ('\n' :: code₁), String.ofList ('\n' :: code₂),
    ofDomain_eq_ok_iff.2 ⟨haccepts.1, rfl⟩, ofDomain_eq_ok_iff.2 ⟨haccepts.2, rfl⟩, ?_, ?_, ?_⟩
  · rw [code?_source_documented htypes.1 hcommands.1, hcode₁]
    rfl
  · rw [code?_source_documented htypes.2 hcommands.2, hcode₂]
    rfl
  · intro heq
    rw [String.ofList_inj, List.cons.injEq] at heq
    exact hne.2.2 (by rw [hcode₁, hcode₂, heq.2])

/-- A domain with a type that refers to one with quotes in its name. -/
def quotingPage (description : String) : Domain where
  name := "Page"
  types :=
    [{ id := "Frames", shape := .array (.named ⟨none, "a\"\"\"\"b"⟩) },
      { id := "Time", description := some description, shape := .primitive "number" }]

/-- A domain with a type that refers to another domain. -/
def importingPage (description : String) : Domain where
  name := "Page"
  types :=
    [{ id := "Nodes", description := some description
       shape := .array (.named ⟨some "DOM", "Node"⟩) }]

theorem accepts_quotingPage (description : String) : Accepts (quotingPage description) where
  domainName := (by decide : Text.isIdentifier "Page" = true)
  typeName := by
    simp only [quotingPage, List.forall_mem_cons, List.not_mem_nil, false_implies, implies_true,
      and_true]
    decide
  functionName := by simp [quotingPage]
  distinct := by
    change [Naming.typeName "Frames", Naming.typeName "Time"].Nodup
    decide

theorem accepts_importingPage (description : String) : Accepts (importingPage description) where
  domainName := (by decide : Text.isIdentifier "Page" = true)
  typeName := by
    simp only [importingPage, List.forall_mem_singleton]
    decide
  functionName := by simp [importingPage]
  distinct := List.nodup_singleton _

/-- Quotes in the name of a type or of the package open a docstring that a comment closes. -/
theorem becomesCode_quotes :
    BecomesCode "app" "tot" (quotingPage "\"\"\"") (quotingPage "\"\"\" import os") ∧
      BecomesCode "app\"\"\"" "tot" (importingPage "\"\"\"")
        (importingPage "\"\"\" import os") := by
  constructor
  · exact becomesCode_of_types rfl ⟨rfl, rfl⟩ ⟨by simp [quotingPage], by simp [quotingPage]⟩
      ⟨accepts_quotingPage _, accepts_quotingPage _⟩ (by decide +kernel)
  · exact becomesCode_of_types rfl ⟨rfl, rfl⟩ ⟨by simp [importingPage], by simp [importingPage]⟩
      ⟨accepts_importingPage _, accepts_importingPage _⟩ (by decide +kernel)

end Module

end ProtocolBindings
