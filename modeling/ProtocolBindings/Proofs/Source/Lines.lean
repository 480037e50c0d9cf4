import ProtocolBindings.Proofs.Json.Quoted
import ProtocolBindings.Proofs.Source.Captures
import ProtocolBindings.Proofs.Source.Documentation
import ProtocolBindings.Proofs.Source.Listing

/-!
# The lines of definitions

A line that opens a block for the type checker stands at the head of a module only.  The lines of a
definition either begin in a way in which that line does not, or they hold none of its capitals:
names have no capitals, documentation is indented or stands behind a number sign, and the keys of
fields are indented.
-/

namespace ProtocolBindings

namespace Lexical

variable {p : List Char → Prop} {a b text front rest : String} {texts : List String}

/-- Whether every line of a text has a property. -/
def EachLine (p : List Char → Prop) (text : String) : Prop :=
  ∀ line ∈ linesOf text, p line

theorem EachLine.append (ha : EachLine p a) (hb : EachLine p b) : EachLine p (a ++ "\n" ++ b) := by
  rw [EachLine, linesOf_append, List.forall_mem_append]
  exact ⟨ha, hb⟩

theorem eachLine_empty (h : p []) : EachLine p "" := by
  rw [EachLine, linesOf_of_notMem (by simp), List.forall_mem_singleton]
  exact h

theorem eachLine_of_notMem (h : '\n' ∉ text.toList) (hp : p text.toList) : EachLine p text := by
  rw [EachLine, linesOf_of_notMem h, List.forall_mem_singleton]
  exact hp

/-- Texts that are joined by line feeds, perhaps with some empty lines between them. -/
theorem EachLine.intercalate {separator : String} (hnil : p [])
    (hseparator : separator = "\n" ∨ separator = "\n\n" ∨ separator = "\n\n\n")
    (h : ∀ t ∈ texts, EachLine p t) : EachLine p (separator.intercalate texts) := by
  have hjoin : ∀ {x y : String}, EachLine p x → EachLine p y →
      EachLine p (x ++ separator ++ y) := by
    intro x y hx hy
    have hempty := eachLine_empty hnil
    have htwo : "\n\n" = "\n" ++ "" ++ "\n" := by decide
    have hthree : "\n\n\n" = "\n" ++ "" ++ "\n" ++ "" ++ "\n" := by decide
    rcases hseparator with rfl | rfl | rfl
    · exact hx.append hy
    · rw [htwo]
      simpa only [String.append_assoc] using (hx.append hempty).append hy
    · rw [hthree]
      simpa only [String.append_assoc] using ((hx.append hempty).append hempty).append hy
  induction texts with
  | nil => exact eachLine_empty hnil
  | cons first rest ih =>
    rw [List.forall_mem_cons] at h
    cases rest with
    | nil =>
      rw [String.intercalate_singleton]
      exact h.1
    | cons second rest =>
      rw [String.intercalate_cons_cons]
      exact hjoin h.1 (ih h.2)

theorem EachLine.lines (hnil : p []) (h : ∀ t ∈ texts, EachLine p t) :
    EachLine p ("\n".intercalate texts) :=
  .intercalate hnil (Or.inl rfl) h

/-- A text goes on with the first line of what is put behind it. -/
theorem eachLine_append_of_notMem (hfront : '\n' ∉ front.toList)
    (hfirst : ∀ cs, p (front.toList ++ cs)) (hrest : ∀ line ∈ (linesOf rest).tail, p line) :
    EachLine p (front ++ rest) := by
  have hnone : ∀ c ∈ front.toList, (c == '\n') = false := by
    intro c hc
    exact beq_eq_false_iff_ne.2 (ne_of_mem_of_not_mem hc hfront)
  rw [EachLine, linesOf, String.toList_append, Text.pieces_append_of_forall_not hnone,
    List.forall_mem_cons]
  exact ⟨hfirst _, hrest⟩

/-! ## The mark of the type checker -/

/-- The line that opens a block for the type checker. -/
def checkingLine : String := "if TYPE_CHECKING:"

/-- Whether no line of a text opens a block for the type checker. -/
abbrev NoChecks (text : String) : Prop :=
  EachLine (· ≠ checkingLine.toList) text

theorem ne_checkingLine_nil : ([] : List Char) ≠ checkingLine.toList := by
  decide

theorem ne_checkingLine_of_notMem {line : List Char} (h : 'K' ∉ line) :
    line ≠ checkingLine.toList := by
  rintro rfl
  exact h (by decide)

theorem ne_checkingLine_of_head? {line : List Char} {c : Char} (h : line.head? = some c)
    (hc : c ≠ 'i') : line ≠ checkingLine.toList := by
  rintro rfl
  exact hc (Option.some.inj (h.symm.trans (by decide : _ = some 'i')))

theorem noChecks_of_notMem (h : 'K' ∉ text.toList) : NoChecks text :=
  fun _ hline => ne_checkingLine_of_notMem fun hK => h (Text.mem_of_mem_pieces hline hK)

/-- A text that begins its line in another way, with something behind it that has no more lines or
lacks a capital of the mark. -/
theorem noChecks_append {c : Char} (hfront : '\n' ∉ front.toList)
    (hhead : front.toList.head? = some c) (hc : c ≠ 'i')
    (hrest : '\n' ∉ rest.toList ∨ 'K' ∉ rest.toList) : NoChecks (front ++ rest) := by
  refine eachLine_append_of_notMem hfront (fun cs => ?_) fun line hline => ?_
  · exact ne_checkingLine_of_head? (by rw [List.head?_append, hhead]; rfl) hc
  · rcases hrest with hrest | hrest
    · rw [linesOf_of_notMem hrest] at hline
      cases hline
    · refine ne_checkingLine_of_notMem fun hK => hrest ?_
      exact Text.mem_of_mem_pieces (List.mem_of_mem_tail hline) hK

end Lexical

open Lexical

/-! ## Functions -/

namespace Doc

variable {cs : List Char}

/-- The lines of a docstring are empty or begin with its margin. -/
theorem lines_indent {line : List Char}
    (hline : line ∈ Text.pieces (· == '\n') (Text.indent "    ".toList cs)) :
    line = [] ∨ line.head? = some ' ' := by
  cases hlines : Text.splitLines cs with
  | nil =>
    rw [Text.indent, hlines] at hline
    exact Or.inl (List.mem_singleton.1 hline)
  | cons first others =>
    have hsplit : ∀ line ∈ (Text.splitLines cs).map fun line =>
        if line.isEmpty then [] else "    ".toList ++ line, '\n' ∉ line := by
      rw [List.forall_mem_map]
      intro line hline
      split
      · simp
      · rw [List.mem_append, not_or]
        refine ⟨by decide, fun hmem => ?_⟩
        exact absurd (Text.not_isLineBreak_of_mem_splitLines hline hmem) (by decide)
    rw [Text.indent, Text.joinLines,
      Text.pieces_intercalate (by simp [hlines]) hsplit] at hline
    obtain ⟨line, -, rfl⟩ := List.mem_map.1 hline
    split
    · exact Or.inl rfl
    · exact Or.inr rfl

theorem noChecks_functionDocstring (text : String) : NoChecks (functionDocstring text) := by
  have hopening : '\n' ∉ ("    " ++ tripleQuote).toList := by decide
  have hfirst : ∀ cs, ("    " ++ tripleQuote).toList ++ cs ≠ checkingLine.toList :=
    fun cs => ne_checkingLine_of_head? (c := ' ') rfl (by decide)
  rw [functionDocstring]
  split
  · have hbody : NoChecks ("    " ++ tripleQuote ++
        String.ofList (Text.trimStart (Text.indent "    ".toList (escape text).toList))) := by
      refine eachLine_append_of_notMem hopening hfirst fun line hline => ?_
      rw [linesOf, String.toList_ofList] at hline
      have hmem := Text.mem_tail_pieces_append hline
        ((Text.indent "    ".toList (escape text).toList).takeWhile Text.isBlank)
      rw [Text.trimStart, List.takeWhile_append_dropWhile] at hmem
      rcases lines_indent (List.mem_of_mem_tail hmem) with rfl | hhead
      · exact ne_checkingLine_nil
      · exact ne_checkingLine_of_head? hhead (by decide)
    have hclosing : NoChecks ("    " ++ tripleQuote) :=
      eachLine_of_notMem hopening (by decide)
    have hgap : "\n    " = "\n" ++ "    " := by decide
    rw [hgap]
    simpa only [String.append_assoc] using hbody.append hclosing
  · rename_i hline
    have hbody : '\n' ∉ (escape text ++ tripleQuote).toList := by
      rw [String.toList_append, List.mem_append, not_or]
      exact ⟨by simpa using hline, by decide⟩
    rw [String.append_assoc]
    refine eachLine_append_of_notMem hopening hfirst ?_
    rw [linesOf_of_notMem hbody]
    simp

end Doc

/-- Names have no capitals. -/
theorem Module.notMem_name (f : Module.Definition) : 'K' ∉ f.name.toList :=
  fun hK => absurd (Module.isBasicUpper_name hK) (by decide)

theorem Declaration.notMem_literal (text : String) : '\n' ∉ (literal text).toList := by
  rw [literal, String.toList_ofList]
  exact Json.notMem_quote (by decide) text.toList

namespace CommandFunction

theorem notMem_resultHint (c : Command) : 'K' ∉ (resultHint c).toList := by
  rw [resultHint]
  split
  · decide
  · exact notMem_append (notMem_append (by decide) (Module.notMem_name (.record c))) (by decide)

theorem notMem_overload {name result : String} {arguments : List String}
    (hname : 'K' ∉ name.toList) (harguments : ∀ a ∈ arguments, 'K' ∉ a.toList)
    (hresult : 'K' ∉ result.toList) : 'K' ∉ (overload name arguments result).toList := by
  have hdef : 'K' ∉ ("def " ++ name).toList := notMem_append (by decide) hname
  have hlines : 'K' ∉ ("\n".intercalate (arguments.map fun a => "    " ++ a ++ ",")).toList := by
    refine notMem_intercalate (by decide) (List.forall_mem_map.2 fun a ha => ?_)
    exact notMem_append (notMem_append (by decide) (harguments a ha)) (by decide)
  rw [overload]
  refine notMem_append (by decide) ?_
  split
  · have hbroken := notMem_append (notMem_append hdef (b := "(\n") (by decide)) hlines
    exact notMem_append (notMem_append (notMem_append hbroken (by decide)) hresult) (by decide)
  · have hline := notMem_append (notMem_append hdef (b := "(") (by decide))
      (notMem_intercalate (by decide : 'K' ∉ ", ".toList) harguments)
    exact notMem_append (notMem_append (notMem_append hline (by decide)) hresult) (by decide)

theorem noChecks_implementation {name result docText method : String}
    (hname : 'K' ∉ name.toList) (hresult : 'K' ∉ result.toList) :
    NoChecks (implementation name result docText method) := by
  have hmethod : NoChecks ("        " ++ Declaration.literal method ++ ",") := by
    rw [String.append_assoc]
    refine noChecks_append (c := ' ') (by decide) (by decide) (by decide) (Or.inl ?_)
    exact notMem_append (Declaration.notMem_literal method) (by decide)
  have hclose : 'K' ∉ (") -> " ++ result ++ ":").toList :=
    notMem_append (notMem_append (by decide) hresult) (by decide)
  have hopen : 'K' ∉ ("def " ++ name ++ "(").toList :=
    notMem_append (notMem_append (by decide) hname) (by decide)
  rw [implementation]
  refine .lines ne_checkingLine_nil ?_
  simp only [List.forall_mem_cons]
  exact ⟨noChecks_of_notMem hopen, noChecks_of_notMem (by decide), noChecks_of_notMem (by decide),
    noChecks_of_notMem (by decide), noChecks_of_notMem hclose, Doc.noChecks_functionDocstring _,
    noChecks_of_notMem (by decide), noChecks_of_notMem (by decide), hmethod,
    noChecks_of_notMem (by decide), noChecks_of_notMem (by decide), noChecks_of_notMem (by decide),
    List.forall_mem_nil _⟩

theorem noChecks_documented (domain : String) (c : Command) :
    NoChecks (documented domain c).source := by
  have hname := Module.notMem_name (.function c)
  have hoverload : ∀ arguments : List String, (∀ a ∈ arguments, 'K' ∉ a.toList) →
      NoChecks (overload (Naming.functionName c.name) arguments (resultHint c)) :=
    fun arguments harguments =>
      noChecks_of_notMem (notMem_overload hname harguments (notMem_resultHint c))
  rw [documented, sourceText]
  refine .intercalate ne_checkingLine_nil (Or.inr (Or.inr rfl)) ?_
  simp only [List.forall_mem_cons]
  exact ⟨hoverload _ (by decide), hoverload _ (by decide), hoverload _ (by decide),
    noChecks_implementation hname (notMem_resultHint c), List.forall_mem_nil _⟩

end CommandFunction

/-! ## Records and types -/

/-- A hint that has no more lines or lacks a capital of the mark. -/
def TypeHint.IsQuiet (hint : TypeHint) : Prop :=
  '\n' ∉ hint.expression.toList ∨ 'K' ∉ hint.expression.toList

namespace Declaration

theorem noChecks_recordField {field : String × TypeHint} (h : field.2.IsQuiet) :
    NoChecks (recordField field) := by
  have hopening : '\n' ∉ ("        " ++ literal field.1 ++ ": ").toList :=
    notMem_append (notMem_append (by decide) (notMem_literal field.1)) (by decide)
  rw [recordField, String.append_assoc]
  refine noChecks_append (c := ' ') hopening (by simp) (by decide) ?_
  exact h.imp (notMem_append · (by decide)) (notMem_append · (by decide))

theorem noChecks_recordText {name : String} {fields : List (String × TypeHint)}
    (hname : 'K' ∉ name.toList) (h : ∀ field ∈ fields, field.2.IsQuiet) :
    NoChecks (recordText name fields) := by
  rw [recordText]
  split
  · refine noChecks_of_notMem ?_
    exact notMem_append (notMem_append (notMem_append hname (by decide)) hname) (by decide)
  · refine .lines ne_checkingLine_nil ?_
    simp only [List.forall_mem_append, List.forall_mem_cons, List.forall_mem_map]
    refine ⟨⟨⟨noChecks_of_notMem (notMem_append hname (by decide)), ?_,
      noChecks_of_notMem (by decide), List.forall_mem_nil _⟩,
      fun field hfield => noChecks_recordField (h field hfield)⟩,
      noChecks_of_notMem (by decide), noChecks_of_notMem (by decide), List.forall_mem_nil _⟩
    exact noChecks_of_notMem (notMem_append (notMem_append (by decide) hname) (by decide))

theorem noChecks_bareOfTypeDef {domain : String} {t : TypeDef}
    (hname : Text.isIdentifier (Naming.typeName t.id))
    (h : ∀ hint ∈ (bareOfTypeDef domain t).hints, hint.IsQuiet) :
    NoChecks (bareOfTypeDef domain t).text := by
  have hK := Module.notMem_name (.type t)
  have hline : '\n' ∉ (Naming.typeName t.id ++ ": TypeAlias = ").toList :=
    notMem_append (isPlain_of_isIdentifier hname).notMem_lineFeed (by decide)
  rw [bareOfTypeDef] at h ⊢
  split at h
  · exact noChecks_recordText hK fun field hfield => h _ (List.mem_map_of_mem hfield)
  · exact noChecks_append (c := 'c') hline (by simp [Naming.typeName, Naming.typeMark]) (by decide)
      (h _ (List.mem_singleton.2 rfl))

end Declaration

theorem Module.IsComment.noChecks {line : String} (h : Module.IsComment line) : NoChecks line := by
  obtain ⟨text, rfl, htext⟩ := h
  refine noChecks_append (c := '#') (by decide) (by decide) (by decide) (Or.inl fun hmem => ?_)
  exact absurd (htext _ hmem) (by decide)

namespace Module

variable {d : Domain} {f : Definition}

/-- The lines of the function that tells whether the domain is experimental: the first one, and
others with a margin. -/
theorem eachLine_experimentalFunction {p : List Char → Prop} (h : Accepts d)
    (hopening : p "def experimental() -> bool:".toList)
    (hmargin : ∀ cs, p ("    ".toList ++ cs)) : EachLine p (experimentalFunction d) := by
  have hname := (isPlain_of_isIdentifier h.domainName).notMem_lineFeed
  have hindented : ∀ text : String, '\n' ∉ text.toList → EachLine p ("    " ++ text) := by
    intro text htext
    refine eachLine_of_notMem (notMem_append (by decide) htext) ?_
    rw [String.toList_append]
    exact hmargin _
  have hdocstring : '\n' ∉ (Doc.tripleQuote ++ "Whether the " ++ d.name ++
      " domain is marked experimental." ++ Doc.tripleQuote).toList :=
    notMem_append (notMem_append (notMem_append (by decide) hname) (by decide)) (by decide)
  have hreturn : '\n' ∉ ("return " ++ if d.experimental then "True" else "False").toList := by
    split <;> decide
  have hlines := ((eachLine_of_notMem (by decide) hopening).append
    (hindented _ hdocstring)).append (hindented _ hreturn)
  have htext : experimentalFunction d = "def experimental() -> bool:" ++ "\n" ++
      ("    " ++ (Doc.tripleQuote ++ "Whether the " ++ d.name ++
        " domain is marked experimental." ++ Doc.tripleQuote)) ++ "\n" ++
          ("    " ++ ("return " ++ if d.experimental then "True" else "False")) := by
    delta experimentalFunction
    apply String.toList_inj.1
    simp [experimentalName]
  rw [htext]
  exact hlines

/-- No definition opens a block for the type checker, if its hints are quiet. -/
theorem Definition.noChecks_text (h : Accepts d) (hf : f ∈ definitions d)
    (hhints : ∀ hint ∈ f.hints d, hint.IsQuiet) : NoChecks (f.text d) := by
  cases f with
  | experimental =>
    exact eachLine_experimentalFunction h (by decide)
      fun cs => ne_checkingLine_of_head? (c := ' ') rfl (by decide)
  | type t =>
    have hname := h.typeName t (type_mem_definitions_iff.1 hf)
    rw [Definition.text, Declaration.documented]
    refine .lines ne_checkingLine_nil ?_
    rw [List.forall_mem_append, List.forall_mem_singleton]
    exact ⟨fun line hline => (isComment_of_mem_typeComment t line hline).noChecks,
      Declaration.noChecks_bareOfTypeDef hname hhints⟩
  | record c =>
    have hname := h.functionName c (record_mem_definitions_iff.1 hf).1
    have hcomment := isComment_resultComment (isPlain_of_isIdentifier h.domainName)
      (isPlain_of_isIdentifier hname)
    rw [Definition.text, text_ofResult]
    refine hcomment.noChecks.append (Declaration.noChecks_recordText (notMem_name (.record c)) ?_)
    exact fun field hfield => hhints _ (List.mem_map_of_mem hfield)
  | function c => exact CommandFunction.noChecks_documented d.name c

end Module

end ProtocolBindings
