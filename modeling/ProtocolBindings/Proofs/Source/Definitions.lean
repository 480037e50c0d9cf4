import ProtocolBindings.Proofs.Doc.Docstring
import ProtocolBindings.Proofs.Json.Quoted
import ProtocolBindings.Proofs.Source.Hints

/-!
# Definitions in code

Records, declarations and signatures are code; a function is code apart from its docstring.
-/

namespace ProtocolBindings

open Lexical

namespace Declaration

theorem literalBody_append {front body : List Char} (hfront : LiteralBody front)
    (hbody : LiteralBody body) : LiteralBody (front ++ body) := by
  induction hfront with
  | nil => exact hbody
  | escape h ih => exact .escape ih
  | char hquote hend hback h ih => exact .char hquote hend hback ih

theorem literalBody_unitEscape (unit : Nat) : LiteralBody (Json.unitEscape unit) := by
  have hdigit : ∀ n : Nat, isPlain (Nat.digitChar (n % 16)) := by
    intro n
    have hplain : ∀ d < 16, isPlain (Nat.digitChar d) := by decide
    exact hplain (n % 16) (Nat.mod_lt n (by decide))
  refine .escape (literalBody_of_isPlain ?_)
  simp [Json.unitDigits, hdigit]

/-- The escape of any character may stand in a literal. -/
theorem literalBody_of_isEscapeOf {c : Char} {escape : List Char} (h : Json.IsEscapeOf c escape) :
    LiteralBody escape := by
  cases h with
  | short _ => exact .escape .nil
  | plain hquote hback hlow _ => exact .char hquote (not_isLineEnd_of_le hlow) hback .nil
  | unit _ => exact literalBody_unitEscape _
  | pair _ => exact literalBody_append (literalBody_unitEscape _) (literalBody_unitEscape _)

theorem literalBody_flatMap_escapeChar (cs : List Char) :
    LiteralBody (cs.flatMap Json.escapeChar) := by
  induction cs with
  | nil => exact .nil
  | cons c cs ih =>
    rw [List.flatMap_cons]
    exact literalBody_append (literalBody_of_isEscapeOf (Json.isEscapeOf_escapeChar c)) ih

theorem isCode_literal (text : String) : IsCode (literal text) := by
  have hcode := isCode_quote (a := String.ofList (text.toList.flatMap Json.escapeChar))
    (by simpa using literalBody_flatMap_escapeChar text.toList)
  simpa [IsCode, literal, Json.quote] using hcode

theorem isCode_recordField {field : String × TypeHint} (h : field.2.IsPlain) :
    IsCode (recordField field) := by
  rw [recordField, String.append_assoc, String.append_assoc, String.append_assoc]
  refine IsPlain.append_isCode (by decide) ((isCode_literal field.1).append ?_ (by simp))
  exact IsPlain.append_isCode (by decide)
    (h.isCode_expression.append (IsPlain.isCode (by decide)) (by decide))

theorem isCode_recordText {name : String} {fields : List (String × TypeHint)}
    (hname : IsPlain name) (hfields : ∀ field ∈ fields, field.2.IsPlain) :
    IsCode (recordText name fields) := by
  rw [recordText]
  split
  · have hcode := isCode_quoted (name ++ " = TypedDict(") name ", \x7b\x7d)"
      (hname.append (by decide)) hname (by decide) (by decide)
    simpa [IsCode] using hcode
  · apply isCode_lines
    simp only [List.forall_mem_append, List.forall_mem_cons, List.forall_mem_map]
    refine ⟨⟨⟨(hname.append (by decide)).isCode, ?_, IsPlain.isCode (by decide), by simp⟩, ?_⟩,
      IsPlain.isCode (by decide), IsPlain.isCode (by decide), by simp⟩
    · have hcode := isCode_quoted "    " name ","
        (by decide) hname (by decide) (by decide)
      simpa [IsCode] using hcode
    · intro field hfield
      exact isCode_recordField (hfields field hfield)

/-- The declaration of a type is code in front of which only the comment is missing. -/
theorem isCode_bareOfTypeDef {domain : String} {t : TypeDef}
    (hname : IsPlain (Naming.typeName t.id))
    (hitems : ∀ items ∈ t.shape.items?, items.IsWellFormed)
    (hproperties : ∀ p ∈ t.properties, p.typeRef.IsWellFormed) :
    IsCode (bareOfTypeDef domain t).text := by
  have hhint : (TypeHint.ofTypeDef domain t).IsPlain :=
    TypeHint.isPlain_ofTypeDef hitems hproperties
  rw [bareOfTypeDef]
  split
  · exact isCode_recordText hname fun field hfield =>
      TypeHint.isPlain_of_mem_ofFields hproperties hfield
  · exact (hname.append (by decide)).append_isCode hhint.isCode_expression

end Declaration

namespace CommandFunction

theorem isPlain_resultHint {c : Command} (h : IsPlain (Naming.functionName c.name)) :
    IsPlain (resultHint c) := by
  rw [resultHint]
  split
  · decide
  · exact (IsPlain.append (by decide) (Naming.isPlain_resultName h)).append (by decide)

/-- A signature is code, broken or not. -/
theorem isCode_overload {name result : String} {arguments : List String} (hname : IsPlain name)
    (harguments : ∀ a ∈ arguments, IsPlain a) (hresult : IsPlain result) :
    IsCode (overload name arguments result) := by
  have hend : IsPlain (") -> " ++ result ++ ": ...") :=
    (IsPlain.append (by decide) hresult).append (by decide)
  have hopen : IsPlain ("def " ++ name ++ "(") :=
    (IsPlain.append (by decide) hname).append (by decide)
  rw [overload]
  split
  · have hlines : IsCode ("\n".intercalate (arguments.map fun a => "    " ++ a ++ ",")) := by
      apply isCode_lines
      rw [List.forall_mem_map]
      intro a ha
      exact IsPlain.isCode ((IsPlain.append (by decide) (harguments a ha)).append (by decide))
    have hcode := IsPlain.append_isCode (a := "@overload") (by decide)
      (hopen.append_isCode ((hlines.append hend.isCode.lineFeed (by simp)).lineFeed)).lineFeed
    simpa [IsCode] using hcode
  · have hline := (hopen.append (IsPlain.intercalate ", " (by decide) harguments)).append hend
    have hcode := IsPlain.append_isCode (a := "@overload") (by decide) hline.isCode.lineFeed
    simpa [IsCode] using hcode

/-- Docstrings of functions are alike. -/
theorem alike_functionDocstring (a b : String) :
    Alike (Doc.functionDocstring a) (Doc.functionDocstring b) :=
  ⟨"    ", Doc.readsAs_functionDocstring a, Doc.readsAs_functionDocstring b⟩

theorem isPlain_arguments :
    IsPlain sessionArgument ∧ IsPlain parametersArgument ∧ IsPlain optionsArgument :=
  ⟨isPlain_ofList (by decide), isPlain_ofList (by decide), isPlain_ofList (by decide)⟩

theorem alike_implementation {name result : String} (hname : IsPlain name)
    (hresult : IsPlain result) (a b method : String) :
    Alike (implementation name result a method) (implementation name result b method) := by
  obtain ⟨hsession, hparameters, hoptions⟩ := isPlain_arguments
  have hmethod : IsCode ("        " ++ Declaration.literal method ++ ",") := by
    rw [String.append_assoc]
    exact IsPlain.append_isCode (by decide) ((Declaration.isCode_literal method).append
      (IsPlain.isCode (by decide)) (by decide))
  have hopen : IsPlain ("def " ++ name ++ "(") :=
    (IsPlain.append (by decide) hname).append (by decide)
  have hclose : IsPlain (") -> " ++ result ++ ":") :=
    (IsPlain.append (by decide) hresult).append (by decide)
  have hdefault : IsPlain " | None = None," := isPlain_ofList (by decide)
  have hplain : ∀ line : String, IsPlain line → Alike line line :=
    fun line hline => alike_of_code line hline.isCode
  have hlines := alike_intercalate (String.append_empty) readsAs_empty
    (.cons (hplain _ hopen) <|
    .cons (hplain _ ((IsPlain.append (by decide : IsPlain "    ") hsession).append
      (by decide : IsPlain ","))) <|
    .cons (hplain _ ((IsPlain.append (by decide : IsPlain "    ") hparameters).append hdefault)) <|
    .cons (hplain _ ((IsPlain.append (by decide : IsPlain "    ") hoptions).append hdefault)) <|
    .cons (hplain _ hclose) <|
    .cons (alike_functionDocstring a b) <|
    .cons (hplain "    return _session.execute_command(" (isPlain_ofList (by decide))) <|
    .cons (hplain "        session," (isPlain_ofList (by decide))) <|
    .cons (alike_of_code _ hmethod) <|
    .cons (hplain "        \x7b\x7d if parameters is None else parameters,"
      (isPlain_ofList (by decide))) <|
    .cons (hplain "        [] if options is None else options," (isPlain_ofList (by decide))) <|
    .cons (hplain "    )" (by decide)) .nil)
  simpa [implementation] using hlines

end CommandFunction

end ProtocolBindings
