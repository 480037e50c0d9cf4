import ProtocolBindings.Proofs.Json.Quoted
import ProtocolBindings.Proofs.Source.Definitions
import ProtocolBindings.Proofs.Source.Links

/-!
# What literals denote

The keys of records and the names of methods are written as literals by the rules of JSON, and
they are read by those of the generated language.  The two agree on everything but the escapes of
UTF-16 units: two that JSON takes for one character are read as two.  So a literal denotes the
name it was written for exactly if every character of the name is a single unit.
-/

namespace ProtocolBindings

namespace Lexical

/-- The code point that a letter behind a backslash stands for. -/
def letterCode? : Char → Option Nat
  | '\\' => some 0x5C
  | '"' => some 0x22
  | 'n' => some 0x0A
  | 'r' => some 0x0D
  | 't' => some 0x09
  | 'b' => some 0x08
  | 'f' => some 0x0C
  | _ => none

/-- Reads a literal behind its opening quote: the code points it denotes, and the text behind its
closing quote.  The escape of a code point stands for this one alone, whatever follows it. -/
def literalBody? : List Char → Option (List Nat × List Char)
  | [] => none
  | '"' :: rest => some ([], rest)
  | '\\' :: 'u' :: a :: b :: c :: d :: rest => do
    let code ← Json.unit? a b c d
    let (codes, behind) ← literalBody? rest
    return (code :: codes, behind)
  | '\\' :: letter :: rest => do
    let code ← letterCode? letter
    let (codes, behind) ← literalBody? rest
    return (code :: codes, behind)
  | c :: rest =>
    if c == '\\' || isLineEnd c then none
    else do
      let (codes, behind) ← literalBody? rest
      return (c.toNat :: codes, behind)

/-- Reads a literal between double quotes.  Three of them in a row open no such literal. -/
def literal? : List Char → Option (List Nat × List Char)
  | '"' :: '"' :: '"' :: _ => none
  | '"' :: rest => literalBody? rest
  | _ => none

example : literal? "\"a\\u00e9\\ud83d\\ude00\": Any".toList =
    some ([0x61, 0xE9, 0xD83D, 0xDE00], ": Any".toList) := by
  decide

/-- The UTF-16 units of a character. -/
def unitsOf (c : Char) : List Nat :=
  if c.toNat < 0x10000 then [c.toNat]
  else [0xD800 + (c.toNat - 0x10000) / 0x400, 0xDC00 + (c.toNat - 0x10000) % 0x400]

variable {c letter : Char} {cs rest behind : List Char} {codes : List Nat} {unit : Nat}

theorem literalBody?_letter {code : Nat} (h : letterCode? letter = some code) :
    literalBody? ('\\' :: letter :: rest) =
      (literalBody? rest).map fun read => (code :: read.1, read.2) := by
  have hu : letter ≠ 'u' := by
    rintro rfl
    cases h
  rw [literalBody?]
  · rw [h]
    cases literalBody? rest <;> rfl
  · rintro a b c d rest' rfl
    exact absurd rfl hu

theorem literalBody?_unitEscape (h : unit < 0x10000) :
    literalBody? (Json.unitEscape unit ++ rest) =
      (literalBody? rest).map fun read => (unit :: read.1, read.2) := by
  simp only [Json.unitEscape, Json.unitDigits, List.cons_append, List.nil_append]
  rw [literalBody?, Json.unit?_unitDigits h]
  cases literalBody? rest <;> rfl

theorem literalBody?_plain (hquote : c ≠ '"') (hback : c ≠ '\\') (hend : isLineEnd c = false) :
    literalBody? (c :: rest) =
      (literalBody? rest).map fun read => (c.toNat :: read.1, read.2) := by
  rw [literalBody?]
  · simp only [beq_eq_false_iff_ne.2 hback, hend, Bool.or_self, Bool.false_eq_true, if_false]
    cases literalBody? rest <;> rfl
  · exact hquote
  · rintro a b c' d rest' rfl
    exact absurd rfl hback
  · rintro letter rest' rfl
    exact absurd rfl hback

theorem unitsOf_of_lt (h : c.toNat < 0x10000) : unitsOf c = [c.toNat] :=
  if_pos h

theorem literalBody?_short (h : (c, letter) ∈ Json.shortEscapes) :
    literalBody? (['\\', letter] ++ rest) =
      (literalBody? rest).map fun read => (unitsOf c ++ read.1, read.2) := by
  have hall : ∀ short ∈ Json.shortEscapes,
      letterCode? short.2 = some short.1.toNat ∧ short.1.toNat < 0x10000 := by
    decide
  obtain ⟨hcode, hunit⟩ := hall _ h
  rw [unitsOf_of_lt hunit]
  exact literalBody?_letter hcode

/-- The escape of a character is read as its UTF-16 units. -/
theorem literalBody?_of_isEscapeOf {escape : List Char} (h : Json.IsEscapeOf c escape)
    (rest : List Char) :
    literalBody? (escape ++ rest) =
      (literalBody? rest).map fun read => (unitsOf c ++ read.1, read.2) := by
  cases h with
  | short hletter => exact literalBody?_short hletter
  | plain hquote hback hlow hhigh =>
    have hsmall : c.toNat ≤ '~'.toNat := hhigh
    rw [unitsOf_of_lt (Nat.lt_of_le_of_lt hsmall (by decide))]
    exact literalBody?_plain hquote hback (not_isLineEnd_of_le hlow)
  | unit hunit =>
    rw [unitsOf_of_lt hunit]
    exact literalBody?_unitEscape hunit
  | pair hpair =>
    obtain ⟨-, hlast⟩ := Json.toNat_bounds c
    rw [List.append_assoc, literalBody?_unitEscape (by omega), literalBody?_unitEscape (by omega),
      Option.map_map, unitsOf, if_neg (Nat.not_lt.2 hpair)]
    rfl

/-- The characters between the quotes of a literal are read as their UTF-16 units. -/
theorem literalBody?_quoted (cs rest : List Char) :
    literalBody? (cs.flatMap Json.escapeChar ++ '"' :: rest) =
      some (cs.flatMap unitsOf, rest) := by
  induction cs with
  | nil => rfl
  | cons c cs ih =>
    rw [List.flatMap_cons, List.append_assoc,
      literalBody?_of_isEscapeOf (Json.isEscapeOf_escapeChar c), ih]
    rfl

/-- A literal denotes the UTF-16 units of the text that it was written for. -/
theorem literal?_literal (text : String) (h : rest.head? ≠ some '"') :
    literal? ((Declaration.literal text).toList ++ rest) =
      some (text.toList.flatMap unitsOf, rest) := by
  have hbody := literalBody?_quoted text.toList rest
  have hnext : ∀ others, text.toList.flatMap Json.escapeChar ++ '"' :: rest ≠
      '"' :: '"' :: others := by
    intro others heq
    have hhead := (Declaration.literalBody_flatMap_escapeChar text.toList).head?_ne
    cases hbody : text.toList.flatMap Json.escapeChar with
    | nil =>
      rw [hbody] at heq
      rw [(List.cons.inj heq).2] at h
      exact h rfl
    | cons first body =>
      rw [hbody] at heq hhead
      exact hhead (congrArg some (List.cons.inj heq).1)
  rw [Declaration.literal, String.toList_ofList, Json.quote, List.cons_append, List.append_assoc,
    List.singleton_append, literal?]
  · exact hbody
  · exact hnext

/-- The UTF-16 units of characters are their code points exactly if none takes two. -/
theorem flatMap_unitsOf_eq_iff :
    cs.flatMap unitsOf = cs.map Char.toNat ↔ ∀ c ∈ cs, c.toNat < 0x10000 := by
  induction cs with
  | nil => simp
  | cons c cs ih =>
    rw [List.flatMap_cons, List.map_cons, List.forall_mem_cons]
    by_cases hc : c.toNat < 0x10000
    · rw [unitsOf_of_lt hc, List.singleton_append, List.cons_inj_right, ih]
      simp [hc]
    · obtain ⟨-, hlast⟩ := Json.toNat_bounds c
      rw [unitsOf, if_neg hc]
      refine iff_of_false (fun heq => ?_) fun hall => hc hall.1
      have hfirst := (List.cons.inj heq).1
      omega

end Lexical

namespace Module

open TypeHint

/-- The literals in the definitions of a domain's module, each with the name that it is written
for and with what stands in front of it and behind it.  The key of a field begins its line and has
the field's hint behind it; the name of a method is handed on with the session. -/
inductive HasLiteral (d : Domain) : Definition → (name before after : String) → Prop where
  | field {t : TypeDef} {key : String} {hint : TypeHint} (ht : t ∈ d.types)
      (hshape : t.shape = .object) (hfield : (key, hint) ∈ ofFields d.name t.properties) :
      HasLiteral d (.type t) key "\n        " (": " ++ hint.expression ++ ",\n")
  | result {c : Command} {key : String} {hint : TypeHint} (hc : c ∈ d.commands)
      (hfield : (key, hint) ∈ ofFields d.name c.returns) :
      HasLiteral d (.record c) key "\n        " (": " ++ hint.expression ++ ",\n")
  | method {c : Command} (hc : c ∈ d.commands) :
      HasLiteral d (.function c) (CommandFunction.wireMethod d.name c.name)
        "\n    return _session.execute_command(\n        session,\n        " ",\n"

variable {d : Domain} {f : Definition} {name before after : String}

/-- Every property has its field, though it may have to share it with others of its name. -/
theorem exists_hint_of_mem {current : String} {properties : List Property} {p : Property}
    (hp : p ∈ properties) : ∃ hint, (p.name, hint) ∈ ofFields current properties := by
  have hkey : p.name ∈ (ofFields current properties).map Prod.fst := by
    refine Entries.mem_keys_ofList ?_
    rw [List.map_map]
    exact List.mem_map_of_mem (f := (·.name)) hp
  obtain ⟨⟨_, hint⟩, hfield, rfl⟩ := List.mem_map.1 hkey
  exact ⟨hint, hfield⟩

theorem HasLiteral.mem_definitions (h : HasLiteral d f name before after) :
    f ∈ definitions d := by
  cases h with
  | field ht hshape hfield => exact type_mem_definitions_iff.2 ht
  | @result c key hint hc hfield =>
    refine record_mem_definitions_iff.2 ⟨hc, ?_⟩
    intro hnil
    rw [hnil] at hfield
    cases hfield
  | method hc => exact function_mem_definitions_iff.2 hc

/-- Lines stand in a text with their line ends, unless they are the first or the last ones. -/
theorem infix_lines {front lines back : List String} (hfront : front ≠ []) (hlines : lines ≠ [])
    (hback : back ≠ []) : ("\n" ++ "\n".intercalate lines ++ "\n").toList <:+:
      ("\n".intercalate (front ++ (lines ++ back))).toList := by
  have hmore : lines ++ back ≠ [] := List.append_ne_nil_of_left_ne_nil hlines back
  have hsplit : "\n".intercalate (front ++ (lines ++ back)) =
      "\n".intercalate front ++ ("\n" ++ "\n".intercalate lines ++ "\n") ++
        "\n".intercalate back := by
    rw [intercalate_append hfront hmore, intercalate_append hlines hback]
    simp only [String.append_assoc]
  rw [hsplit]
  exact infix_append_left (infix_append_right List.infix_rfl)

/-- The line of a field stands in the text of its record. -/
theorem infix_recordText_line {key : String} {hint : TypeHint}
    {fields : List (String × TypeHint)} (h : (key, hint) ∈ fields) :
    ("\n        " ++ Declaration.literal key ++ (": " ++ hint.expression ++ ",\n")).toList <:+:
      (Declaration.recordText name fields).toList := by
  have hempty : fields.isEmpty = false := by
    rw [List.isEmpty_eq_false_iff]
    exact List.ne_nil_of_mem h
  obtain ⟨front, back, hfields⟩ :=
    List.append_of_mem (List.mem_map_of_mem (f := Declaration.recordField) h)
  have hline : "\n        " ++ Declaration.literal key ++ (": " ++ hint.expression ++ ",\n") =
      "\n" ++ "\n".intercalate [Declaration.recordField (key, hint)] ++ "\n" := by
    rw [String.intercalate_singleton, Declaration.recordField]
    apply String.toList_inj.1
    simp
  rw [hline, Declaration.recordText, hempty, if_neg Bool.false_ne_true, hfields]
  have hsplit : ∀ header footer : List String,
      header ++ (front ++ Declaration.recordField (key, hint) :: back) ++ footer =
        (header ++ front) ++ ([Declaration.recordField (key, hint)] ++ (back ++ footer)) := by
    simp
  rw [hsplit]
  exact infix_lines (by simp) (by simp) (by simp)

/-- The name of a method stands in the call of its function. -/
theorem infix_implementation (name result docText method : String) :
    ("\n    return _session.execute_command(\n        session,\n        " ++
        Declaration.literal method ++ ",\n").toList <:+:
      (CommandFunction.implementation name result docText method).toList := by
  have hlines : "\n    return _session.execute_command(\n        session,\n        " ++
      Declaration.literal method ++ ",\n" =
        "\n" ++ "\n".intercalate ["    return _session.execute_command(", "        session,",
          "        " ++ Declaration.literal method ++ ","] ++ "\n" := by
    apply String.toList_inj.1
    simp
  rw [hlines]
  exact @infix_lines [_, _, _, _, _, _] _ [_, _, _] (by simp) (by simp) (by simp)

theorem HasLiteral.head?_after (h : HasLiteral d f name before after) :
    after.toList.head? ≠ some '"' := by
  cases h with
  | field ht hshape hfield => simp
  | result hc hfield => simp
  | method hc => simp

/-- Every literal stands in its definition. -/
theorem HasLiteral.infix_text (h : HasLiteral d f name before after) :
    (before ++ Declaration.literal name ++ after).toList <:+: (f.text d).toList := by
  cases h with
  | field ht hshape hfield =>
    apply infix_documented
    rw [Declaration.bareOfTypeDef, hshape]
    exact infix_recordText_line hfield
  | result hc hfield =>
    rw [Definition.text, Declaration.ofResult]
    exact infix_append_right (infix_recordText_line hfield)
  | method hc =>
    exact infix_sourceText (infix_implementation _ _ _ _)

/-- Let a module be generated for a domain.  Then every field of an object and of what a command
returns has a literal for its name, and so has the method of every command, and each of these
literals stands in its place in the text of the module.  It is read as the name exactly if every
character of the name is a single UTF-16 unit. -/
theorem literals_denote_iff {package version : String} {m : Module}
    (h : ofDomain package d version = .ok m) :
    (∀ t ∈ d.types, t.shape = .object → ∀ p ∈ t.properties,
        ∃ before after, HasLiteral d (.type t) p.name before after) ∧
      (∀ c ∈ d.commands, ∀ p ∈ c.returns,
        ∃ before after, HasLiteral d (.record c) p.name before after) ∧
      (∀ c ∈ d.commands,
        ∃ before after, HasLiteral d (.function c) (d.name ++ "." ++ c.name) before after) ∧
      ∀ f name before after, HasLiteral d f name before after →
        (before ++ Declaration.literal name ++ after).toList <:+: (f.text d).toList ∧
          (f.text d).toList <:+: m.source.toList ∧
          (Lexical.literal? (Declaration.literal name ++ after).toList =
              some (name.toList.map Char.toNat, after.toList) ↔
            ∀ c ∈ name.toList, c.toNat < 0x10000) := by
  obtain ⟨-, rfl⟩ := ofDomain_eq_ok_iff.1 h
  refine ⟨?_, ?_, ?_, ?_⟩
  · intro t ht hshape p hp
    obtain ⟨hint, hfield⟩ := exists_hint_of_mem hp
    exact ⟨_, _, .field ht hshape hfield⟩
  · intro c hc p hp
    obtain ⟨hint, hfield⟩ := exists_hint_of_mem hp
    exact ⟨_, _, .result hc hfield⟩
  · exact fun c hc => ⟨_, _, .method hc⟩
  · intro f name before after hliteral
    refine ⟨hliteral.infix_text, infix_source package version hliteral.mem_definitions, ?_⟩
    rw [String.toList_append, Lexical.literal?_literal name hliteral.head?_after,
      ← Lexical.flatMap_unitsOf_eq_iff]
    simp

/-- A domain with an object of one field, and a command. -/
def tableDomain (key : String) : Domain where
  name := "Page"
  types :=
    [{ id := "Table"
       shape := .object
       properties := [{ name := key, typeRef := .primitive "any" }] }]
  commands := [{ name := "getTable" }]

theorem accepts_tableDomain (key : String) : Accepts (tableDomain key) where
  domainName := (by decide : Text.isIdentifier "Page" = true)
  typeName t ht := by
    obtain rfl := List.mem_singleton.1 ht
    exact (by decide : Text.isIdentifier (Naming.typeName "Table") = true)
  functionName c hc := by
    obtain rfl := List.mem_singleton.1 hc
    exact (by decide : Text.isIdentifier (Naming.functionName "getTable") = true)
  distinct :=
    (by decide : [Naming.typeName "Table", Naming.functionName "getTable"].Nodup)

theorem ofDomain_tableDomain (key : String) :
    ofDomain "rpc" (tableDomain key) "tot" = .ok (documented "rpc" (tableDomain key) "tot") :=
  ofDomain_eq_ok_iff.2 ⟨accepts_tableDomain key, rfl⟩

theorem hasLiteral_tableDomain (key : String) :
    ∃ f, HasLiteral (tableDomain key) f key "\n        " ": Any,\n" := by
  have hafter : ": " ++ (ofPrimitive "any").expression ++ ",\n" = ": Any,\n" := by
    decide
  rw [← hafter]
  exact ⟨_, .field (List.mem_singleton.2 rfl) rfl (List.mem_singleton.2 rfl)⟩

theorem literals_denote_iff_table : ∃ m, ofDomain "rpc" (tableDomain "caf\"é") "tot" = .ok m ∧
    "\n        \"caf\\\"\\u00e9\": Any,\n".toList <:+: m.source.toList ∧
      Lexical.literal? "\"caf\\\"\\u00e9\": Any,\n".toList =
        some ("caf\"é".toList.map Char.toNat, ": Any,\n".toList) := by
  have h := ofDomain_tableDomain "caf\"é"
  obtain ⟨f, hliteral⟩ := hasLiteral_tableDomain "caf\"é"
  obtain ⟨hline, hsource, hreads⟩ := (literals_denote_iff h).2.2.2 _ _ _ _ hliteral
  exact ⟨_, h, hline.trans hsource, hreads.2 (by simp)⟩

/-- A character outside of the basic plane is read as two. -/
theorem literal_face_ne : ∃ m, ofDomain "rpc" (tableDomain "😀") "tot" = .ok m ∧
    "\n        \"\\ud83d\\ude00\": Any,\n".toList <:+: m.source.toList ∧
      Lexical.literal? "\"\\ud83d\\ude00\": Any,\n".toList =
        some ([0xD83D, 0xDE00], ": Any,\n".toList) ∧
      [0xD83D, 0xDE00] ≠ "😀".toList.map Char.toNat := by
  obtain ⟨f, hliteral⟩ := hasLiteral_tableDomain "😀"
  refine ⟨_, ofDomain_tableDomain "😀", ?_, by decide, by decide⟩
  exact hliteral.infix_text.trans (infix_source _ _ hliteral.mem_definitions)

end Module

end ProtocolBindings
