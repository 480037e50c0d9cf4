import ProtocolBindings.Proofs.Source.Captures
import ProtocolBindings.Proofs.Source.Listing

/-!
# The layers of types

A type is a primitive or a named type inside some number of arrays.  Its hint and its label have a
layer for every array around what they have for the leaf, and everything else about the hint is
said by the leaf: whether it is quoted and which domain it points into.  So the expressions that
are not quoted are made of a few words that no declaration has for its name, and declarations may
be evaluated in any order.
-/

namespace ProtocolBindings

/-- A text inside `n` brackets, each of which opens like `opening`. -/
def bracketed (opening : String) (n : Nat) (leaf : String) : String :=
  String.join (List.replicate n opening) ++ leaf ++ String.join (List.replicate n "]")

theorem bracketed_zero (opening leaf : String) : bracketed opening 0 leaf = leaf := by
  simp [bracketed]

theorem bracketed_succ (opening : String) (n : Nat) (leaf : String) :
    bracketed opening (n + 1) leaf = opening ++ bracketed opening n leaf ++ "]" := by
  have hclosing : String.join (List.replicate (n + 1) "]") =
      String.join (List.replicate n "]") ++ "]" := by
    rw [List.replicate_succ', String.join_append, String.join_cons, String.join_nil,
      String.append_empty]
  rw [bracketed, hclosing, List.replicate_succ, String.join_cons, bracketed]
  simp only [String.append_assoc]

namespace TypeRef

def inArrays : Nat → TypeRef → TypeRef
  | 0, leaf => leaf
  | n + 1, leaf => .array (inArrays n leaf)

/-- Every type is a primitive or a named type inside some number of arrays. -/
theorem exists_eq_inArrays (r : TypeRef) :
    ∃ n, (∃ name, r = inArrays n (.primitive name)) ∨
      ∃ reference, r = inArrays n (.named reference) := by
  induction r with
  | primitive name => exact ⟨0, Or.inl ⟨name, rfl⟩⟩
  | named reference => exact ⟨0, Or.inr ⟨reference, rfl⟩⟩
  | array items ih =>
    obtain ⟨n, ⟨name, rfl⟩ | ⟨reference, rfl⟩⟩ := ih
    · exact ⟨n + 1, Or.inl ⟨name, rfl⟩⟩
    · exact ⟨n + 1, Or.inr ⟨reference, rfl⟩⟩

theorem leaf?_inArrays (n : Nat) (r : TypeRef) : (inArrays n r).leaf? = r.leaf? := by
  induction n with
  | zero => rfl
  | succ n ih => exact ih

/-- The types with a named leaf are the named types inside arrays. -/
theorem isSome_leaf?_iff {r : TypeRef} :
    r.leaf?.isSome = true ↔ ∃ n reference, r = inArrays n (.named reference) := by
  constructor
  · intro h
    obtain ⟨n, ⟨name, rfl⟩ | ⟨reference, rfl⟩⟩ := exists_eq_inArrays r
    · rw [leaf?_inArrays] at h
      cases h
    · exact ⟨n, reference, rfl⟩
  · rintro ⟨n, reference, rfl⟩
    rw [leaf?_inArrays]
    rfl

theorem label_inArrays (n : Nat) (r : TypeRef) :
    (inArrays n r).label = bracketed "array[" n r.label := by
  induction n with
  | zero => rw [inArrays, bracketed_zero]
  | succ n ih => rw [inArrays, label, ih, bracketed_succ]

/-- A type without a named leaf can be written in a document. -/
theorem isWellFormed_of_leaf?_eq_none {r : TypeRef} (h : r.leaf? = none) : r.IsWellFormed := by
  induction r with
  | primitive name => trivial
  | array items ih => exact ih h
  | named reference => cases h

end TypeRef

/-- The type that the alias of a shape stands for, if it is declared as an alias: a text out of a
list is a text, and what is not resolved may be anything. -/
def TypeShape.aliased? : TypeShape → Option TypeRef
  | .enumeration _ => some (.primitive "string")
  | .object => none
  | .primitive name => some (.primitive name)
  | .array items => some (.array items)
  | .unresolved => some (.primitive "any")

namespace TypeHint

open TypeRef

variable {current : String} {r : TypeRef}

theorem ofTypeDef_of_aliased? {t : TypeDef} (h : t.shape.aliased? = some r) :
    ofTypeDef current t = ofTypeRef current r := by
  rw [ofTypeDef]
  cases hshape : t.shape with
  | object =>
    rw [hshape] at h
    cases h
  | _ =>
    rw [hshape] at h
    obtain rfl := Option.some.inj h
    rfl

/-- One more layer changes the name only. -/
theorem ofTypeRef_array (current : String) (items : TypeRef) :
    ofTypeRef current (.array items) =
      { ofTypeRef current items with
        target := "list[" ++ (ofTypeRef current items).target ++ "]" } := by
  have htext : (ofTypeRef current items).text = (ofTypeRef current items).target := by
    rw [text, nullable_ofTypeRef, if_neg Bool.false_ne_true]
  rw [ofTypeRef]
  dsimp only
  rw [htext]

theorem ofTypeRef_inArrays (current : String) (n : Nat) (r : TypeRef) :
    ofTypeRef current (inArrays n r) =
      { ofTypeRef current r with target := bracketed "list[" n (ofTypeRef current r).target } := by
  induction n with
  | zero => rw [inArrays, bracketed_zero]
  | succ n ih => rw [inArrays, ofTypeRef_array, ih, bracketed_succ]

theorem ofReference_eq (current : String) (reference : Reference) :
    ofReference current reference =
      { target := linkText current (reference.domain.getD current) reference.typeId
        domains :=
          if reference.domain.getD current = current then []
          else [reference.domain.getD current]
        forward := true } := by
  have hlinks := linksTo_ofReference current reference
  have hnullable : (ofReference current reference).nullable = false :=
    nullable_ofTypeRef current (.named reference)
  rw [← hlinks.domains, ← hlinks.forward, ← hnullable, ← listOf.eq_1 (linkText _ _ _),
    ← hlinks.target]

/-- What is quoted is what has a named type for its leaf. -/
theorem forward_ofTypeRef (current : String) (r : TypeRef) :
    (ofTypeRef current r).forward = r.leaf?.isSome := by
  cases hleaf : r.leaf? with
  | some reference => exact (linksTo_ofTypeRef current hleaf).forward
  | none =>
    obtain ⟨name, hname⟩ := ofTypeRef_of_leaf?_eq_none current hleaf
    rw [hname]
    rfl

end TypeHint

namespace Module

open TypeHint TypeRef

/-! ## Words -/

variable {text front back word : String}

/-- A text in two parts mentions what one of its parts does, if no name reaches over the character
between them. -/
theorem mentions_of_toList_eq {c : Char} (hc : Text.isIdentifierContinue c = false)
    (htext : text.toList = front.toList ++ c :: back.toList) :
    Mentions text word ↔ Mentions front word ∨ Mentions back word := by
  have hpieces := Text.pieces_append_cons (p := fun d => !Text.isIdentifierContinue d) (c := c)
    (by rw [hc]; rfl) front.toList back.toList
  simp only [Mentions, htext, hpieces, List.mem_append]

def expressionWords : List String :=
  ["bool", "int", "float", "str", "dict", "list", "Any", "None"]

/-- Whether a text has no other words. -/
def IsSimple (text : String) : Prop :=
  ∀ word, Mentions text word → word = "" ∨ word ∈ expressionWords

/-- The texts that such expressions are put together from. -/
theorem isSimple_of_mem : ∀ text ∈ ["", "bool", "int", "float", "str", "dict[str, Any]",
    "list[Any]", "Any", "list", "| None"], IsSimple text := by
  have hwords : ∀ text ∈ ["", "bool", "int", "float", "str", "dict[str, Any]", "list[Any]", "Any",
      "list", "| None"], ∀ piece ∈ Text.pieces (!Text.isIdentifierContinue ·) text.toList,
      String.ofList piece = "" ∨ String.ofList piece ∈ expressionWords := by
    decide
  intro text htext word hword
  simpa using hwords text htext _ hword

theorem isSimple_primitiveName (name : String) : IsSimple (primitiveName name) := by
  apply isSimple_of_mem
  unfold primitiveName
  split <;> decide

theorem isSimple_of_toList_eq {c : Char} (hc : Text.isIdentifierContinue c = false)
    (htext : text.toList = front.toList ++ c :: back.toList) (hfront : IsSimple front)
    (hback : IsSimple back) : IsSimple text := by
  intro word hword
  rcases (mentions_of_toList_eq hc htext).1 hword with hword | hword
  · exact hfront word hword
  · exact hback word hword

theorem isSimple_listOf (n : Nat) (h : IsSimple text) : IsSimple (listOf n text) := by
  obtain ⟨hopen, hclose, -⟩ := isIdentifierContinue_marks
  induction n with
  | zero => exact h
  | succ n ih =>
    have hclosed : IsSimple (listOf n text ++ "]") :=
      isSimple_of_toList_eq hclose (by simp) ih (isSimple_of_mem "" (by decide))
    refine isSimple_of_toList_eq hopen ?_ (isSimple_of_mem "list" (by decide)) hclosed
    rw [listOf]
    simp

/-- The name of a declaration is none of these words. -/
theorem not_mentions_of_isSimple (h : IsSimple text) (hword : '_' ∈ word.toList) :
    ¬Mentions text word := by
  have hnone : '_' ∉ "".toList ∧ ∀ word ∈ expressionWords, '_' ∉ word.toList := by decide
  intro hmentions
  rcases h word hmentions with rfl | hmem
  · exact hnone.1 hword
  · exact hnone.2 word hmem hword

/-! ## Expressions -/

/-- Whether an expression stands between quotes. -/
def IsQuoted (expression : String) : Prop :=
  ∃ text, expression = "\"" ++ text ++ "\""

/-- The hints that a definition gives, each to a type: that of its target if it is an alias, and
those of its fields if it is a record. -/
inductive GivesHint (d : Domain) : Definition → TypeRef → TypeHint → Prop where
  | target {t : TypeDef} {r : TypeRef} (h : t.shape.aliased? = some r) :
      GivesHint d (.type t) r (ofTypeDef d.name t)
  | annotates {f : Definition} {r : TypeRef} {hint : TypeHint} (h : Annotates d f r hint) :
      GivesHint d f r hint

variable {d : Domain} {f : Definition} {r : TypeRef} {hint : TypeHint}

/-- The hint of a declaration is that of its type, but for the mark of an optional field. -/
theorem GivesHint.eq (h : GivesHint d f r hint) :
    hint = ofTypeRef d.name r ∨ hint = (ofTypeRef d.name r).orNone := by
  have hproperty : ∀ p : Property, ofProperty d.name p = ofTypeRef d.name p.typeRef ∨
      ofProperty d.name p = (ofTypeRef d.name p.typeRef).orNone := by
    intro p
    rw [ofProperty, ofRequired]
    split
    · exact Or.inr rfl
    · exact Or.inl rfl
  cases h with
  | target h => exact Or.inl (ofTypeDef_of_aliased? h)
  | annotates h =>
    cases h with
    | target hshape => exact Or.inl rfl
    | field hshape hp hfield => exact hproperty _
    | result hp hfield => exact hproperty _

theorem GivesHint.forward (h : GivesHint d f r hint) : hint.forward = r.leaf?.isSome := by
  rcases h.eq with rfl | rfl
  · exact forward_ofTypeRef d.name r
  · exact forward_ofTypeRef d.name r

theorem GivesHint.isPlain (h : GivesHint d f r hint) (hr : r.IsWellFormed) : hint.IsPlain := by
  rcases h.eq with rfl | rfl
  · exact isPlain_ofTypeRef hr
  · exact (isPlain_ofTypeRef hr).orNone

/-- An expression is quoted exactly if its type has a named leaf. -/
theorem GivesHint.isQuoted_iff (h : GivesHint d f r hint) :
    IsQuoted hint.expression ↔ r.leaf?.isSome = true := by
  rw [expression, h.forward]
  cases hleaf : r.leaf? with
  | some reference => exact iff_of_true ⟨hint.text, rfl⟩ rfl
  | none =>
    have hplain := (h.isPlain (isWellFormed_of_leaf?_eq_none hleaf)).text
    refine iff_of_false ?_ (by simp)
    rintro ⟨text, htext⟩
    rw [Option.isSome_none, if_neg Bool.false_ne_true] at htext
    have hquote := (Lexical.isPlain_ne (hplain '"' (by simp [htext]))).1
    exact hquote rfl

/-- A quoted expression denotes the text of its hint. -/
theorem GivesHint.literal?_expression (h : GivesHint d f r hint) (hr : r.IsWellFormed)
    (hleaf : r.leaf?.isSome = true) : Lexical.literal? hint.expression.toList =
      some (hint.text.toList.map Char.toNat, []) := by
  rw [expression, h.forward, hleaf, if_pos rfl]
  have hliteral : Lexical.literal? ('"' :: (hint.text.toList ++ ['"'])) =
      some (hint.text.toList.map Char.toNat, []) :=
    Lexical.literal?_of_isPlain (h.isPlain hr).text (by simp)
  simpa using hliteral

/-- An expression that is not quoted has no words but those of primitives. -/
theorem GivesHint.isSimple (h : GivesHint d f r hint) (hleaf : r.leaf? = none) :
    IsSimple hint.expression := by
  obtain ⟨name, hname⟩ := ofTypeRef_of_leaf?_eq_none d.name hleaf
  have htarget : IsSimple (listOf r.arrays (primitiveName name)) :=
    isSimple_listOf _ (isSimple_primitiveName name)
  rw [expression, h.forward, hleaf, Option.isSome_none, if_neg Bool.false_ne_true]
  rcases h.eq with rfl | rfl
  · rw [hname]
    exact htarget
  · rw [hname]
    refine isSimple_of_toList_eq (c := ' ') (by decide) ?_ htarget
      (isSimple_of_mem "| None" (by decide))
    simp [orNone, TypeHint.text]

theorem GivesHint.mem_hints (h : GivesHint d f r hint) : hint ∈ f.hints d := by
  cases h with
  | @target t _ h =>
    rw [Definition.hints, Declaration.documented, Declaration.bareOfTypeDef]
    cases hshape : t.shape with
    | object =>
      rw [hshape] at h
      cases h
    | _ => exact List.mem_singleton.2 rfl
  | annotates h =>
    cases h with
    | @target t items hshape =>
      rw [Definition.hints, Declaration.documented, Declaration.bareOfTypeDef, hshape]
      simp [ofTypeDef, hshape]
    | @field t p hshape hp hfield =>
      rw [Definition.hints, Declaration.documented, Declaration.bareOfTypeDef, hshape]
      exact List.mem_map_of_mem (f := (·.2)) hfield
    | @result c p hp hfield => exact List.mem_map_of_mem (f := (·.2)) hfield

/-- Every expression in a declaration is one of these. -/
theorem exists_givesHint_of_mem_hints (hhint : hint ∈ f.hints d) : ∃ r, GivesHint d f r hint := by
  cases f with
  | experimental => cases hhint
  | function c => cases hhint
  | record c =>
    obtain ⟨field, hfield, rfl⟩ := List.mem_map.1 hhint
    obtain ⟨p, hp, rfl⟩ := exists_of_mem_ofFields hfield
    exact ⟨p.typeRef, .annotates (.result hp hfield)⟩
  | type t =>
    rw [Definition.hints, Declaration.documented, Declaration.bareOfTypeDef] at hhint
    cases hr : t.shape.aliased? with
    | none =>
      have hshape : t.shape = .object := by
        cases hshape : t.shape <;> simp [hshape, TypeShape.aliased?] at hr ⊢
      rw [hshape] at hhint
      obtain ⟨field, hfield, rfl⟩ := List.mem_map.1 hhint
      obtain ⟨p, hp, rfl⟩ := exists_of_mem_ofFields hfield
      exact ⟨p.typeRef, .annotates (.field hshape hp hfield)⟩
    | some r =>
      refine ⟨r, ?_⟩
      have hsingle : hint = ofTypeDef d.name t := by
        cases hshape : t.shape with
        | object =>
          rw [hshape] at hr
          cases hr
        | _ =>
          rw [hshape] at hhint
          exact List.mem_singleton.1 hhint
      rw [hsingle]
      exact .target hr

/-- What a type is, as `current` sees it, is said by its leaf.  Every type is a primitive or a named
type inside some number of arrays; its hint has as many layers around the name of the leaf, is not
nullable, is quoted exactly if the leaf is a named type, and points into another domain exactly if
this one is of it; and its label has as many layers around that of the leaf.

So in a generated module, where every expression of a declaration stands in its text, an expression
is quoted exactly if its type has a named leaf, and then denotes the text of the hint.  The others
are made of a few words, none of which is the name of a declaration, so declarations can be
evaluated in any order. -/
theorem expressions_follow_leaves :
    (∀ r : TypeRef, ∃ n, (∃ name, r = inArrays n (.primitive name)) ∨
      ∃ reference, r = inArrays n (.named reference)) ∧
    (∀ (current : String) (n : Nat) (name : String),
      ofTypeRef current (inArrays n (.primitive name)) =
          { target := bracketed "list[" n (primitiveName name)
            nullable := false
            domains := []
            forward := false } ∧
        (inArrays n (.primitive name)).label = bracketed "array[" n name) ∧
    (∀ (current : String) (n : Nat) (reference : Reference),
      ofTypeRef current (inArrays n (.named reference)) =
          { target := bracketed "list[" n
              (linkText current (reference.domain.getD current) reference.typeId)
            nullable := false
            domains :=
              if reference.domain.getD current = current then []
              else [reference.domain.getD current]
            forward := true } ∧
        (inArrays n (.named reference)).label = bracketed "array[" n reference.raw) ∧
    ∀ (package version : String) (d : Domain) (m : Module), ofDomain package d version = .ok m →
      ∀ f ∈ definitions d, (∀ hint ∈ f.hints d, ∃ r, GivesHint d f r hint) ∧
        ∀ r hint, GivesHint d f r hint →
          (hint ∈ f.hints d ∧ hint.expression.toList <:+: (f.text d).toList ∧
            (f.text d).toList <:+: m.source.toList) ∧
          (IsQuoted hint.expression ↔ ∃ n reference, r = inArrays n (.named reference)) ∧
          (r.IsWellFormed → IsQuoted hint.expression →
            Lexical.literal? hint.expression.toList =
              some (hint.text.toList.map Char.toNat, [])) ∧
          (¬IsQuoted hint.expression →
            (∀ word, Mentions hint.expression word → word = "" ∨ word ∈ expressionWords) ∧
              (∀ t : TypeDef, ¬Mentions hint.expression (Naming.typeName t.id)) ∧
                ∀ c : Command, ¬Mentions hint.expression (Naming.resultName c.name)) := by
  refine ⟨exists_eq_inArrays, fun current n name => ⟨?_, label_inArrays n _⟩,
    fun current n reference => ⟨?_, label_inArrays n _⟩, ?_⟩
  · rw [ofTypeRef_inArrays]
    rfl
  · rw [ofTypeRef_inArrays, ofTypeRef, ofReference_eq]
  intro package version d m h f hf
  obtain ⟨-, rfl⟩ := ofDomain_eq_ok_iff.1 h
  refine ⟨fun hint => exists_givesHint_of_mem_hints, fun r hint hgives => ?_⟩
  have hwritten := infix_of_mem_annotations (expression_mem_annotations hgives.mem_hints)
  refine ⟨⟨hgives.mem_hints, hwritten, infix_source package version hf⟩, ?_, ?_, ?_⟩
  · rw [hgives.isQuoted_iff, isSome_leaf?_iff]
  · intro hr hquoted
    exact hgives.literal?_expression hr (hgives.isQuoted_iff.1 hquoted)
  · intro hbare
    rw [hgives.isQuoted_iff, Option.not_isSome_iff_eq_none] at hbare
    have hsimple := hgives.isSimple hbare
    refine ⟨hsimple, fun t => not_mentions_of_isSimple hsimple ?_,
      fun c => not_mentions_of_isSimple hsimple ?_⟩
    · simp [Naming.typeName, Naming.typeMark]
    · simp [Naming.resultName]

/-- Arrays of arrays of a type of another domain. -/
def rowsType : TypeDef where
  id := "Rows"
  shape := .array (.array (.named ⟨some "Page", "FrameId"⟩))

/-- A command that may return an array of numbers. -/
def getDepths : Command where
  name := "getDepths"
  returns := [{ name := "depths", optional := true, typeRef := .array (.primitive "integer") }]

def matrixDomain : Domain where
  name := "DOM"
  types := [rowsType]
  commands := [getDepths]

theorem expressions_follow_leaves_matrixDomain :
    ∃ m, ofDomain "rpc" matrixDomain "tot" = .ok m ∧
      "\"list[list[Page.cdp_frame_id]]\"".toList <:+: m.source.toList ∧
      IsQuoted "\"list[list[Page.cdp_frame_id]]\"" ∧
      "list[int] | None".toList <:+: m.source.toList ∧ ¬IsQuoted "list[int] | None" := by
  have hok : (ofDomain "rpc" matrixDomain "tot").isOk = true ∧
      (ofTypeDef matrixDomain.name rowsType).expression =
        "\"list[list[Page.cdp_frame_id]]\"" ∧
      ∀ p ∈ getDepths.returns,
        (ofProperty matrixDomain.name p).expression = "list[int] | None" := by
    decide
  obtain ⟨hok, hrows, hdepths⟩ := hok
  have h := ofDomain_of_isOk hok
  have hmodule := expressions_follow_leaves.2.2.2 "rpc" "tot" matrixDomain _ h
  obtain ⟨⟨-, hrowsText, hrowsSource⟩, hrowsQuoted, -⟩ :=
    (hmodule (.type rowsType) (by decide)).2 _ _ (.target rfl)
  obtain ⟨⟨-, hdepthsText, hdepthsSource⟩, hdepthsQuoted, -⟩ :=
    (hmodule (.record getDepths) (by decide)).2 _ _
      (.annotates (.result (List.mem_singleton.2 rfl) (List.mem_singleton.2 rfl)))
  rw [hrows] at hrowsText hrowsQuoted
  rw [hdepths _ (List.mem_singleton.2 rfl)] at hdepthsText hdepthsQuoted
  refine ⟨_, h, hrowsText.trans hrowsSource, hrowsQuoted.2 ⟨2, _, rfl⟩,
    hdepthsText.trans hdepthsSource, ?_⟩
  rw [hdepthsQuoted]
  rintro ⟨n, reference, heq⟩
  cases n with
  | zero => cases heq
  | succ n => cases n <;> cases heq

end Module

end ProtocolBindings
