import Mathlib.Data.List.Infix
import Mathlib.Data.List.Nodup
import Mathlib.Data.List.Perm.Basic
import ProtocolBindings.Proofs.Source.Accepted

/-!
# What a module defines

Behind its head, a module consists of the texts of its definitions: the function that tells
whether its domain is experimental, the types, and for every command its function, behind the
record of what it returns if there is one.  In the module of an accepted domain no two
definitions have the same name.
-/

namespace ProtocolBindings

namespace Naming

theorem experimentalName_ne_typeName (typeId : String) :
    Module.experimentalName ≠ typeName typeId := by
  intro heq
  have hhead := congrArg (fun name => name.toList.head?) heq
  simp [Module.experimentalName, typeName, typeMark] at hhead

theorem experimentalName_ne_resultName (command : String) :
    Module.experimentalName ≠ resultName command := by
  intro heq
  have hlast := congrArg (fun name => name.toList.getLast?) heq
  simp [Module.experimentalName, resultName] at hlast

/-- A function that would be called like the one that every module defines gets another name. -/
theorem experimentalName_ne_functionName (command : String) :
    Module.experimentalName ≠ functionName command := by
  intro heq
  rw [functionName] at heq
  split at heq
  · have hlast := congrArg (fun name => name.toList.getLast?) heq
    simp [Module.experimentalName] at hlast
  · rename_i hfree
    rw [← heq] at hfree
    exact hfree (by decide)

end Naming

namespace Module

/-- What a module defines. -/
inductive Definition where
  | experimental
  | type (t : TypeDef)
  | record (c : Command)
  | function (c : Command)
deriving DecidableEq

namespace Definition

def name : Definition → String
  | .experimental => experimentalName
  | .type t => Naming.typeName t.id
  | .record c => Naming.resultName c.name
  | .function c => Naming.functionName c.name

/-- The text of a definition in the module of a domain. -/
def text (d : Domain) : Definition → String
  | .experimental => experimentalFunction d
  | .type t => (Declaration.documented d.name t).text
  | .record c => (Declaration.ofResult d.name c (CommandFunction.wireMethod d.name c.name)).text
  | .function c => (CommandFunction.documented d.name c).source

def hints (d : Domain) : Definition → List TypeHint
  | .experimental => []
  | .type t => (Declaration.documented d.name t).hints
  | .record c =>
    (Declaration.ofResult d.name c (CommandFunction.wireMethod d.name c.name)).hints
  | .function _ => []

def ofCommand (c : Command) : List Definition :=
  if c.returns.isEmpty then [.function c] else [.record c, .function c]

end Definition

/-- What the module of a domain defines, in order. -/
def definitions (d : Domain) : List Definition :=
  .experimental :: (d.types.map .type ++ d.commands.flatMap Definition.ofCommand)

theorem type_mem_definitions_iff {d : Domain} {t : TypeDef} :
    .type t ∈ definitions d ↔ t ∈ d.types := by
  have hcommand : ∀ c : Command, Definition.type t ∉ Definition.ofCommand c := by
    intro c
    rw [Definition.ofCommand]
    split <;> simp
  simp [definitions, hcommand]

theorem record_mem_definitions_iff {d : Domain} {c : Command} :
    .record c ∈ definitions d ↔ c ∈ d.commands ∧ c.returns ≠ [] := by
  have hcommand : ∀ other : Command,
      Definition.record c ∈ Definition.ofCommand other ↔ other = c ∧ c.returns ≠ [] := by
    intro other
    rw [Definition.ofCommand]
    split
    · rename_i hempty
      simp only [List.mem_singleton, reduceCtorEq, false_iff, not_and, not_not]
      rintro rfl
      exact List.isEmpty_iff.1 hempty
    · rename_i hfull
      simp only [List.mem_cons, Definition.record.injEq, reduceCtorEq, List.not_mem_nil, or_self,
        or_false]
      constructor
      · rintro rfl
        exact ⟨rfl, fun hnil => hfull (List.isEmpty_iff.2 hnil)⟩
      · rintro ⟨rfl, -⟩
        rfl
  simp [definitions, hcommand]

theorem function_mem_definitions_iff {d : Domain} {c : Command} :
    .function c ∈ definitions d ↔ c ∈ d.commands := by
  have hcommand : ∀ other : Command,
      Definition.function c ∈ Definition.ofCommand other ↔ c = other := by
    intro other
    rw [Definition.ofCommand]
    split <;> simp
  simp [definitions, hcommand]

/-- The hints of a module are those of its definitions. -/
theorem hints_documented (d : Domain) :
    (Contents.documented d).hints = (definitions d).flatMap (·.hints d) := by
  have hresults : ∀ commands : List Command,
      (((commands.map (CommandPart.documented d.name)).filterMap (·.result)).flatMap (·.hints)) =
        (commands.flatMap Definition.ofCommand).flatMap (·.hints d) := by
    intro commands
    induction commands with
    | nil => rfl
    | cons c rest ih =>
      rw [List.map_cons, List.flatMap_cons, List.flatMap_append, ← ih, List.filterMap_cons,
        CommandPart.documented, Definition.ofCommand]
      cases c.returns.isEmpty with
      | true => simp [Definition.hints]
      | false => simp [Definition.hints]
  rw [Contents.hints, Contents.declarations, Contents.documented, definitions,
    List.flatMap_append, hresults]
  simp [Definition.hints, List.flatMap_map]

/-- The definitions have the names that the module checks, and that of `experimental`. -/
theorem names_definitions_perm (d : Domain) :
    (definitions d).map (·.name) |>.Perm (experimentalName :: definedNames d) := by
  have hcommand : ∀ c ∈ d.commands, ((Definition.ofCommand c).map (·.name)).Perm
      (Naming.functionName c.name ::
        (if c.returns.isEmpty then [] else [Naming.resultName c.name])) := by
    intro c _
    rw [Definition.ofCommand]
    split
    · exact .refl _
    · exact .swap _ _ _
  rw [definitions, List.map_cons, List.map_append, List.map_map, List.map_flatMap, definedNames]
  exact .cons _ (.append_left _ (.flatMap_left _ hcommand))

/-- No two definitions of an accepted domain have the same name. -/
theorem Accepts.nodup_definitions {d : Domain} (h : Accepts d) :
    ((definitions d).map (·.name)).Nodup := by
  rw [(names_definitions_perm d).nodup_iff, List.nodup_cons]
  refine ⟨?_, h.distinct⟩
  intro hmem
  rcases List.mem_append.1 hmem with htype | hcommand
  · obtain ⟨t, -, ht⟩ := List.mem_map.1 htype
    exact Naming.experimentalName_ne_typeName t.id ht.symm
  · obtain ⟨c, -, hc⟩ := List.mem_flatMap.1 hcommand
    rcases List.mem_cons.1 hc with hc | hc
    · exact Naming.experimentalName_ne_functionName c.name hc
    · split at hc
      · cases hc
      · exact Naming.experimentalName_ne_resultName c.name (List.mem_singleton.1 hc)

/-- Hence a definition is the only one of its name. -/
theorem Accepts.filter_definitions {d : Domain} (h : Accepts d) {f : Definition}
    (hf : f ∈ definitions d) :
    (definitions d).filter (fun other => other.name == f.name) = [f] := by
  have hsame : ∀ other ∈ definitions d, (other.name == f.name) = (other == f) := by
    intro other hother
    rw [Bool.eq_iff_iff, beq_iff_eq, beq_iff_eq]
    constructor
    · exact fun heq => List.inj_on_of_nodup_map h.nodup_definitions hother hf heq
    · rintro rfl
      rfl
  have hnodup : (definitions d).Nodup := .of_map _ h.nodup_definitions
  rw [List.filter_congr hsame, List.filter_beq, List.count_eq_one_of_mem hnodup hf]
  rfl

/-! ## The text of a module -/

/-- Texts behind one another, each behind one or two empty lines. -/
inductive Spaced : List String → String → Prop where
  | nil : Spaced [] ""
  | cons {gap text source : String} {texts : List String} (hgap : gap = "\n\n" ∨ gap = "\n\n\n")
      (h : Spaced texts source) : Spaced (text :: texts) (gap ++ text ++ source)

namespace Spaced

variable {texts others : List String} {source other text gap : String}

theorem append (h : Spaced texts source) (hother : Spaced others other) :
    Spaced (texts ++ others) (source ++ other) := by
  induction h with
  | nil =>
    rw [List.nil_append, String.empty_append]
    exact hother
  | @cons gap text source texts hgap h ih =>
    rw [List.cons_append, String.append_assoc]
    exact .cons hgap ih

theorem singleton (hgap : gap = "\n\n" ∨ gap = "\n\n\n") : Spaced [text] (gap ++ text) := by
  have h : Spaced [text] (gap ++ text ++ "") := .cons hgap .nil
  rwa [String.append_empty] at h

/-- Each of the texts is found in the whole. -/
theorem infix_of_mem (h : Spaced texts source) (htext : text ∈ texts) :
    text.toList <:+: source.toList := by
  induction h with
  | nil => cases htext
  | @cons gap first source texts hgap h ih =>
    rw [String.toList_append, String.toList_append]
    rcases List.mem_cons.1 htext with rfl | htext
    · exact ⟨gap.toList, source.toList, rfl⟩
    · exact (ih htext).trans (List.suffix_append _ _).isInfix

/-- Texts joined by an empty line. -/
theorem intercalate (hgap : gap = "\n\n" ∨ gap = "\n\n\n") :
    Spaced (text :: texts) (gap ++ "\n\n".intercalate (text :: texts)) := by
  induction texts generalizing text gap with
  | nil =>
    rw [String.intercalate_singleton]
    exact singleton hgap
  | cons next rest ih =>
    have hrest : Spaced (next :: rest) ("\n\n" ++ "\n\n".intercalate (next :: rest)) :=
      ih (Or.inl rfl)
    have h : Spaced (text :: next :: rest) (gap ++ text ++ _) := .cons hgap hrest
    rw [String.intercalate_cons_cons]
    simpa only [String.append_assoc] using h

/-- Blocks joined by two empty lines. -/
theorem blocks {groups : List (List String)} {parts : List String}
    (h : List.Forall₂ (fun group part => Spaced group ("\n\n\n" ++ part)) groups parts)
    (first : String) :
    ∃ body, "\n\n\n".intercalate (first :: parts) = first ++ body ∧ Spaced groups.flatten body := by
  induction h generalizing first with
  | nil => exact ⟨"", by rw [String.intercalate_singleton, String.append_empty], .nil⟩
  | @cons group part groups parts hpart h ih =>
    obtain ⟨body, hbody, hspaced⟩ := ih part
    refine ⟨"\n\n\n" ++ part ++ body, ?_, hpart.append hspaced⟩
    rw [String.intercalate_cons_cons, hbody]
    simp only [String.append_assoc]

end Spaced

/-- The head of a module: its documentation, its imports and the list of its names. -/
def head (package : String) (d : Domain) (version : String) : String :=
  "\n\n".intercalate
    ([moduleDocstring d version, "from __future__ import annotations"] ++
      importBlocks package d.name (.documented d) ++ [exportList (Contents.documented d).names])

theorem CommandPart.spaced (domain : Domain) (c : Command) :
    Spaced ((Definition.ofCommand c).map (·.text domain))
      ("\n\n\n" ++ (CommandPart.documented domain.name c).source) := by
  rw [Definition.ofCommand, CommandPart.source, CommandPart.documented]
  dsimp only
  split
  · exact .singleton (Or.inr rfl)
  · have hrecord : Spaced [Definition.text domain (.record c)] _ := .singleton (Or.inr rfl)
    have hfunction : Spaced [Definition.text domain (.function c)] _ := .singleton (Or.inr rfl)
    have h := hrecord.append hfunction
    rw [String.append_assoc] at h
    dsimp only
    rw [String.append_assoc]
    exact h

/-- Behind its head, the text of a module consists of its definitions. -/
theorem source_documented (package : String) (d : Domain) (version : String) :
    ∃ body, (documented package d version).source = head package d version ++ body ++ "\n" ∧
      Spaced ((definitions d).map (·.text d)) body := by
  have hexperimental : Spaced [Definition.text d .experimental] _ := .singleton (Or.inr rfl)
  have htypes : List.Forall₂ (fun group part => Spaced group ("\n\n\n" ++ part))
      (if d.types.isEmpty then [] else [d.types.map fun t => Definition.text d (.type t)])
      (if d.types.isEmpty then []
        else ["\n\n".intercalate (d.types.map fun t => Definition.text d (.type t))]) := by
    cases d.types with
    | nil => exact .nil
    | cons t rest => exact .cons (.intercalate (Or.inr rfl)) .nil
  have hcommands : List.Forall₂ (fun group part => Spaced group ("\n\n\n" ++ part))
      (d.commands.map fun c => (Definition.ofCommand c).map (·.text d))
      (d.commands.map fun c => (CommandPart.documented d.name c).source) := by
    rw [List.forall₂_map_left_iff, List.forall₂_map_right_iff, List.forall₂_same]
    exact fun c _ => CommandPart.spaced d c
  obtain ⟨body, hbody, hspaced⟩ := Spaced.blocks
    (.cons hexperimental (List.rel_append htypes hcommands)) (head package d version)
  refine ⟨body, ?_, ?_⟩
  · have hempty : (Contents.documented d).types.isEmpty = d.types.isEmpty := by
      simp [Contents.documented]
    have htexts : (Contents.documented d).types.map (·.text) =
        d.types.map fun t => Definition.text d (.type t) := by
      simp [Contents.documented, Definition.text, Function.comp_def]
    have hsources : (Contents.documented d).commands.map (·.source) =
        d.commands.map fun c => (CommandPart.documented d.name c).source := by
      simp [Contents.documented, Function.comp_def]
    rw [← hbody, documented, sourceText]
    dsimp only
    rw [hempty, htexts, hsources]
    rfl
  · have hgroups : (if d.types.isEmpty then []
        else [d.types.map fun t => Definition.text d (.type t)]).flatten =
        d.types.map fun t => Definition.text d (.type t) := by
      cases d.types with
      | nil => rfl
      | cons t rest => exact List.append_nil _
    have hdefinitions : (definitions d).map (·.text d) =
        Definition.text d .experimental ::
          ((d.types.map fun t => Definition.text d (.type t)) ++
            (d.commands.map fun c => (Definition.ofCommand c).map (·.text d)).flatten) := by
      rw [definitions, List.map_cons, List.map_append, List.map_map, List.map_flatMap]
      rfl
    rw [hdefinitions, ← hgroups, ← List.flatten_append]
    exact hspaced

end Module

end ProtocolBindings
