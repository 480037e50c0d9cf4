import ProtocolBindings.Proofs.Doc.Reading
import ProtocolBindings.Proofs.Source.Exports
import ProtocolBindings.Proofs.Source.Lines

/-!
# The lines behind the docstring

A module begins with a docstring.  Behind it stand the blocks of its head, each behind an empty
line, and then the definitions.
-/

namespace ProtocolBindings

namespace Lexical

/-- The lines of a source text behind the docstring that it begins with, if there is one; none if
the docstring does not end. -/
def linesBehindDocstring? (source : String) : Option (List (List Char)) :=
  match source.toList with
  | '"' :: '"' :: '"' :: rest =>
    (docstringBody? rest).map fun read => Text.pieces (· == '\n') read.2
  | cs => some (Text.pieces (· == '\n') cs)

/-- The lines of blocks that stand behind an empty line each. -/
def blockLines (blocks : List String) : List (List Char) :=
  blocks.flatMap fun block => [] :: linesOf block

theorem blockLines_append (front back : List String) :
    blockLines (front ++ back) = blockLines front ++ blockLines back :=
  List.flatMap_append

theorem linesOf_empty : linesOf "" = [[]] :=
  rfl

theorem linesOf_append_gap (a b : String) : linesOf (a ++ "\n\n" ++ b) =
    linesOf a ++ [] :: linesOf b := by
  have hgap : "\n\n" = "\n" ++ "" ++ "\n" := by decide
  rw [hgap, ← String.append_assoc, ← String.append_assoc, linesOf_append, linesOf_append,
    linesOf_empty, List.append_assoc, List.singleton_append]

theorem linesOf_paragraphs (first : String) (blocks : List String) :
    linesOf ("\n\n".intercalate (first :: blocks)) = linesOf first ++ blockLines blocks := by
  induction blocks generalizing first with
  | nil => rw [String.intercalate_singleton, blockLines, List.flatMap_nil, List.append_nil]
  | cons second rest ih =>
    rw [String.intercalate_cons_cons, linesOf_append_gap, ih]
    rfl

end Lexical

open Lexical

namespace Module

variable {d : Domain}

/-- Behind the first of some texts, each of the others stands on lines of its own behind empty
ones. -/
theorem Spaced.exists_linesOf {texts : List String} {source : String} (h : Spaced texts source)
    (first : String) : ∃ lines, linesOf (first ++ source) = linesOf first ++ lines ∧
      ∀ line ∈ lines, line = [] ∨ ∃ text ∈ texts, line ∈ linesOf text := by
  induction h generalizing first with
  | nil => exact ⟨[], by simp, by simp⟩
  | @cons gap text source texts hgap h ih =>
    obtain ⟨lines, hlines, hmem⟩ := ih text
    obtain ⟨blanks, hblanks, hempty⟩ : ∃ blanks, linesOf (first ++ gap ++ (text ++ source)) =
        linesOf first ++ blanks ++ linesOf (text ++ source) ∧ ∀ line ∈ blanks, line = [] := by
      rcases hgap with rfl | rfl
      · exact ⟨[[]], by rw [linesOf_append_gap]; simp, by simp⟩
      · have hgap : first ++ "\n\n\n" = first ++ "\n\n" ++ "" ++ "\n" := by
          apply String.toList_inj.1
          simp
        refine ⟨[[], []], ?_, by simp⟩
        rw [hgap, linesOf_append, linesOf_append_gap, linesOf_empty]
    refine ⟨blanks ++ (linesOf text ++ lines), ?_, ?_⟩
    · rw [← hlines, ← List.append_assoc, ← hblanks]
      simp only [String.append_assoc]
    · rw [List.forall_mem_append, List.forall_mem_append]
      refine ⟨fun line hline => Or.inl (hempty line hline), fun line hline => ?_,
        fun line hline => ?_⟩
      · exact Or.inr ⟨text, List.mem_cons_self, hline⟩
      · exact (hmem line hline).imp_right fun ⟨other, hother, hline⟩ =>
          ⟨other, List.mem_cons_of_mem _ hother, hline⟩

/-- The first import of a module. -/
def futureImport : String := "from __future__ import annotations"

/-- The blocks of a module's head behind its docstring. -/
def headBlocks (package : String) (d : Domain) : List String :=
  futureImport :: (importBlocks package d.name (.documented d) ++
    [exportList (definedNames d)])

theorem head_eq_intercalate (package : String) (d : Domain) (version : String) :
    head package d version = moduleDocstring d version ++
      "\n\n".intercalate ("" :: headBlocks package d) := by
  rw [head, Contents.names_documented, headBlocks, futureImport, List.append_assoc,
    List.cons_append, List.cons_append, List.nil_append, String.intercalate_cons_cons,
    String.intercalate_cons_cons, String.empty_append, String.append_assoc]

/-- What is written behind the docstring of a module stands on the lines behind it. -/
theorem linesBehindDocstring?_moduleDocstring (d : Domain) (version rest : String) :
    linesBehindDocstring? (moduleDocstring d version ++ rest) = some (linesOf rest) := by
  have htext : (moduleDocstring d version ++ rest).toList = '"' :: '"' :: '"' ::
      ((Doc.escape (Doc.domain d version) ++ "\n").toList ++
        (Doc.tripleQuote.toList ++ rest.toList)) := by
    simp [moduleDocstring, Doc.tripleQuote]
  have hread := (Doc.readsBack_escape (Doc.domain d version)).2.ends rest.toList
  rw [linesBehindDocstring?, htext]
  simp only [hread, Option.map_some]
  rfl

example : linesBehindDocstring? "\"\"\"a\nb\\\"\"\"\"\nx = 1\n" =
    some [[], "x = 1".toList, []] := by
  decide

/-- The lines behind the docstring of a module are those of its head and those of its
definitions. -/
theorem linesBehindDocstring?_documented (package : String) (d : Domain) (version : String) :
    ∃ later, linesBehindDocstring? (documented package d version).source =
        some ([] :: (blockLines (headBlocks package d) ++ later)) ∧
      ∀ line ∈ later, line = [] ∨ ∃ f ∈ definitions d, line ∈ linesOf (f.text d) := by
  obtain ⟨body, hsource, hspaced⟩ := source_documented package d version
  obtain ⟨lines, hlines, hmem⟩ :=
    hspaced.exists_linesOf ("\n\n".intercalate ("" :: headBlocks package d))
  have hbehind : linesOf ("\n\n".intercalate ("" :: headBlocks package d) ++ body ++ "\n" ++ "") =
      [] :: (blockLines (headBlocks package d) ++ (lines ++ [[]])) := by
    rw [linesOf_append, hlines, linesOf_paragraphs, linesOf_empty, List.append_assoc,
      List.append_assoc]
    rfl
  rw [String.append_empty] at hbehind
  refine ⟨lines ++ [[]], ?_, ?_⟩
  · rw [hsource, head_eq_intercalate, String.append_assoc, String.append_assoc,
      linesBehindDocstring?_moduleDocstring, ← String.append_assoc, hbehind]
  · rw [List.forall_mem_append, List.forall_mem_singleton]
    refine ⟨fun line hline => ?_, Or.inl rfl⟩
    refine (hmem line hline).imp_right ?_
    rintro ⟨text, htext, hline⟩
    obtain ⟨f, hf, rfl⟩ := List.mem_map.1 htext
    exact ⟨f, hf, hline⟩

end Module

end ProtocolBindings
