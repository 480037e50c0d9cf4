import ProtocolBindings.Proofs.Doc.Reading
import ProtocolBindings.Proofs.Source.Package
import ProtocolBindings.Proofs.Source.TopLevel
import ProtocolBindings.Version

/-!
# The version in generated source

The documentation of a module is read back from its docstring as it was before it was escaped.  Its
last line names the version of the protocol, and the file that lists the domains assigns the version
to a variable.
-/

namespace ProtocolBindings

/-- The name of a version stands on one line and between quotes. -/
theorem ProtocolVersion.notMem_name (version : ProtocolVersion) :
    '\n' ∉ version.name.toList ∧ '\'' ∉ version.name.toList := by
  cases version <;> decide

/-! ## The documentation of a module -/

namespace Lexical

/-- The docstring that a source text begins with. -/
def documentation? (source : String) : Option String :=
  match source.toList with
  | '"' :: '"' :: '"' :: rest => (docstringText? rest).map String.ofList
  | _ => none

end Lexical

/-! ## The version in a documentation -/

namespace Doc

open Lexical

/-- What stands in front of the version on the line that names it. -/
def versionOpening : String := "Generated from Chrome DevTools Protocol version '"

/-- The version that a documentation names: the one on the last line that names one. -/
def namedVersion? (documentation : String) : Option String :=
  match fromLast versionOpening.toList (linesOf documentation) with
  | [] => none
  | line :: _ =>
    some (String.ofList ((line.drop versionOpening.length).takeWhile (· != '\'')))

/-- The last line of a domain's documentation names the version. -/
theorem namedVersion?_domain (d : Domain) (version : ProtocolVersion) :
    namedVersion? (domain d version.name ++ "\n") = some version.name := by
  have hname := version.notMem_name
  have hline : '\n' ∉ (versionOpening ++ version.name ++ "'. Do not edit.").toList :=
    notMem_append (notMem_append (by decide) hname.1) (by decide)
  obtain ⟨front, hfront⟩ : ∃ front, domain d version.name =
      front ++ "\n" ++ "\n" ++ (versionOpening ++ version.name ++ "'. Do not edit.") := by
    refine ⟨"\n\n".intercalate ([if description d.description == "" then d.name ++ " domain."
      else description d.description] ++ statusSection "domain" d.experimental d.deprecated), ?_⟩
    rw [domain, String.intercalate_append_of_ne_nil (by simp) (by simp),
      String.intercalate_singleton]
    simp only [versionOpening, String.append_assoc]
    rfl
  have hnamed : String.ofList ((((versionOpening ++ version.name ++ "'. Do not edit.").toList).drop
      versionOpening.length).takeWhile (· != '\'')) = version.name := by
    have htext : (versionOpening ++ version.name ++ "'. Do not edit.").toList =
        versionOpening.toList ++ (version.name.toList ++ '\'' :: ". Do not edit.".toList) := by
      simp
    have hkept : ∀ c ∈ version.name.toList, (c != '\'') = true := by
      intro c hc
      simpa using ne_of_mem_of_not_mem hc hname.2
    rw [htext, List.drop_left' (String.length_toList), List.takeWhile_append_of_pos hkept]
    simp
  have hprefix : versionOpening.toList <+:
      (versionOpening ++ version.name ++ "'. Do not edit.").toList := by
    rw [String.append_assoc, String.toList_append]
    exact List.prefix_append _ _
  have hlines : linesOf (domain d version.name ++ "\n") = linesOf (front ++ "\n") ++
      (versionOpening ++ version.name ++ "'. Do not edit.").toList :: [[]] := by
    have hempty : domain d version.name ++ "\n" = domain d version.name ++ "\n" ++ "" := by simp
    rw [hempty, linesOf_append, hfront, linesOf_append, linesOf_of_notMem hline,
      List.append_assoc]
    rfl
  rw [namedVersion?, hlines, fromLast_append hprefix (by simp [versionOpening])]
  simp only [hnamed]

end Doc

namespace Module

open Lexical

/-- The documentation of a domain is read back from the source of its module. -/
theorem documentation?_documented (package : String) (d : Domain) (version : String) :
    documentation? (documented package d version).source =
      some (Doc.domain d version ++ "\n") := by
  obtain ⟨body, hsource, -⟩ := source_documented package d version
  obtain ⟨rest, hhead⟩ : ∃ rest, head package d version = moduleDocstring d version ++ rest := by
    rw [head, List.append_assoc, List.cons_append, List.cons_append,
      String.intercalate_cons_cons, String.append_assoc]
    exact ⟨_, rfl⟩
  have htext : (documented package d version).source.toList = '"' :: '"' :: '"' ::
      (Doc.escapeChars (Doc.domain d version).toList ++
        '\n' :: '"' :: '"' :: '"' :: (rest ++ body ++ "\n").toList) := by
    rw [hsource, hhead, moduleDocstring, Doc.escape]
    simp [Doc.tripleQuote]
  rw [documentation?, htext]
  simp only [Doc.docstringText?_escapeChars]
  simp

end Module

/-! ## The list of the domains -/

namespace Lexical

/-- The text of the literal that ends a line, behind what stands in front of it. -/
def textBehind? (opening : String) (line : List Char) : Option String :=
  match literal? (line.drop opening.length) with
  | some (codes, []) => some (String.ofList (codes.map Char.ofNat))
  | _ => none

/-- The text that the last line of the form `name = "text"` assigns to a variable. -/
def assignedText? (name source : String) : Option String :=
  match fromLast (name ++ " = ").toList (linesOf source) with
  | [] => none
  | line :: _ => textBehind? (name ++ " = ") line

end Lexical

namespace Package

open Lexical

def versionVariable : String := "PROTOCOL_VERSION"

/-- The file that lists the domains assigns the version of the schema. -/
theorem assignedText?_indexSource {schema : Schema} {version : ProtocolVersion}
    (hversion : schema.version = version.name)
    (h : ∀ name ∈ schema.domainNames, IsPlain name) :
    assignedText? versionVariable (indexSource schema) = some version.name := by
  have hback : ∀ line ∈ linesOf indexBack, ¬(versionVariable ++ " = ").toList <+: line := by
    rw [linesOf_indexBack, List.forall_mem_map]
    decide
  have hlist : ∀ line ∈ linesOf (domainList schema.domainNames),
      ¬(versionVariable ++ " = ").toList <+: line := by
    rw [domainList]
    split
    · decide
    · rename_i hne
      rw [linesOf_listText (by decide) (by decide) (by simpa using hne) h, List.forall_mem_cons,
        List.forall_mem_append, List.forall_mem_map]
      refine ⟨by decide, fun n _ hprefix => ?_, by decide⟩
      simp [versionVariable, entryLine] at hprefix
  obtain ⟨front, hfront⟩ : ∃ front, linesOf (indexFront schema) =
      front ++ (versionVariable ++ " = \"" ++ version.name ++ "\"").toList :: [[]] := by
    have hname := version.notMem_name.1
    rw [indexFront, hversion, linesOf_intercalate (List.cons_ne_nil _ _)]
    · exact ⟨[_, _, _, _, _].map String.toList, rfl⟩
    · simp only [List.forall_mem_cons]
      exact ⟨notMem_append (notMem_append (by decide) hname) (by decide), by decide, by decide,
        by decide, by decide, notMem_append (notMem_append (by decide) hname) (by decide),
        by decide, List.forall_mem_nil _⟩
  have hlines : linesOf (indexSource schema) =
      front ++ (versionVariable ++ " = \"" ++ version.name ++ "\"").toList ::
        ([] :: (linesOf (domainList schema.domainNames) ++ linesOf indexBack)) := by
    rw [indexSource_eq, linesOf_append, linesOf_append, hfront]
    simp
  have hbehind : ∀ line ∈ [] :: (linesOf (domainList schema.domainNames) ++ linesOf indexBack),
      ¬(versionVariable ++ " = ").toList <+: line := by
    rw [List.forall_mem_cons, List.forall_mem_append]
    exact ⟨by decide, hlist, hback⟩
  have hline : (versionVariable ++ " = ").toList <+:
      (versionVariable ++ " = \"" ++ version.name ++ "\"").toList := by
    cases version <;> decide
  have hread : textBehind? (versionVariable ++ " = ")
      (versionVariable ++ " = \"" ++ version.name ++ "\"").toList = some version.name := by
    cases version <;> decide
  rw [assignedText?, hlines, fromLast_append hline hbehind]
  exact hread

end Package

end ProtocolBindings
