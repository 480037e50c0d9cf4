import ProtocolBindings.Proofs.Config
import ProtocolBindings.Proofs.Source.Annotations

/-!
# The head of a module

The imports and the list of names at the head of a module are code, if the package has a proper
name and the domain refers by well-formed references.
-/

namespace ProtocolBindings.Module

open Lexical

/-- The annotations of a well-formed domain are hints of well-formed types. -/
theorem Annotates.isWellFormed {d : Domain} {f : Definition} {r : TypeRef} {hint : TypeHint}
    (h : Annotates d f r hint) (hf : f ∈ definitions d) (hwell : d.IsWellFormed) :
    r.IsWellFormed := by
  cases h with
  | @target t items hshape =>
    have hitems : items.IsWellFormed :=
      hwell.items t (type_mem_definitions_iff.1 hf) items (by simp [hshape, TypeShape.items?])
    exact hitems
  | field hshape hp hfield => exact hwell.properties _ (type_mem_definitions_iff.1 hf) _ hp
  | result hp hfield => exact hwell.returns _ (record_mem_definitions_iff.1 hf).1 _ hp

/-- Every hint in the declarations of a domain is plain. -/
theorem isPlain_of_mem_hints {d : Domain} (h : d.IsWellFormed) {hint : TypeHint}
    (hhint : hint ∈ (Contents.documented d).hints) : hint.IsPlain := by
  rcases exists_annotates_of_mem_hints hhint with ⟨f, hf, r, hannotates⟩ | ⟨name, rfl⟩
  · have hwell := hannotates.isWellFormed hf h
    cases hannotates with
    | target hshape => exact TypeHint.isPlain_ofTypeRef hwell
    | field hshape hp hfield => exact TypeHint.isPlain_ofProperty hwell
    | result hp hfield => exact TypeHint.isPlain_ofProperty hwell
  · exact TypeHint.isPlain_ofPrimitive name

/-- Every domain that a module imports has a plain name. -/
theorem isPlain_of_mem_domains {d : Domain} (h : d.IsWellFormed) {name : String}
    (hname : name ∈ (Contents.documented d).domains d.name) : IsPlain name := by
  have hmem := (List.mem_filter.1 (Ascending.mem_ofList.1 hname)).1
  obtain ⟨hint, hhint, hmem⟩ := List.mem_flatMap.1 hmem
  exact (isPlain_of_mem_hints h hhint).domains name hmem

theorem isCode_domainImport {package : String} {domains : List String}
    (hpackage : IsPlain package) (hdomains : ∀ d ∈ domains, IsPlain d) :
    IsCode (domainImport package domains) := by
  have hfrom : IsPlain ("    from " ++ package ++ " import ") :=
    (IsPlain.append (by decide) hpackage).append (by decide)
  unfold domainImport
  split
  · rename_i only
    exact (hfrom.append (hdomains only (by simp))).isCode
  · have hlines : IsCode ("\n".intercalate
        (domains.map fun d => "        " ++ Naming.moduleName d ++ ",")) := by
      apply isCode_lines
      rw [List.forall_mem_map]
      intro d hd
      exact ((IsPlain.append (by decide) (hdomains d hd)).append (by decide)).isCode
    have hcode := (hfrom.append (by decide : IsPlain "(")).append_isCode
      (hlines.append (IsPlain.isCode (by decide : IsPlain "    )")).lineFeed (by simp)).lineFeed
    simpa [IsCode] using hcode

theorem isPlain_of_mem_typingNames {contents : Contents} {current name : String}
    (h : name ∈ typingNames contents current) : IsPlain name := by
  have hsome : ∀ {b : Bool} {n : String}, IsPlain n → name ∈ (if b then [n] else []) →
      IsPlain name := by
    intro b n hn h
    split at h
    · rwa [List.mem_singleton.1 h]
    · simp at h
  simp only [typingNames, List.mem_append] at h
  rcases h with (((h | h) | h) | h) | h
  · split at h
    · simp at h
    · rw [List.mem_singleton.1 h]
      decide
  · exact hsome (by decide) h
  · exact hsome (by decide) h
  · exact hsome (by decide) h
  · exact hsome (by decide) h

theorem isPlain_of_mem_standardImports {contents : Contents} {current line : String}
    (h : line ∈ standardImports contents current) : IsPlain line := by
  rw [standardImports, List.mem_append] at h
  rcases h with h | h
  · split at h
    · simp at h
    · rw [List.mem_singleton.1 h]
      decide
  · split at h
    · simp at h
    · rw [List.mem_singleton.1 h]
      exact IsPlain.append (by decide) (IsPlain.intercalate ", " (by decide)
        fun name hname => isPlain_of_mem_typingNames hname)

/-- Every block of imports is code. -/
theorem isCode_of_mem_importBlocks {package : String} {d : Domain}
    (hpackage : Config.isPackageName package) (h : d.IsWellFormed) {block : String}
    (hblock : block ∈ importBlocks package d.name (Contents.documented d)) : IsCode block := by
  rw [importBlocks, List.mem_append, List.mem_append] at hblock
  rcases hblock with (hblock | hblock) | hblock
  · split at hblock
    · simp at hblock
    · rw [List.mem_singleton.1 hblock]
      exact isCode_lines fun line hline => (isPlain_of_mem_standardImports hline).isCode
  · split at hblock
    · simp at hblock
    · rw [List.mem_singleton.1 hblock]
      exact IsPlain.isCode (by decide)
  · split at hblock
    · simp at hblock
    · rw [List.mem_singleton.1 hblock]
      have himport := isCode_domainImport (Config.isPlain_of_isPackageName hpackage)
        fun name hname => isPlain_of_mem_domains h hname
      have hcode := IsPlain.append_isCode (by decide : IsPlain "if TYPE_CHECKING:")
        himport.lineFeed
      simpa [IsCode] using hcode

/-- The list of plain names is code. -/
theorem isCode_exportList {names : List String} (h : ∀ n ∈ names, IsPlain n) :
    IsCode (exportList names) := by
  have hlines : IsCode ("\n".intercalate
      ((experimentalName :: names).map fun n => "    \"" ++ n ++ "\",")) := by
    apply isCode_lines
    rw [List.forall_mem_map, List.forall_mem_cons]
    have hline : ∀ n, IsPlain n → IsCode ("    \"" ++ n ++ "\",") := by
      intro n hn
      have hcode := isCode_quoted "    " n "," (by decide) hn (by decide) (by decide)
      simpa [IsCode] using hcode
    exact ⟨hline experimentalName (by decide), fun n hn => hline n (h n hn)⟩
  have hcode := IsPlain.append_isCode (by decide : IsPlain "__all__ = [")
    (hlines.append (IsPlain.isCode (by decide : IsPlain "]")).lineFeed (by simp)).lineFeed
  simpa [IsCode, exportList] using hcode

/-- The names that an accepted domain defines are plain. -/
theorem Accepts.isPlain_of_mem_definedNames {d : Domain} (h : Accepts d) {name : String}
    (hname : name ∈ definedNames d) : IsPlain name := by
  rcases List.mem_append.1 hname with hname | hname
  · obtain ⟨t, ht, rfl⟩ := List.mem_map.1 hname
    exact isPlain_of_isIdentifier (h.typeName t ht)
  · obtain ⟨c, hc, hname⟩ := List.mem_flatMap.1 hname
    have hfunction := isPlain_of_isIdentifier (h.functionName c hc)
    rw [List.mem_cons] at hname
    rcases hname with hname | hname
    · rw [hname]
      exact hfunction
    · split at hname
      · simp at hname
      · rw [List.mem_singleton.1 hname]
        exact Naming.isPlain_resultName hfunction

end ProtocolBindings.Module
