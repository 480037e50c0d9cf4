import ProtocolBindings.Doc.Docstring
import ProtocolBindings.Proofs.Source.Lexical
import ProtocolBindings.Proofs.Text.Lines

/-!
# Escaped text stays inside its docstring

An escaped text holds no three quotes in a row that are not escaped and every backslash in it
takes a backslash or a quote with it, so it may stand in a docstring.  Indenting its lines and
cutting white space from its start keep this.
-/

namespace ProtocolBindings.Doc

open Lexical

variable {cs body : List Char} {c : Char}

/-- Text in which backslashes are doubled and a quote at the very end is escaped. -/
inductive Guarded : List Char → Prop
  | nil : Guarded []
  | finalQuote : Guarded ['\\', '"']
  | backslash {cs : List Char} (h : Guarded cs) : Guarded ('\\' :: '\\' :: cs)
  | char {c : Char} {cs : List Char} (hback : c ≠ '\\') (hlast : cs = [] → c ≠ '"')
      (h : Guarded cs) : Guarded (c :: cs)

theorem escapeFinalQuote_append {front : List Char} (h : cs ≠ []) :
    escapeFinalQuote (front ++ cs) = front ++ escapeFinalQuote cs := by
  rw [escapeFinalQuote, escapeFinalQuote, List.getLast?_append_of_ne_nil _ h,
    List.dropLast_append_of_ne_nil h]
  split
  · simp
  · rfl

theorem escapeFinalQuote_ne_nil (h : cs ≠ []) : escapeFinalQuote cs ≠ [] := by
  rw [escapeFinalQuote]
  split
  · simp
  · exact h

theorem doubleBackslashes_cons :
    doubleBackslashes (c :: cs) =
      (if c == '\\' then ['\\', '\\'] else [c]) ++ doubleBackslashes cs := by
  rw [doubleBackslashes, List.flatMap_cons]
  rfl

theorem doubleBackslashes_ne_nil (h : cs ≠ []) : doubleBackslashes cs ≠ [] := by
  cases cs with
  | nil => exact absurd rfl h
  | cons c cs =>
    rw [doubleBackslashes_cons]
    split
    · simp
    · simp

theorem guarded_singleton (hback : c ≠ '\\') : Guarded (escapeFinalQuote [c]) := by
  by_cases hquote : c = '"'
  · subst hquote
    exact Guarded.finalQuote
  · have hsame : escapeFinalQuote [c] = [c] := by simp [escapeFinalQuote, hquote]
    rw [hsame]
    exact Guarded.char hback (fun _ => hquote) Guarded.nil

theorem guarded_escapeFinalQuote_doubleBackslashes (cs : List Char) :
    Guarded (escapeFinalQuote (doubleBackslashes cs)) := by
  induction cs with
  | nil => exact Guarded.nil
  | cons c cs ih =>
    rw [doubleBackslashes_cons]
    by_cases hcs : cs = []
    · subst hcs
      split
      · exact Guarded.backslash Guarded.nil
      · rename_i hback
        exact guarded_singleton (by simpa using hback)
    · have hne := doubleBackslashes_ne_nil hcs
      rw [escapeFinalQuote_append hne]
      split
      · exact Guarded.backslash ih
      · rename_i hback
        refine Guarded.char (by simpa using hback) ?_ ih
        exact fun hnil => absurd hnil (escapeFinalQuote_ne_nil hne)

theorem escapeTripleQuotes_cons (h : ¬ ['"', '"', '"'] <+: c :: cs) :
    escapeTripleQuotes (c :: cs) = c :: escapeTripleQuotes cs := by
  rw [escapeTripleQuotes]
  rintro rest rfl rfl
  simp at h

theorem escapeTripleQuotes_ne_nil (h : cs ≠ []) : escapeTripleQuotes cs ≠ [] := by
  cases cs with
  | nil => exact absurd rfl h
  | cons c cs =>
    by_cases hopen : ['"', '"', '"'] <+: c :: cs
    · obtain ⟨rest, hrest⟩ := hopen
      rw [← hrest]
      simp [escapeTripleQuotes]
    · rw [escapeTripleQuotes_cons hopen]
      simp

/-- Where an escaped text begins with a quote, so does the text itself. -/
theorem exists_of_escapeTripleQuotes_eq {rest : List Char}
    (h : escapeTripleQuotes cs = '"' :: rest) :
    ∃ cs', cs = '"' :: cs' ∧ rest = escapeTripleQuotes cs' := by
  cases cs with
  | nil => simp [escapeTripleQuotes] at h
  | cons c cs =>
    by_cases hopen : ['"', '"', '"'] <+: c :: cs
    · obtain ⟨cs', hcs'⟩ := hopen
      rw [← hcs'] at h
      simp [escapeTripleQuotes] at h
    · rw [escapeTripleQuotes_cons hopen, List.cons.injEq] at h
      obtain ⟨rfl, rfl⟩ := h
      exact ⟨cs, rfl, rfl⟩

theorem Guarded.of_quote (h : Guarded ('"' :: cs)) : cs ≠ [] ∧ Guarded cs := by
  cases h with
  | char hback hlast h => exact ⟨fun hcs => hlast hcs rfl, h⟩

/-- Escaping brings no quotes together: guarded text that does not begin with two quotes does not
begin with two afterwards, whatever follows it. -/
theorem not_quotes_prefix_escapeTripleQuotes (h : Guarded cs) (hcs : cs ≠ [])
    (hopen : ¬ ['"', '"'] <+: cs) : ¬ ['"', '"'] <+: escapeTripleQuotes cs ++ body := by
  intro hp
  obtain ⟨a, rest, hesc⟩ := List.exists_cons_of_ne_nil (escapeTripleQuotes_ne_nil hcs)
  rw [hesc, List.cons_append, List.cons_prefix_cons] at hp
  obtain ⟨rfl, hp⟩ := hp
  obtain ⟨cs', rfl, rfl⟩ := exists_of_escapeTripleQuotes_eq hesc
  obtain ⟨hcs', -⟩ := h.of_quote
  obtain ⟨b, rest', hesc'⟩ := List.exists_cons_of_ne_nil (escapeTripleQuotes_ne_nil hcs')
  rw [hesc', List.cons_append, List.cons_prefix_cons] at hp
  obtain ⟨rfl, -⟩ := hp
  obtain ⟨cs'', rfl, -⟩ := exists_of_escapeTripleQuotes_eq hesc'
  simp at hopen

theorem docstringBody_escapedQuotes (h : DocstringBody body) :
    DocstringBody ('\\' :: '"' :: '\\' :: '"' :: '\\' :: '"' :: body) :=
  .escape (.inr rfl) (.escape (.inr rfl) (.escape (.inr rfl) h))

/-- Guarded text is the body of a docstring once three quotes in a row are escaped.  The quotes
that follow it may be two of the closing ones. -/
theorem docstringBody_escapeTripleQuotes (h : Guarded cs) (hbody : DocstringBody body) :
    DocstringBody (escapeTripleQuotes cs ++ body) := by
  -- Escaping takes three quotes at a time, so the induction is on the length.
  induction hn : cs.length using Nat.strong_induction_on generalizing cs with
  | _ n ih =>
    subst hn
    cases h with
    | nil => simpa [escapeTripleQuotes] using hbody
    | finalQuote => simpa [escapeTripleQuotes] using DocstringBody.escape (.inr rfl) hbody
    | @backslash cs h =>
      have hesc : escapeTripleQuotes ('\\' :: '\\' :: cs) =
          '\\' :: '\\' :: escapeTripleQuotes cs := by
        rw [escapeTripleQuotes_cons (by simp), escapeTripleQuotes_cons (by simp)]
      rw [hesc]
      have hlen : cs.length < ('\\' :: '\\' :: cs).length := by
        simp only [List.length_cons]
        omega
      exact .escape (.inl rfl) (ih cs.length hlen h rfl)
    | @char c cs hback hlast h =>
      by_cases hopen : ['"', '"', '"'] <+: c :: cs
      · obtain ⟨rest, hrest⟩ := hopen
        rw [List.cons_append, List.cons.injEq] at hrest
        obtain ⟨rfl, rfl⟩ := hrest
        have hguarded : Guarded rest := h.of_quote.2.of_quote.2
        have hlen : rest.length < ('"' :: '"' :: '"' :: rest).length := by
          simp only [List.length_cons]
          omega
        exact docstringBody_escapedQuotes (ih rest.length hlen hguarded rfl)
      · rw [escapeTripleQuotes_cons hopen]
        refine .char hback ?_ (ih cs.length (by simp) h rfl)
        intro hp
        obtain ⟨rfl, hquotes⟩ := List.cons_prefix_cons.1 hp
        refine not_quotes_prefix_escapeTripleQuotes h (fun hcs => hlast hcs rfl) ?_ hquotes
        exact fun hquotes => hopen (List.cons_prefix_cons.2 ⟨rfl, hquotes⟩)

theorem docstringBody_escapeChars (cs : List Char) (hbody : DocstringBody body) :
    DocstringBody (escapeChars cs ++ body) :=
  docstringBody_escapeTripleQuotes (guarded_escapeFinalQuote_doubleBackslashes cs) hbody

/-! ## Lines and margins -/

theorem docstringBody_append_lineFeed {a b : List Char} (ha : DocstringBody a)
    (hb : DocstringBody b) : DocstringBody (a ++ '\n' :: b) := by
  induction ha with
  | nil => exact .char (by decide) (by simp) hb
  | escape hc h ih => exact .escape hc ih
  | char hback hopen h ih =>
    refine .char hback ?_ ih
    exact fun hp => hopen (quotes_prefix_of_lineFeed hp)

theorem docstringBody_joinLines {lines : List (List Char)}
    (h : ∀ line ∈ lines, DocstringBody line) : DocstringBody (Text.joinLines lines) := by
  induction lines with
  | nil => exact .nil
  | cons line lines ih =>
    rw [List.forall_mem_cons] at h
    cases lines with
    | nil => simpa [Text.joinLines] using h.1
    | cons next lines =>
      have htail := ih h.2
      rw [Text.joinLines] at htail ⊢
      rw [List.intercalate_cons_cons]
      simpa using docstringBody_append_lineFeed h.1 htail

/-- The lines of a docstring's body are bodies of their own, since no escape reaches over the end
of a line. -/
theorem docstringBody_of_mem_splitLines {line : List Char} (h : DocstringBody cs)
    (hline : line ∈ Text.splitLines cs) : DocstringBody line := by
  have hfirst : ∀ {cs : List Char}, (∀ line ∈ Text.splitLines cs, DocstringBody line) →
      DocstringBody ((Text.splitLines cs).headD []) := by
    intro cs hall
    cases hs : Text.splitLines cs with
    | nil => exact .nil
    | cons first lines => exact hall first (hs ▸ List.mem_cons_self)
  induction h generalizing line with
  | nil => simp [Text.splitLines] at hline
  | @escape c cs hc h ih =>
    have hbreak : Text.isLineBreak c = false := by
      rcases hc with rfl | rfl
      · decide
      · decide
    rw [Text.splitLines_cons_of_not_isLineBreak (by decide),
      Text.splitLines_cons_of_not_isLineBreak hbreak, List.headD_cons, List.tail_cons,
      List.mem_cons] at hline
    rcases hline with rfl | hline
    · exact .escape hc (hfirst fun line => ih)
    · exact ih (List.mem_of_mem_tail hline)
  | @char c cs hback hopen h ih =>
    cases hbreak : Text.isLineBreak c with
    | true =>
      obtain ⟨lines, hlines, heq⟩ := Text.splitLines_cons_of_isLineBreak cs hbreak
      rw [hlines, List.mem_cons] at hline
      rcases hline with rfl | hline
      · exact .nil
      · rcases heq with rfl | heq
        · exact ih hline
        · exact ih (heq ▸ List.mem_cons_of_mem _ hline)
    | false =>
      rw [Text.splitLines_cons_of_not_isLineBreak hbreak, List.mem_cons] at hline
      rcases hline with rfl | hline
      · refine .char hback (fun hp => hopen (hp.trans ?_)) (hfirst fun line => ih)
        exact List.cons_prefix_cons.2 ⟨rfl, Text.headD_splitLines_prefix cs⟩
      · exact ih (List.mem_of_mem_tail hline)

theorem docstringBody_blanks_append (n : Nat) (h : DocstringBody cs) :
    DocstringBody (List.replicate n ' ' ++ cs) := by
  induction n with
  | zero => simpa using h
  | succ n ih => exact .char (by decide) (by simp [List.cons_prefix_cons]) ih

theorem docstringBody_indent (n : Nat) (h : DocstringBody cs) :
    DocstringBody (Text.indent (List.replicate n ' ') cs) := by
  apply docstringBody_joinLines
  intro line hline
  obtain ⟨line, hmem, rfl⟩ := List.mem_map.1 hline
  have hbody := docstringBody_of_mem_splitLines h hmem
  split
  · exact .nil
  · exact docstringBody_blanks_append n hbody

theorem docstringBody_trimStart (h : DocstringBody cs) : DocstringBody (Text.trimStart cs) := by
  induction h with
  | nil => exact .nil
  | escape hc h ih => exact .escape hc h
  | @char c cs hback hopen h ih =>
    rw [Text.trimStart, List.dropWhile_cons]
    split
    · exact ih
    · exact .char hback hopen h

/-! ## Docstrings in place -/

theorem docstringBody_two_quotes : DocstringBody ['"', '"'] :=
  .char (by decide) (by decide) (.char (by decide) (by decide) .nil)

theorem docstringBody_escape (text : String) : DocstringBody (escape text).toList := by
  simpa [escape] using docstringBody_escapeChars text.toList .nil

/-- Two of the closing quotes do not end an escaped text. -/
theorem docstringBody_escape_quotes (text : String) :
    DocstringBody ((escape text).toList ++ ['"', '"']) := by
  simpa [escape] using docstringBody_escapeChars text.toList docstringBody_two_quotes

/-- A function's docstring leaves its indentation, whatever the text. -/
theorem readsAs_functionDocstring (text : String) :
    ReadsAs (functionDocstring text ++ "\n") ("    " ++ "\n") := by
  have hbody := docstringBody_escape text
  have hmargin : ∀ c ∈ "    ".toList, isIndentation c := by simp [isIndentation]
  rw [functionDocstring]
  split
  · have hlines : DocstringBody (Text.trimStart (Text.indent "    ".toList (escape text).toList)) :=
      docstringBody_trimStart (docstringBody_indent 4 hbody)
    have hclosed : ∀ {tail : List Char}, DocstringBody tail →
        DocstringBody (Text.trimStart (Text.indent "    ".toList (escape text).toList) ++
          '\n' :: (List.replicate 4 ' ' ++ tail)) :=
      fun htail => docstringBody_append_lineFeed hlines (docstringBody_blanks_append 4 htail)
    have hreads := readsAs_docstring "    "
      (String.ofList (Text.trimStart (Text.indent "    ".toList (escape text).toList)) ++ "\n    ")
      hmargin (by simpa using hclosed .nil) (by simpa using hclosed docstringBody_two_quotes)
    simpa only [tripleQuote, String.append_assoc] using hreads
  · simpa only [tripleQuote, String.append_assoc] using
      readsAs_docstring "    " (escape text) hmargin hbody (docstringBody_escape_quotes text)

/-- The docstring at the head of a module leaves an empty line, whatever the text. -/
theorem readsAs_moduleDocstring (text : String) :
    ReadsAs (tripleQuote ++ escape text ++ "\n" ++ tripleQuote ++ "\n") ("" ++ "\n") := by
  have hbody := docstringBody_escape text
  have hreads := readsAs_docstring "" (escape text ++ "\n") (by simp)
    (by simpa using docstringBody_append_lineFeed hbody .nil)
    (by simpa using docstringBody_append_lineFeed hbody docstringBody_two_quotes)
  simpa only [tripleQuote, String.append_assoc, String.empty_append] using hreads

end ProtocolBindings.Doc
