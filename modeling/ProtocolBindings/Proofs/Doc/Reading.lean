import ProtocolBindings.Proofs.Doc.Docstring

/-!
# Reading a docstring back

A docstring is read from behind its opening quotes: a backslash takes the next character with it,
and the text ends at the first three quotes that no backslash takes.  What is written for a text
ends there and nowhere earlier, and without its escapes it is the text again.
-/

namespace ProtocolBindings

namespace Lexical

/-- The text of a docstring behind its opening quotes: what there is up to the closing ones, without
the backslashes in front of quotes and backslashes. -/
def docstringText? : List Char → Option (List Char)
  | '"' :: '"' :: '"' :: _ => some []
  | '\\' :: c :: rest =>
    if c == '\\' || c == '"' then (docstringText? rest).map (c :: ·) else none
  | c :: rest => (docstringText? rest).map (c :: ·)
  | [] => none

/-- A text without the backslashes that escape its characters. -/
def unescape : List Char → List Char
  | '\\' :: c :: rest => c :: unescape rest
  | c :: rest => c :: unescape rest
  | [] => []

variable {c : Char} {cs body rest : List Char}

theorem unescape_cons (h : c ≠ '\\') : unescape (c :: cs) = c :: unescape cs := by
  rw [unescape]
  rintro d rest rfl
  exact absurd rfl h

theorem docstringText?_cons (hback : c ≠ '\\') (hopen : ¬['"', '"', '"'] <+: c :: rest) :
    docstringText? (c :: rest) = (docstringText? rest).map (c :: ·) := by
  rw [docstringText?]
  · rintro rest' rfl rfl
    simp at hopen
  · rintro d rest' rfl
    exact absurd rfl hback

/-- The body of a docstring is read without its escapes. -/
theorem docstringText?_of_docstringBody (h : DocstringBody body) :
    docstringText? (body ++ '\n' :: '"' :: '"' :: '"' :: rest) =
      some (unescape body ++ ['\n']) := by
  induction h with
  | nil =>
    rw [List.nil_append, docstringText?_cons (by decide) (by simp)]
    rfl
  | @escape c body hc h ih =>
    have hescaped : (c == '\\' || c == '"') = true := by
      rcases hc with rfl | rfl <;> rfl
    rw [List.cons_append, List.cons_append, docstringText?, hescaped, if_pos rfl, ih]
    rfl
  | @char c body hback hopen h ih =>
    have hnext : ¬['"', '"', '"'] <+: c :: (body ++ '\n' :: '"' :: '"' :: '"' :: rest) :=
      fun hp => hopen (quotes_prefix_of_lineFeed hp)
    rw [List.cons_append, docstringText?_cons hback hnext, ih, unescape_cons hback]
    rfl

/-- The body of a docstring behind its opening quotes, as it is written, and the text behind the
closing ones. -/
def docstringBody? : List Char → Option (List Char × List Char)
  | '"' :: '"' :: '"' :: behind => some ([], behind)
  | '\\' :: c :: rest => (docstringBody? rest).map fun read => ('\\' :: c :: read.1, read.2)
  | c :: rest => (docstringBody? rest).map fun read => (c :: read.1, read.2)
  | [] => none

/-- What the body of a docstring stands for; none if it holds an escape of another character than
a backslash or a quote. -/
def unescaped? : List Char → Option (List Char)
  | '\\' :: c :: rest =>
    if c == '\\' || c == '"' then (unescaped? rest).map (c :: ·) else none
  | ['\\'] => none
  | c :: rest => (unescaped? rest).map (c :: ·)
  | [] => some []

theorem docstringBody?_cons (hback : c ≠ '\\') (hopen : ¬['"', '"', '"'] <+: c :: rest) :
    docstringBody? (c :: rest) =
      (docstringBody? rest).map fun read => (c :: read.1, read.2) := by
  rw [docstringBody?]
  · rintro rest' rfl rfl
    simp at hopen
  · rintro d rest' rfl
    exact absurd rfl hback

theorem unescaped?_cons (hback : c ≠ '\\') :
    unescaped? (c :: cs) = (unescaped? cs).map (c :: ·) := by
  rw [unescaped?]
  · rintro d rest rfl
    exact absurd rfl hback
  · rintro rfl
    exact absurd rfl hback

/-- If two more quotes would not end the docstring either, its body ends at the closing ones. -/
theorem docstringBody?_append (h : DocstringBody body)
    (hquotes : DocstringBody (body ++ ['"', '"'])) :
    docstringBody? (body ++ '"' :: '"' :: '"' :: rest) = some (body, rest) := by
  induction h with
  | nil => rfl
  | escape hc h ih =>
    rw [List.cons_append, List.cons_append, docstringBody?, ih hquotes.of_escape]
    rfl
  | @char c body hback hopen h ih =>
    obtain ⟨hopen', hquotes'⟩ := DocstringBody.of_char hback hquotes
    rw [List.cons_append, docstringBody?_cons hback, ih hquotes']
    · rfl
    · exact fun hp => hopen' (quotes_prefix_of_quotes hp)

/-- No other characters than backslashes and quotes are escaped in the body of a docstring. -/
theorem unescaped?_of_docstringBody (h : DocstringBody body) :
    unescaped? body = some (unescape body) := by
  induction h with
  | nil => rfl
  | @escape c body hc h ih =>
    have hescaped : (c == '\\' || c == '"') = true := by
      rcases hc with rfl | rfl <;> rfl
    rw [unescaped?, hescaped, if_pos rfl, ih]
    rfl
  | @char c body hback hopen h ih =>
    rw [unescaped?_cons hback, ih, unescape_cons hback]
    rfl

/-- No escape reaches over the end of a docstring's body. -/
theorem unescape_append (h : DocstringBody body) :
    unescape (body ++ rest) = unescape body ++ unescape rest := by
  induction h with
  | nil => rfl
  | escape hc h ih =>
    rw [List.cons_append, List.cons_append, unescape, ih]
    rfl
  | char hback hopen h ih =>
    rw [List.cons_append, unescape_cons hback, ih, unescape_cons hback]
    rfl

end Lexical

namespace Doc

open Lexical

variable {c : Char} {cs : List Char}

/-- Escaping three quotes in a row does not change what guarded text stands for. -/
theorem unescape_escapeTripleQuotes (h : Guarded cs) :
    unescape (escapeTripleQuotes cs) = unescape cs := by
  -- Escaping takes three quotes at a time, so the induction is on the length.
  induction hn : cs.length using Nat.strong_induction_on generalizing cs with
  | _ n ih =>
    subst hn
    cases h with
    | nil => rfl
    | finalQuote => rfl
    | @backslash cs h =>
      have hlen : cs.length < ('\\' :: '\\' :: cs).length := by
        simp only [List.length_cons]
        omega
      rw [escapeTripleQuotes_cons (by simp), escapeTripleQuotes_cons (by simp), unescape, unescape,
        ih cs.length hlen h rfl]
    | @char c cs hback hlast h =>
      by_cases hopen : ['"', '"', '"'] <+: c :: cs
      · obtain ⟨rest, hrest⟩ := hopen
        rw [List.cons_append, List.cons.injEq] at hrest
        obtain ⟨rfl, rfl⟩ := hrest
        have hlen : rest.length < ('"' :: '"' :: '"' :: rest).length := by
          simp only [List.length_cons]
          omega
        have hguarded : Guarded rest := h.of_quote.2.of_quote.2
        have hrest := ih rest.length hlen hguarded rfl
        change '"' :: '"' :: '"' :: unescape (escapeTripleQuotes rest) =
          unescape ('"' :: '"' :: '"' :: rest)
        rw [hrest, unescape_cons (by decide), unescape_cons (by decide),
          unescape_cons (by decide)]
      · rw [escapeTripleQuotes_cons hopen, unescape_cons hback, unescape_cons hback,
          ih cs.length (by simp) h rfl]

/-- Doubled backslashes and an escaped last quote stand for the text itself. -/
theorem unescape_escapeFinalQuote_doubleBackslashes (cs : List Char) :
    unescape (escapeFinalQuote (doubleBackslashes cs)) = cs := by
  induction cs with
  | nil => rfl
  | cons c cs ih =>
    rw [doubleBackslashes_cons]
    by_cases hcs : cs = []
    · subst hcs
      split
      · rename_i hback
        rw [eq_of_beq hback]
        rfl
      · rename_i hback
        by_cases hquote : c = '"'
        · rw [hquote]
          rfl
        · have hsame : escapeFinalQuote [c] = [c] := by simp [escapeFinalQuote, hquote]
          change unescape (escapeFinalQuote [c]) = [c]
          rw [hsame, unescape_cons (by simpa using hback)]
          rfl
    · rw [escapeFinalQuote_append (doubleBackslashes_ne_nil hcs)]
      split
      · rename_i hback
        rw [eq_of_beq hback]
        change '\\' :: unescape (escapeFinalQuote (doubleBackslashes cs)) = _
        rw [ih]
      · rename_i hback
        rw [List.singleton_append, unescape_cons (by simpa using hback), ih]

theorem unescape_escapeChars (cs : List Char) : unescape (escapeChars cs) = cs := by
  rw [escapeChars, unescape_escapeTripleQuotes (guarded_escapeFinalQuote_doubleBackslashes cs),
    unescape_escapeFinalQuote_doubleBackslashes]

/-- A text that was escaped is read back from its docstring. -/
theorem docstringText?_escapeChars (cs rest : List Char) :
    docstringText? (escapeChars cs ++ '\n' :: '"' :: '"' :: '"' :: rest) = some (cs ++ ['\n']) := by
  have hbody : DocstringBody (escapeChars cs) := by
    simpa using docstringBody_escapeChars cs DocstringBody.nil
  rw [docstringText?_of_docstringBody hbody, unescape_escapeChars]

/-- What is written between triple quotes is read to the closing ones and stands for a text. -/
structure ReadsBack (written text : String) : Prop where
  ends : ∀ behind, docstringBody? (written.toList ++ (tripleQuote.toList ++ behind)) =
    some (written.toList, behind)
  standsFor : unescaped? written.toList = some text.toList

theorem readsBack_of_docstringBody {written text : String}
    (hbody : DocstringBody written.toList)
    (hquotes : DocstringBody (written.toList ++ ['"', '"']))
    (htext : unescape written.toList = text.toList) : ReadsBack written text :=
  ⟨fun _ => docstringBody?_append hbody hquotes, htext ▸ unescaped?_of_docstringBody hbody⟩

/-- Escaping is exact: every escaped text is read up to the quotes that are put behind it, at once
or on a line of their own, and stands for the text itself. -/
theorem readsBack_escape (text : String) :
    ReadsBack (escape text) text ∧ ReadsBack (escape text ++ "\n") (text ++ "\n") := by
  have hbody := docstringBody_escape text
  have hline : DocstringBody ((escape text).toList ++ '\n' :: []) :=
    docstringBody_append_lineFeed hbody .nil
  have hlineQuotes : DocstringBody ((escape text).toList ++ '\n' :: ['"', '"']) :=
    docstringBody_append_lineFeed hbody docstringBody_two_quotes
  have htext : unescape (escape text).toList = text.toList := by
    rw [escape, String.toList_ofList, unescape_escapeChars]
  refine ⟨readsBack_of_docstringBody hbody (docstringBody_escape_quotes text) htext,
    readsBack_of_docstringBody ?_ ?_ ?_⟩
  · simpa using hline
  · simpa using hlineQuotes
  · rw [String.toList_append, unescape_append hbody, htext, String.toList_append]
    rfl

end Doc

end ProtocolBindings
