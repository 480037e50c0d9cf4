import Mathlib.Data.List.Basic

/-!
# Source text without its documentation

Generated source is read by the lexical rules of its language as far as they tell documentation
from code.  Outside of literals a number sign starts a comment, three quotes start a docstring and
a single quote starts a literal that has to end on its line; inside both a backslash takes the
next character with it.  `code?` gives the text without its docstrings and without the comments
that have a line to themselves.
-/

namespace ProtocolBindings.Lexical

def isLineEnd (c : Char) : Bool :=
  c == '\n' || c == '\r'

/-- The characters that may stand in front of a comment that has the line to itself. -/
def isIndentation (c : Char) : Bool :=
  c == ' ' || c == '\t' || c == '\x0c'

/-- Where in the source a reader stands. -/
inductive Mode where
  /-- Outside of literals and comments.  While only indentation has been read on the line, it is
  held back; none is held once something else stands on the line. -/
  | outside (held : Option (List Char))
  /-- In a comment that has the line to itself. -/
  | lineComment
  /-- In a comment behind code. -/
  | remark
  /-- In a literal between single quotes of the double kind. -/
  | literal
  | docstring
deriving DecidableEq, Repr

/-- The rest of a text from the given mode on, without docstrings and without the lines that hold
only a comment.  There is none if a literal does not end on its line or a docstring not at
all. -/
@[simp]
def codeFrom : Mode → List Char → Option (List Char)
  | .outside held, [] => some (held.getD [])
  | .outside held, '"' :: '"' :: '"' :: rest =>
    (codeFrom .docstring rest).map (held.getD [] ++ ·)
  | .outside held, c :: rest =>
    if c == '"' then (codeFrom .literal rest).map (held.getD [] ++ c :: ·)
    else if c == '#' then
      if held.isSome then codeFrom .lineComment rest
      else (codeFrom .remark rest).map (c :: ·)
    else if isLineEnd c then
      (codeFrom (.outside (some [])) rest).map (held.getD [] ++ c :: ·)
    else if held.isSome && isIndentation c then
      codeFrom (.outside (held.map (· ++ [c]))) rest
    else (codeFrom (.outside none) rest).map (held.getD [] ++ c :: ·)
  | .lineComment, [] => some []
  | .lineComment, '\r' :: '\n' :: rest => codeFrom (.outside (some [])) rest
  | .lineComment, c :: rest =>
    if isLineEnd c then codeFrom (.outside (some [])) rest else codeFrom .lineComment rest
  | .remark, [] => some []
  | .remark, c :: rest =>
    if isLineEnd c then (codeFrom (.outside (some [])) rest).map (c :: ·)
    else (codeFrom .remark rest).map (c :: ·)
  | .literal, [] => none
  | .literal, '\\' :: c :: rest => (codeFrom .literal rest).map ('\\' :: c :: ·)
  | .literal, c :: rest =>
    if c == '"' then (codeFrom (.outside none) rest).map (c :: ·)
    else if isLineEnd c then none
    else (codeFrom .literal rest).map (c :: ·)
  | .docstring, [] => none
  | .docstring, '\\' :: _ :: rest => codeFrom .docstring rest
  | .docstring, '"' :: '"' :: '"' :: rest => codeFrom (.outside none) rest
  | .docstring, _ :: rest => codeFrom .docstring rest

/-- The start of a line. -/
abbrev Mode.start : Mode := .outside (some [])

/-- A source text without its docstrings and without the lines that hold only a comment; none if
the text cannot be read. -/
def code? (text : String) : Option String :=
  (codeFrom .start text.toList).map String.ofList

example : code? "#: a \"b\ny = \"#\"  # c\n    \"\"\"d\\\"\"\"\"\nz" =
    some "y = \"#\"  # c\n    \nz" := by
  decide

/-- The characters that neither open nor close anything, on one line. -/
def isPlain (c : Char) : Bool :=
  !(c == '"' || c == '#' || c == '\\' || isLineEnd c)

/-- What may stand between the quotes of a literal. -/
inductive LiteralBody : List Char → Prop
  | nil : LiteralBody []
  | escape {c : Char} {body : List Char} (h : LiteralBody body) :
      LiteralBody ('\\' :: c :: body)
  | char {c : Char} {body : List Char} (hquote : c ≠ '"') (hend : isLineEnd c = false)
      (hback : c ≠ '\\') (h : LiteralBody body) : LiteralBody (c :: body)

/-- Text that is code throughout: plain characters, line feeds and literals. -/
inductive Code : List Char → Prop
  | nil : Code []
  | plain {c : Char} {text : List Char} (hc : isPlain c) (h : Code text) : Code (c :: text)
  | lineFeed {text : List Char} (h : Code text) : Code ('\n' :: text)
  | literal {body text : List Char} (hbody : LiteralBody body) (hnext : text.head? ≠ some '"')
      (h : Code text) : Code ('"' :: (body ++ '"' :: text))

/-- What may stand between the triple quotes of a docstring, if the closing ones follow a line
feed.  Only quotes and backslashes are escaped. -/
inductive DocstringBody : List Char → Prop
  | nil : DocstringBody []
  | escape {c : Char} {body : List Char} (hc : c = '\\' ∨ c = '"') (h : DocstringBody body) :
      DocstringBody ('\\' :: c :: body)
  | char {c : Char} {body : List Char} (hback : c ≠ '\\')
      (hopen : ¬ ['"', '"', '"'] <+: c :: body) (h : DocstringBody body) :
      DocstringBody (c :: body)

variable {held : Option (List Char)} {body text rest : List Char} {c : Char}

theorem codeFrom_literal (h : LiteralBody body) :
    codeFrom .literal (body ++ '"' :: rest) =
      (codeFrom (.outside none) rest).map (body ++ '"' :: ·) := by
  induction h with
  | nil => simp
  | escape h ih => simp [ih, Function.comp_def]
  | char hquote hend hback h ih =>
    rw [List.cons_append, codeFrom]
    · simp [hquote, hend, ih, Function.comp_def]
    · rintro c' rest' rfl
      simp at hback

theorem codeFrom_lineFeed :
    codeFrom (.outside held) ('\n' :: rest) =
      (codeFrom .start rest).map (held.getD [] ++ '\n' :: ·) := by
  rw [codeFrom]
  · simp [isLineEnd]
  · simp

theorem codeFrom_quote (h : rest.take 2 ≠ ['"', '"']) :
    codeFrom (.outside held) ('"' :: rest) =
      (codeFrom .literal rest).map (held.getD [] ++ '"' :: ·) := by
  rw [codeFrom]
  · simp
  · rintro rest' - rfl
    simp at h

theorem LiteralBody.head?_ne (h : LiteralBody body) : body.head? ≠ some '"' := by
  cases h with
  | nil => simp
  | escape h => simp
  | char hquote hend hback h => simpa using hquote

/-- Code that ends with its line reads as itself, behind the indentation that was held back. -/
theorem codeFrom_code (held : Option (List Char)) (rest : List Char) (h : Code text) :
    codeFrom (.outside held) (text ++ '\n' :: rest) =
      (codeFrom .start rest).map (held.getD [] ++ text ++ '\n' :: ·) := by
  induction h generalizing held with
  | nil => simpa using codeFrom_lineFeed
  | @plain c text hc h ih =>
    simp only [isPlain, Bool.not_eq_true', Bool.or_eq_false_iff, beq_eq_false_iff_ne] at hc
    obtain ⟨⟨⟨hquote, hsign⟩, -⟩, hend⟩ := hc
    rw [List.cons_append, codeFrom]
    · simp only [beq_iff_eq, hquote, hsign, hend, if_false, Bool.false_eq_true]
      split
      · rename_i hheld
        obtain ⟨blanks, rfl⟩ := Option.isSome_iff_exists.1 (Bool.and_eq_true_iff.1 hheld).1
        rw [Option.map_some, ih]
        simp
      · rw [ih]
        simp [Function.comp_def]
    · rintro rest' rfl
      simp at hquote
  | lineFeed h ih =>
    rw [List.cons_append, codeFrom_lineFeed, ih]
    simp [Function.comp_def]
  | @literal body text hbody hnext h ih =>
    have hshort : (body ++ '"' :: (text ++ '\n' :: rest)).take 2 ≠ ['"', '"'] := by
      have hhead := hbody.head?_ne
      cases body with
      | nil =>
        cases text with
        | nil => simp
        | cons c text => simpa using hnext
      | cons c body =>
        intro heq
        simp_all
    rw [List.cons_append, List.append_assoc, List.cons_append, codeFrom_quote hshort,
      codeFrom_literal hbody, ih]
    simp [Function.comp_def]

/-- A line with nothing but a comment leaves nothing. -/
theorem codeFrom_lineComment (rest : List Char) (h : ∀ c ∈ text, isLineEnd c = false) :
    codeFrom .start ('#' :: (text ++ '\n' :: rest)) = codeFrom .start rest := by
  have hinside : codeFrom .lineComment (text ++ '\n' :: rest) = codeFrom .start rest := by
    induction text with
    | nil =>
      rw [List.nil_append, codeFrom]
      · simp [isLineEnd]
      · simp
    | cons c text ih =>
      simp only [List.mem_cons, forall_eq_or_imp] at h
      rw [List.cons_append, codeFrom]
      · simp [h.1, ih h.2]
      · rintro rest' rfl
        simp [isLineEnd] at h
  rw [codeFrom]
  · simp [hinside]
  · simp

theorem quotes_prefix_of_lineFeed {text rest : List Char}
    (h : ['"', '"', '"'] <+: text ++ '\n' :: rest) : ['"', '"', '"'] <+: text := by
  match text with
  | [] => simp at h
  | [a] => simp at h
  | [a, b] => simp at h
  | a :: b :: c :: text => simpa using h

theorem codeFrom_docstring_char (hback : c ≠ '\\') (hopen : ¬ ['"', '"', '"'] <+: c :: rest) :
    codeFrom .docstring (c :: rest) = codeFrom .docstring rest := by
  rw [codeFrom]
  · rintro c' rest' rfl
    simp at hback
  · rintro rest' rfl rfl
    simp at hopen

theorem DocstringBody.of_escape (h : DocstringBody ('\\' :: c :: body)) : DocstringBody body := by
  cases h with
  | escape _ h => exact h
  | char hback => exact absurd rfl hback

theorem DocstringBody.of_char (hback : c ≠ '\\') (h : DocstringBody (c :: body)) :
    ¬ ['"', '"', '"'] <+: c :: body ∧ DocstringBody body := by
  cases h with
  | escape => exact absurd rfl hback
  | char _ hopen h => exact ⟨hopen, h⟩

theorem quotes_prefix_of_quotes {text rest : List Char}
    (h : ['"', '"', '"'] <+: c :: (text ++ '"' :: '"' :: '"' :: rest)) :
    ['"', '"', '"'] <+: c :: (text ++ ['"', '"']) := by
  match text with
  | [] => simpa using h
  | [a] => simpa using h
  | a :: b :: text => simpa using h

/-- If two more quotes would not end the docstring either, the closing ones may follow the body
at once. -/
theorem codeFrom_docstringBody_quotes (h : DocstringBody body)
    (hquotes : DocstringBody (body ++ ['"', '"'])) :
    codeFrom .docstring (body ++ '"' :: '"' :: '"' :: rest) = codeFrom (.outside none) rest := by
  induction h with
  | nil => simp
  | escape hc h ih =>
    rw [List.cons_append, List.cons_append, codeFrom]
    exact ih (DocstringBody.of_escape hquotes)
  | char hback hopen h ih =>
    obtain ⟨hopen', hquotes'⟩ := DocstringBody.of_char hback hquotes
    rw [List.cons_append, codeFrom_docstring_char hback, ih hquotes']
    exact fun hp => hopen' (quotes_prefix_of_quotes hp)

/-- Indentation is held back. -/
theorem codeFrom_indentation {done blanks : List Char}
    (h : ∀ c ∈ blanks, isIndentation c) :
    codeFrom (.outside (some done)) (blanks ++ rest) =
      codeFrom (.outside (some (done ++ blanks))) rest := by
  induction blanks generalizing done with
  | nil => simp
  | cons c blanks ih =>
    rw [List.forall_mem_cons] at h
    obtain ⟨hc, h⟩ := h
    have hother : c ≠ '"' ∧ c ≠ '#' ∧ isLineEnd c = false := by
      simp only [isIndentation, Bool.or_eq_true, beq_iff_eq] at hc
      rcases hc with (rfl | rfl) | rfl <;> decide
    rw [List.cons_append, codeFrom]
    · simp [hother, hc, ih h]
    · rintro rest' rfl
      simp at hother

/-! ## Texts in place -/

/-- The lines of a text read as the given code, whatever stands on the lines below. -/
def ReadsAs (text code : String) : Prop :=
  ∀ rest, codeFrom .start (text.toList ++ rest) = (codeFrom .start rest).map (code.toList ++ ·)

/-- Two texts read as the same lines of code. -/
def Alike (a b : String) : Prop :=
  ∃ code, ReadsAs (a ++ "\n") (code ++ "\n") ∧ ReadsAs (b ++ "\n") (code ++ "\n")

theorem ReadsAs.append {a b x y : String} (ha : ReadsAs a x) (hb : ReadsAs b y) :
    ReadsAs (a ++ b) (x ++ y) := by
  intro rest
  rw [String.toList_append, List.append_assoc, ha, hb]
  simp [Function.comp_def]

theorem readsAs_empty : ReadsAs "" "" := by
  intro rest
  simp

theorem readsAs_code (text : String) (h : Code text.toList) :
    ReadsAs (text ++ "\n") (text ++ "\n") := by
  intro rest
  simpa using codeFrom_code (some []) rest h

theorem readsAs_comment {text : String} (h : ∀ c ∈ text.toList, isLineEnd c = false) :
    ReadsAs ("#" ++ text ++ "\n") "" := by
  intro rest
  simpa using codeFrom_lineComment rest h

/-- A docstring that has its lines to itself leaves the indentation in front of it. -/
theorem readsAs_docstring (margin body : String)
    (hmargin : ∀ c ∈ margin.toList, isIndentation c) (h : DocstringBody body.toList)
    (hquotes : DocstringBody (body.toList ++ ['"', '"'])) :
    ReadsAs (margin ++ "\"\"\"" ++ body ++ "\"\"\"" ++ "\n") (margin ++ "\n") := by
  intro rest
  have hopen : codeFrom .start (margin.toList ++ '"' :: '"' :: '"' ::
      (body.toList ++ '"' :: '"' :: '"' :: '\n' :: rest)) =
      (codeFrom .start rest).map (margin.toList ++ '\n' :: ·) := by
    rw [codeFrom_indentation hmargin, codeFrom, codeFrom_docstringBody_quotes h hquotes,
      codeFrom_lineFeed]
    simp [Function.comp_def]
  simpa using hopen

theorem alike_of_code (text : String) (h : Code text.toList) : Alike text text :=
  ⟨text, readsAs_code text h, readsAs_code text h⟩

theorem readsAs_lineFeed : ReadsAs "\n" "\n" := by
  simpa using readsAs_code "" Code.nil

/-- Texts that are alike one by one are alike when they are joined by line feeds. -/
theorem alike_intercalate {as bs : List String} {separator extra : String}
    (hseparator : "\n" ++ extra = separator) (hextra : ReadsAs extra extra)
    (h : List.Forall₂ Alike as bs) :
    Alike (separator.intercalate as) (separator.intercalate bs) := by
  subst hseparator
  induction h with
  | nil => exact alike_of_code "" Code.nil
  | @cons a b as bs hab hrest ih =>
    cases hrest with
    | nil => simpa using hab
    | cons hab' hrest =>
      obtain ⟨x, hax, hbx⟩ := hab
      obtain ⟨y, hay, hby⟩ := ih
      refine ⟨x ++ "\n" ++ (extra ++ y), ?_, ?_⟩
      · rw [String.intercalate_cons_cons]
        simpa only [String.append_assoc] using hax.append (hextra.append hay)
      · rw [String.intercalate_cons_cons]
        simpa only [String.append_assoc] using hbx.append (hextra.append hby)

/-- A text that reads as code is read to its end. -/
theorem code?_of_readsAs {text code : String} (h : ReadsAs text code) :
    code? text = some code := by
  have hall := h []
  rw [List.append_nil] at hall
  rw [code?, hall]
  simp

end ProtocolBindings.Lexical
