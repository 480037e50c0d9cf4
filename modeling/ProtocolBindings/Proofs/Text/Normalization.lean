import Mathlib.Data.List.Basic
import ProtocolBindings.Proofs.Text.Normalization.Table

/-!
# The normalization form NFKC

Texts that differ only in how their characters are composed, or in the form of a character, have
one normal form.  A text is taken apart, its combining marks are put in order, and what composes is
put together again.  Names in source code are the same name if their normal forms are.

A low line is not taken apart, belongs to no character in front of it and composes with none.  So a
text is normalized piece by piece around its low lines, and a text in basic characters is its own
normal form.
-/

namespace ProtocolBindings.Text

/-! ## Decomposition -/

/-- The entry for a code point in a table of blocks. -/
def entryOf {α : Type} : List (Nat × List α) → Nat → Option α
  | [], _ => none
  | (first, entries) :: rest, n =>
    if n < first then none
    else
      match entries[n - first]? with
      | some entry => some entry
      | none => entryOf rest n

/-- The syllables of Hangul are in the order of their leading consonant, vowel and trailing
consonant. -/
def decomposeSyllable (n : Nat) : List Nat :=
  let leading := 0x1100 + n / 588
  let vowel := 0x1161 + n % 588 / 28
  if n % 28 = 0 then [leading, vowel] else [leading, vowel, 0x11A7 + n % 28]

/-- The characters into which a character is taken apart, as far as possible. -/
def decompose (c : Char) : List Char :=
  let n := c.toNat
  if n < 0xA0 then [c]
  else if 0xAC00 ≤ n ∧ n < 0xD7A4 then (decomposeSyllable (n - 0xAC00)).map Char.ofNat
  else
    match entryOf decompositionTable n with
    | some form => form.map Char.ofNat
    | none => [c]

/-! ## Order of marks -/

/-- The class of a combining mark; other characters are of class zero. -/
def combiningClass (c : Char) : Nat :=
  if c.toNat < 0x300 then 0
  else ((combiningClassTable.find? fun entry => entry.2.contains c.toNat).map (·.1)).getD 0

/-- Puts a character in front of a text, behind the marks of lower classes there. -/
def insertMark (c : Char) : List Char → List Char
  | [] => [c]
  | d :: rest =>
    if combiningClass d ≠ 0 ∧ combiningClass d < combiningClass c then d :: insertMark c rest
    else c :: d :: rest

/-- Puts the marks behind each character in the order of their classes. -/
def orderMarks (cs : List Char) : List Char :=
  cs.foldr insertMark []

/-! ## Composition -/

/-- The syllable of a leading consonant and a vowel, or of such a syllable and a trailing
consonant. -/
def composeSyllable? (a b : Nat) : Option Nat :=
  if 0x1100 ≤ a ∧ a < 0x1113 ∧ 0x1161 ≤ b ∧ b < 0x1176 then
    some (0xAC00 + ((a - 0x1100) * 21 + (b - 0x1161)) * 28)
  else if 0xAC00 ≤ a ∧ a < 0xD7A4 ∧ (a - 0xAC00) % 28 = 0 ∧ 0x11A7 < b ∧ b < 0x11C3 then
    some (a + (b - 0x11A7))
  else none

/-- What two characters compose to. -/
def compose? (a b : Char) : Option Char :=
  match composeSyllable? a.toNat b.toNat with
  | some n => some (Char.ofNat n)
  | none =>
    (compositionTable.lookup b.toNat).bind fun composites =>
      (composites.lookup a.toNat).map Char.ofNat

/-- Whether marks let a character behind them compose with what stands in front of them. -/
def lets (marks : List Char) (c : Char) : Bool :=
  match marks.getLast? with
  | none => true
  | some mark => combiningClass mark < combiningClass c

/-- Composes a text behind a character, if there is one, and the marks that have not composed with
it. -/
def composeFrom (front? : Option Char) (marks : List Char) : List Char → List Char
  | [] => front?.toList ++ marks
  | c :: rest =>
    match front?.bind fun front => if lets marks c then compose? front c else none with
    | some composite => composeFrom (some composite) marks rest
    | none =>
      if combiningClass c = 0 then front?.toList ++ marks ++ composeFrom (some c) [] rest
      else composeFrom front? (marks ++ [c]) rest

/-! ## The normal form -/

def nfkcChars (cs : List Char) : List Char :=
  composeFrom none [] (orderMarks (cs.flatMap decompose))

/-- The normal form of a text. -/
def nfkc (text : String) : String :=
  String.ofList (nfkcChars text.toList)

set_option maxRecDepth 2000 in
example : nfkcChars ['a', 'ﬁ', 'e', '\u0301'] = ['a', 'f', 'i', '\u00e9'] := by
  decide

variable {c d : Char} {front back cs marks : List Char}

/-! ## Characters that stay as they are -/

theorem decompose_of_lt (h : c.toNat < 0xA0) : decompose c = [c] :=
  if_pos h

theorem combiningClass_of_lt (h : c.toNat < 0x300) : combiningClass c = 0 :=
  if_pos h

/-- The characters that compose with one in front of them come behind the basic ones. -/
theorem compose?_of_lt (a : Char) (h : c.toNat < 0x300) : compose? a c = none := by
  have hmarks : ∀ entry ∈ compositionTable, 0x300 ≤ entry.1 := by decide
  have hsyllable : composeSyllable? a.toNat c.toNat = none := by
    rw [composeSyllable?, if_neg (by omega), if_neg (by omega)]
  have hlookup : compositionTable.lookup c.toNat = none := by
    rw [List.lookup_eq_none_iff]
    intro entry hentry
    have := hmarks entry hentry
    exact bne_iff_ne.2 (by omega)
  rw [compose?, hsyllable, hlookup]
  rfl

/-- A low line composes with nothing behind it. -/
theorem compose?_lowLine (c : Char) : compose? '_' c = none := by
  have hfronts : ∀ entry ∈ compositionTable, entry.2.lookup '_'.toNat = none := by decide
  have hsyllable : composeSyllable? '_'.toNat c.toNat = none := by
    rw [composeSyllable?, if_neg (by simp), if_neg (by simp)]
  rw [compose?, hsyllable]
  cases hlookup : compositionTable.lookup c.toNat with
  | none => rfl
  | some composites =>
    obtain ⟨before, behind, htable, -⟩ := List.lookup_eq_some_iff.1 hlookup
    have hmem : (c.toNat, composites) ∈ compositionTable := by
      rw [htable]
      simp
    rw [Option.bind_some, hfronts _ hmem]
    rfl

/-! ## Order of marks -/

theorem insertMark_of_starter (h : combiningClass c = 0) (cs : List Char) :
    insertMark c cs = c :: cs := by
  cases cs with
  | nil => rfl
  | cons d rest => rw [insertMark, h, if_neg (by simp)]

/-- No mark is put behind a character of class zero. -/
theorem insertMark_append_cons (h : combiningClass c = 0) (d : Char) (front back : List Char) :
    insertMark d (front ++ c :: back) = insertMark d front ++ c :: back := by
  induction front with
  | nil =>
    have hstays : ¬(combiningClass c ≠ 0 ∧ combiningClass c < combiningClass d) :=
      fun hmoves => hmoves.1 h
    exact if_neg hstays
  | cons first rest ih =>
    rw [List.cons_append, insertMark, insertMark]
    split
    · rw [ih, List.cons_append]
    · rfl

theorem orderMarks_append_cons (h : combiningClass c = 0) (front back : List Char) :
    orderMarks (front ++ c :: back) = orderMarks front ++ c :: orderMarks back := by
  induction front with
  | nil => exact insertMark_of_starter h _
  | cons first rest ih =>
    have hfirst : ∀ cs, orderMarks (first :: cs) = insertMark first (orderMarks cs) := fun _ => rfl
    rw [List.cons_append, hfirst, hfirst, ih, insertMark_append_cons h]

/-! ## Composition -/

/-- A character of class zero that composes with nothing in front of it begins anew. -/
theorem composeFrom_cons (hclass : combiningClass c = 0) (hfront : ∀ a, compose? a c = none)
    (front? : Option Char) (marks cs : List Char) :
    composeFrom front? marks (c :: cs) = front?.toList ++ marks ++ composeFrom (some c) [] cs := by
  rw [composeFrom]
  split
  · rename_i composite hcomposes
    simp [hfront] at hcomposes
  · exact if_pos hclass

theorem composeFrom_append_cons (hclass : combiningClass c = 0) (hfront : ∀ a, compose? a c = none)
    (front? : Option Char) (marks cs back : List Char) :
    composeFrom front? marks (cs ++ c :: back) =
      composeFrom front? marks cs ++ composeFrom (some c) [] back := by
  induction cs generalizing front? marks with
  | nil => exact composeFrom_cons hclass hfront front? marks back
  | cons first rest ih =>
    rw [List.cons_append, composeFrom, composeFrom]
    split
    · exact ih _ _
    · split
      · rw [ih, ← List.append_assoc]
      · exact ih _ _

/-- A character that composes with nothing behind it stays in front. -/
theorem composeFrom_some (h : ∀ b, compose? c b = none) (marks cs : List Char) :
    composeFrom (some c) marks cs = c :: composeFrom none marks cs := by
  induction cs generalizing marks with
  | nil => rfl
  | cons first rest ih =>
    rw [composeFrom, composeFrom, Option.bind_some, h, ite_self]
    dsimp only [Option.bind_none]
    split
    · rfl
    · exact ih _

/-! ## Normal forms -/

/-- A text is normalized in front of a low line and behind it. -/
theorem nfkcChars_append_lowLine (front back : List Char) :
    nfkcChars (front ++ '_' :: back) = nfkcChars front ++ '_' :: nfkcChars back := by
  have hclass : combiningClass '_' = 0 := combiningClass_of_lt (by decide)
  rw [nfkcChars, List.flatMap_append, List.flatMap_cons, decompose_of_lt (by decide),
    List.singleton_append, orderMarks_append_cons hclass,
    composeFrom_append_cons hclass (fun a => compose?_of_lt a (by decide)),
    composeFrom_some compose?_lowLine]
  rfl

theorem nfkc_append_lowLine (front back : String) :
    nfkc (front ++ "_" ++ back) = nfkc front ++ "_" ++ nfkc back := by
  rw [← String.toList_inj]
  simpa [nfkc] using nfkcChars_append_lowLine front.toList back.toList

/-- No low line is lost. -/
theorem lowLine_mem_nfkc {text : String} (h : '_' ∈ text.toList) : '_' ∈ (nfkc text).toList := by
  obtain ⟨front, back, htext⟩ := List.append_of_mem h
  rw [nfkc, String.toList_ofList, htext, nfkcChars_append_lowLine]
  simp

/-- Basic characters are only put together. -/
theorem composeFrom_of_forall_lt (h : ∀ c ∈ cs, c.toNat < 0x300) (front? : Option Char)
    (marks : List Char) : composeFrom front? marks cs = front?.toList ++ marks ++ cs := by
  induction cs generalizing front? marks with
  | nil => rw [composeFrom, List.append_nil]
  | cons first rest ih =>
    obtain ⟨hfirst, hrest⟩ := List.forall_mem_cons.1 h
    rw [composeFrom_cons (combiningClass_of_lt hfirst) (fun a => compose?_of_lt a hfirst),
      ih hrest]
    rfl

/-- A text in basic characters is its own normal form. -/
theorem nfkcChars_of_forall_lt (h : ∀ c ∈ cs, c.toNat < 0xA0) : nfkcChars cs = cs := by
  have hsmall : ∀ c ∈ cs, c.toNat < 0x300 := fun c hc => Nat.lt_trans (h c hc) (by decide)
  have hdecompose : cs.flatMap decompose = cs := by
    rw [List.flatMap_congr fun c hc => decompose_of_lt (h c hc)]
    exact List.flatMap_singleton' cs
  have horder : orderMarks cs = cs := by
    clear hdecompose h
    induction cs with
    | nil => rfl
    | cons first rest ih =>
      obtain ⟨hfirst, hrest⟩ := List.forall_mem_cons.1 hsmall
      have hinsert := insertMark_of_starter (combiningClass_of_lt hfirst) (orderMarks rest)
      exact hinsert.trans (congrArg (first :: ·) (ih hrest))
  rw [nfkcChars, hdecompose, horder, composeFrom_of_forall_lt hsmall]
  rfl

theorem nfkc_of_all_lt {text : String} (h : text.toList.all fun c => c.toNat < 0xA0) :
    nfkc text = text := by
  have hbasic : ∀ c ∈ text.toList, c.toNat < 0xA0 := by simpa using h
  rw [nfkc, nfkcChars_of_forall_lt hbasic, String.ofList_toList]

end ProtocolBindings.Text
