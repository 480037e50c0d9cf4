import Mathlib.Data.List.Basic
import ProtocolBindings.Json.Read
import ProtocolBindings.Json.Write

/-!
# Reading quoted texts

A quoted text is read back character by character: short escapes, escapes of one UTF-16 unit and
pairs of them stand for the characters they were written for.  No half pair is ever written.
-/

namespace ProtocolBindings.Json

variable {start unit : Nat} {done cs rest : List Char} {c value : Char}

/-- An escape that is read takes up its characters and gives one. -/
theorem readString_escape {letters : List Char}
    (h : readEscape start (letters ++ rest) = .ok (value, letters.length)) :
    readString start 0 done ('\\' :: (letters ++ rest)) =
      readString start 0 (value :: done) rest := by
  have hskip : ∀ letters : List Char,
      readString start letters.length (value :: done) (letters ++ rest) =
        readString start 0 (value :: done) rest := by
    intro letters
    induction letters with
    | nil => rfl
    | cons d letters ih => simpa [readString] using ih
  rw [readString]
  simp [h, hskip]

theorem readEscape_letter {letter : Char} (h : escaped? letter = some value) (hu : letter ≠ 'u') :
    readEscape start (letter :: rest) = .ok (value, 1) := by
  rw [readEscape]
  · rw [h]
  · rintro a b c d next rest' rfl
    exact absurd rfl hu
  · exact hu

theorem hexValue?_digitChar {n : Nat} (h : n < 16) : Text.hexValue? (Nat.digitChar n) = some n := by
  have hall : ∀ d < 16, Text.hexValue? (Nat.digitChar d) = some d := by decide
  exact hall n h

/-- The digits of a unit are read back. -/
theorem unit?_unitDigits (h : unit < 0x10000) :
    unit? (Nat.digitChar (unit / 4096 % 16)) (Nat.digitChar (unit / 256 % 16))
      (Nat.digitChar (unit / 16 % 16)) (Nat.digitChar (unit % 16)) = some unit := by
  have hdigit : ∀ n, Text.hexValue? (Nat.digitChar (n % 16)) = some (n % 16) :=
    fun n => hexValue?_digitChar (Nat.mod_lt n (by decide))
  simp only [unit?, hdigit, Option.pure_def, Option.bind_eq_bind, Option.bind_some,
    Option.some.injEq]
  omega

/-- The escape of one unit that is not the first of a pair. -/
theorem readEscape_unit {next : Char} (h : unit < 0x10000) (halone : isLeadingUnit unit = false) :
    readEscape start ('u' :: unitDigits unit ++ next :: rest) = .ok (charOfUnit unit, 5) := by
  simp only [unitDigits, List.cons_append, List.nil_append]
  rw [readEscape, unit?_unitDigits h]
  simp only [halone, Bool.false_and, Bool.false_eq_true, if_false]
  split
  · split <;> rfl
  · rfl

/-- The escapes of the two units of a pair. -/
theorem readEscape_pair {second : Nat} {next : Char} (h : unit < 0x10000)
    (hsecond : second < 0x10000) (hleading : isLeadingUnit unit)
    (htrailing : isTrailingUnit second) :
    readEscape start ('u' :: unitDigits unit ++ (unitEscape second ++ next :: rest)) =
      .ok (charOfPair unit second, 11) := by
  simp only [unitDigits, unitEscape, List.cons_append, List.nil_append]
  rw [readEscape, unit?_unitDigits h]
  simp [unit?_unitDigits hsecond, hleading, htrailing]

/-- No character is half a pair, and none lies beyond the last one. -/
theorem toNat_bounds (c : Char) :
    (c.toNat < 0xD800 ∨ 0xDFFF < c.toNat) ∧ c.toNat < 0x110000 := by
  have hvalid : c.toNat < 0xD800 ∨ 0xDFFF < c.toNat ∧ c.toNat < 0x110000 := c.valid
  omega

theorem isAlone_toNat (c : Char) :
    isLeadingUnit c.toNat = false ∧ isTrailingUnit c.toNat = false := by
  obtain ⟨hgap, -⟩ := toNat_bounds c
  simp only [isLeadingUnit, isTrailingUnit, Bool.and_eq_false_iff, decide_eq_false_iff_not]
  omega

/-- The units of a character beyond those of one unit are a pair. -/
theorem isPair_of_le (h : 0x10000 ≤ c.toNat) :
    isLeadingUnit (0xD800 + (c.toNat - 0x10000) / 0x400) ∧
      isTrailingUnit (0xDC00 + (c.toNat - 0x10000) % 0x400) := by
  obtain ⟨-, hlast⟩ := toNat_bounds c
  simp only [isLeadingUnit, isTrailingUnit, Bool.and_eq_true, decide_eq_true_eq]
  omega

/-! ## Escapes -/

/-- The characters that have a short escape, each with the letter behind its backslash. -/
def shortEscapes : List (Char × Char) :=
  [('"', '"'), ('\\', '\\'), ('\n', 'n'), ('\r', 'r'), ('\t', 't'), ('\x08', 'b'), ('\x0c', 'f')]

/-- How a character stands between quotes: as a short escape, as it is, or as the escapes of its
UTF-16 units. -/
inductive IsEscapeOf (c : Char) : List Char → Prop
  | short {letter : Char} (h : (c, letter) ∈ shortEscapes) : IsEscapeOf c ['\\', letter]
  | plain (hquote : c ≠ '"') (hback : c ≠ '\\') (hlow : ' ' ≤ c) (hhigh : c ≤ '~') :
      IsEscapeOf c [c]
  | unit (h : c.toNat < 0x10000) : IsEscapeOf c (unitEscape c.toNat)
  | pair (h : 0x10000 ≤ c.toNat) :
      IsEscapeOf c (unitEscape (0xD800 + (c.toNat - 0x10000) / 0x400) ++
        unitEscape (0xDC00 + (c.toNat - 0x10000) % 0x400))

theorem isEscapeOf_escapeChar (c : Char) : IsEscapeOf c (escapeChar c) := by
  have hshort : ∀ {value letter : Char}, (c == value) = true → (value, letter) ∈ shortEscapes →
      IsEscapeOf c ['\\', letter] := by
    intro value letter hc hmem
    rw [← eq_of_beq hc] at hmem
    exact .short hmem
  rw [escapeChar]
  iterate 7
    split
    · rename_i hc
      exact hshort hc (by decide)
  rename_i hquote hback _ _ _ _ _
  split
  · rename_i hplain
    rw [Bool.and_eq_true, decide_eq_true_eq, decide_eq_true_eq] at hplain
    exact .plain (by simpa using hquote) (by simpa using hback) hplain.1 hplain.2
  split
  · rename_i hunit
    exact .unit hunit
  · rename_i hpair
    exact .pair (Nat.le_of_not_lt hpair)

theorem readString_short {letter : Char} (h : (c, letter) ∈ shortEscapes) :
    readString start 0 done (['\\', letter] ++ rest) = readString start 0 (c :: done) rest := by
  have hall : ∀ short ∈ shortEscapes, escaped? short.2 = some short.1 ∧ short.2 ≠ 'u' := by
    decide
  obtain ⟨hvalue, hu⟩ := hall _ h
  exact @readString_escape start done rest c [letter] (readEscape_letter hvalue hu)

/-- The escape of a character is read back, if anything stands behind it. -/
theorem IsEscapeOf.readString_append {escape : List Char} (h : IsEscapeOf c escape) (next : Char) :
    readString start 0 done (escape ++ next :: rest) =
      readString start 0 (c :: done) (next :: rest) := by
  obtain ⟨hgap, hlast⟩ := toNat_bounds c
  cases h with
  | short hletter => exact readString_short hletter
  | plain hquote hback hlow _ =>
    rw [List.singleton_append, readString, if_neg (by simpa using hquote),
      if_neg (by simpa using hback), if_neg (Char.not_lt.2 hlow)]
  | unit hunit =>
    have halone := isAlone_toNat c
    have hchar : charOfUnit c.toNat = c := by
      rw [charOfUnit, halone.1, halone.2]
      exact Char.ofNat_toNat c
    have hread := @readEscape_unit start c.toNat rest next hunit halone.1
    rw [hchar] at hread
    exact readString_escape hread
  | pair hpair =>
    obtain ⟨hleading, htrailing⟩ := isPair_of_le hpair
    have hchar : charOfPair (0xD800 + (c.toNat - 0x10000) / 0x400)
        (0xDC00 + (c.toNat - 0x10000) % 0x400) = c := by
      have hsum : 0x10000 + (0xD800 + (c.toNat - 0x10000) / 0x400 - 0xD800) * 0x400 +
          (0xDC00 + (c.toNat - 0x10000) % 0x400 - 0xDC00) = c.toNat := by
        omega
      rw [charOfPair, hsum]
      exact Char.ofNat_toNat c
    have hread := @readEscape_pair start _ rest _ next (by omega) (by omega) hleading htrailing
    rw [hchar, ← List.append_assoc] at hread
    exact readString_escape hread

/-- The characters between quotes are read back up to the closing quote. -/
theorem readString_flatMap_escapeChar :
    readString start 0 done (cs.flatMap escapeChar ++ '"' :: rest) =
      .ok (String.ofList (done.reverse ++ cs), rest) := by
  induction cs generalizing done with
  | nil => simp [readString]
  | cons c cs ih =>
    obtain ⟨next, others, hnext⟩ : ∃ next others,
        cs.flatMap escapeChar ++ '"' :: rest = next :: others := by
      cases cs.flatMap escapeChar with
      | nil => exact ⟨_, _, rfl⟩
      | cons d ds => exact ⟨_, _, rfl⟩
    rw [List.flatMap_cons, List.append_assoc, hnext,
      (isEscapeOf_escapeChar c).readString_append, ← hnext, ih]
    simp

/-! ## Half pairs -/

/-- A text that names no half pair, whatever stands behind it. -/
def IsUnbroken (text : List Char) : Prop :=
  ∀ more, holdsHalfPair 0 (text ++ more) = holdsHalfPair 0 more

theorem isUnbroken_nil : IsUnbroken [] :=
  fun _ => rfl

theorem IsUnbroken.append {text more : List Char} (htext : IsUnbroken text)
    (hmore : IsUnbroken more) : IsUnbroken (text ++ more) := by
  intro behind
  rw [List.append_assoc, htext, hmore]

theorem isUnbroken_singleton (hc : c ≠ '\\') : IsUnbroken [c] := by
  intro more
  simp [holdsHalfPair, hc]

theorem IsUnbroken.cons {text : List Char} (hc : c ≠ '\\') (h : IsUnbroken text) :
    IsUnbroken (c :: text) :=
  (isUnbroken_singleton hc).append h

theorem isUnbroken_of_notMem {text : List Char} (h : '\\' ∉ text) : IsUnbroken text := by
  induction text with
  | nil => exact isUnbroken_nil
  | cons c text ih =>
    rw [List.mem_cons, not_or] at h
    exact .cons (Ne.symm h.1) (ih h.2)

theorem IsUnbroken.flatMap {α : Type} {f : α → List Char} {items : List α}
    (h : ∀ item ∈ items, IsUnbroken (f item)) : IsUnbroken (items.flatMap f) := by
  induction items with
  | nil => exact isUnbroken_nil
  | cons item rest ih =>
    obtain ⟨hitem, hrest⟩ := List.forall_mem_cons.1 h
    rw [List.flatMap_cons]
    exact hitem.append (ih hrest)

theorem IsUnbroken.intercalate {separator : List Char} {texts : List (List Char)}
    (hseparator : IsUnbroken separator) (h : ∀ text ∈ texts, IsUnbroken text) :
    IsUnbroken (separator.intercalate texts) := by
  induction texts with
  | nil => simpa using isUnbroken_nil
  | cons text rest ih =>
    obtain ⟨htext, hrest⟩ := List.forall_mem_cons.1 h
    cases rest with
    | nil => simpa using htext
    | cons second others =>
      rw [List.intercalate_cons_cons]
      exact (htext.append hseparator).append (ih hrest)

theorem IsUnbroken.holdsHalfPair_eq {text : List Char} (h : IsUnbroken text) :
    holdsHalfPair 0 text = false := by
  have hend := h []
  rwa [List.append_nil] at hend

/-- The characters of an escape are passed over. -/
theorem holdsHalfPair_append (letters rest : List Char) :
    holdsHalfPair letters.length (letters ++ rest) = holdsHalfPair 0 rest := by
  induction letters with
  | nil => rfl
  | cons d letters ih => simpa [holdsHalfPair] using ih

theorem namedUnit?_unitDigits (h : unit < 0x10000) :
    namedUnit? ('u' :: (unitDigits unit ++ rest)) = some unit :=
  unit?_unitDigits h

theorem isUnbroken_letter {letter : Char} (hu : letter ≠ 'u') : IsUnbroken ['\\', letter] := by
  intro more
  have hnamed : namedUnit? (letter :: more) = none := by
    rw [namedUnit?.eq_def]
    split
    · rename_i heq
      exact absurd (List.cons.inj heq).1 hu
    · rfl
  simp [holdsHalfPair, hnamed]

/-- A digit is no backslash, so none of the digits of a unit begins an escape. -/
theorem isUnbroken_unitDigits (unit : Nat) : IsUnbroken ('u' :: unitDigits unit) := by
  have hdigit : ∀ k : Nat, '\\' ≠ Nat.digitChar (k % 16) := by
    intro k
    have hall : ∀ d < 16, '\\' ≠ Nat.digitChar d := by decide
    exact hall (k % 16) (Nat.mod_lt k (by decide))
  exact isUnbroken_of_notMem (by simp [unitDigits, hdigit])

theorem isUnbroken_unitEscape (h : unit < 0x10000) (hleading : isLeadingUnit unit = false)
    (htrailing : isTrailingUnit unit = false) : IsUnbroken (unitEscape unit) := by
  intro more
  have hbehind : holdsHalfPair 1 ('u' :: (unitDigits unit ++ more)) = holdsHalfPair 0 more := by
    have hdigits := isUnbroken_unitDigits unit more
    rwa [List.cons_append, (show holdsHalfPair 0 ('u' :: (unitDigits unit ++ more)) =
      holdsHalfPair 1 ('u' :: (unitDigits unit ++ more)) from by simp [holdsHalfPair])] at hdigits
  rw [unitEscape, List.cons_append, List.cons_append, holdsHalfPair, if_pos (beq_self_eq_true _),
    namedUnit?_unitDigits h]
  cases escapedUnit? (('u' :: (unitDigits unit ++ more)).drop 5) with
  | none => simp [hleading, htrailing, hbehind]
  | some second => simp [hleading, htrailing, hbehind]

theorem isUnbroken_pair {second : Nat} (h : unit < 0x10000) (hsecond : second < 0x10000)
    (hleading : isLeadingUnit unit) (htrailing : isTrailingUnit second) :
    IsUnbroken (unitEscape unit ++ unitEscape second) := by
  intro more
  have hnamed : escapedUnit?
      (('u' :: (unitDigits unit ++ (unitEscape second ++ more))).drop 5) = some second := by
    change escapedUnit? ('\\' :: 'u' :: (unitDigits second ++ more)) = some second
    exact @namedUnit?_unitDigits second more hsecond
  rw [List.append_assoc, unitEscape, List.cons_append, List.cons_append, holdsHalfPair,
    if_pos (beq_self_eq_true _), namedUnit?_unitDigits h, hnamed]
  simp only [hleading, htrailing, Bool.and_self, if_true]
  exact holdsHalfPair_append ('u' :: (unitDigits unit ++ unitEscape second)) more

theorem IsEscapeOf.isUnbroken {escape : List Char} (h : IsEscapeOf c escape) :
    IsUnbroken escape := by
  cases h with
  | short hletter =>
    have hall : ∀ short ∈ shortEscapes, short.2 ≠ 'u' := by decide
    exact isUnbroken_letter (hall _ hletter)
  | plain _ hback _ _ => exact isUnbroken_singleton hback
  | unit hunit =>
    obtain ⟨hleading, htrailing⟩ := isAlone_toNat c
    exact isUnbroken_unitEscape hunit hleading htrailing
  | pair hpair =>
    obtain ⟨hleading, htrailing⟩ := isPair_of_le hpair
    obtain ⟨-, hlast⟩ := toNat_bounds c
    exact isUnbroken_pair (by omega) (by omega) hleading htrailing

theorem isUnbroken_quote (cs : List Char) : IsUnbroken (quote cs) := by
  refine .cons (by decide) (.append ?_ (isUnbroken_singleton (by decide)))
  exact .flatMap fun c _ => (isEscapeOf_escapeChar c).isUnbroken

/-! ## Control characters -/

variable {control : Char}

theorem notMem_unitEscape (h : control < ' ') (unit : Nat) : control ∉ unitEscape unit := by
  have hdigit : ∀ k : Nat, control ≠ Nat.digitChar (k % 16) := by
    rintro k rfl
    have hall : ∀ d < 16, ¬Nat.digitChar d < ' ' := by decide
    exact hall (k % 16) (Nat.mod_lt k (by decide)) h
  have hback : control ≠ '\\' := by
    rintro rfl
    exact absurd h (by decide)
  have hletter : control ≠ 'u' := by
    rintro rfl
    exact absurd h (by decide)
  simp [unitEscape, unitDigits, hdigit, hback, hletter]

/-- The escape of a character holds no control characters, not even that of a control character. -/
theorem IsEscapeOf.notMem {escape : List Char} (h : IsEscapeOf c escape)
    (hcontrol : control < ' ') : control ∉ escape := by
  cases h with
  | short hletter =>
    have hall : ∀ short ∈ shortEscapes, ¬short.2 < ' ' := by decide
    rw [List.mem_pair, not_or]
    constructor
    · rintro rfl
      exact absurd hcontrol (by decide)
    · rintro rfl
      exact hall _ hletter hcontrol
  | plain _ _ hlow _ =>
    rw [List.mem_singleton]
    rintro rfl
    exact absurd hcontrol (Char.not_lt.2 hlow)
  | unit _ => exact notMem_unitEscape hcontrol _
  | pair _ =>
    rw [List.mem_append, not_or]
    exact ⟨notMem_unitEscape hcontrol _, notMem_unitEscape hcontrol _⟩

theorem notMem_quote (h : control < ' ') (cs : List Char) : control ∉ quote cs := by
  intro hmem
  have hquote : control ≠ '"' := by
    rintro rfl
    exact absurd h (by decide)
  simp only [quote, List.mem_cons, List.mem_append, List.mem_flatMap, List.not_mem_nil,
    or_false, hquote, false_or] at hmem
  obtain ⟨c, -, hmem⟩ := hmem
  exact (isEscapeOf_escapeChar c).notMem h hmem

end ProtocolBindings.Json
