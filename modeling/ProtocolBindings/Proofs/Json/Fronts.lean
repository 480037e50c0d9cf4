import ProtocolBindings.Proofs.Json.RoundTrip

/-!
# Reading fronts of texts

What has been read does not change when more characters come behind it, but for a number that may
go on.  So no text that ends before a bracket or a brace was closed is read.
-/

namespace ProtocolBindings.Json

variable {start start' skip fuel fuel' n used : Nat}
  {done cs rest more digits front front' : List Char}
  {c value : Char} {negative : Bool} {text : List Char}

/-! ## Strings -/

/-- The ends of a text in which the escape of one unit of a pair has begun. -/
def IsBegunEscape (cs : List Char) : Prop :=
  cs = [] ∨ ∃ tail, cs = 'u' :: tail ∧ tail.length ≤ 4

theorem readEscape_of_isBegunEscape (h : IsBegunEscape cs) :
    ∃ fault, readEscape start cs = .error fault := by
  rcases h with rfl | ⟨tail, rfl, hlength⟩
  · exact ⟨_, rfl⟩
  · refine ⟨⟨.brokenUnitEscape, tail.length + 1⟩, ?_⟩
    rw [readEscape]
    rintro a b c d next rest' rfl
    simp only [List.length_cons] at hlength
    omega

/-- A list is one that may have begun an escape, or it holds all the characters of one. -/
theorem length_le_four_or (cs : List Char) :
    cs.length ≤ 4 ∨ ∃ a b c d next rest, cs = a :: b :: c :: d :: next :: rest := by
  rcases cs with _ | ⟨a, _ | ⟨b, _ | ⟨c, _ | ⟨d, _ | ⟨next, rest⟩⟩⟩⟩⟩
  · exact Or.inl (by simp)
  · exact Or.inl (by simp)
  · exact Or.inl (by simp)
  · exact Or.inl (by simp)
  · exact Or.inl (by simp)
  · exact Or.inr ⟨a, b, c, d, next, rest, rfl⟩

theorem readEscape_of_ne_unit {x : Char} (hx : x ≠ 'u') (start : Nat) (rest : List Char) :
    readEscape start (x :: rest) =
      match escaped? x with
      | some value => .ok (value, 1)
      | none => .error ⟨.unknownEscape, rest.length + 2⟩ := by
  rw [readEscape.eq_def]
  split
  · rename_i hnil
    cases hnil
  · rename_i hunit
    exact absurd (List.cons.inj hunit).1 hx
  · rename_i hunit
    exact absurd (List.cons.inj hunit).1 hx
  · rename_i hcons
    obtain ⟨rfl, rfl⟩ := List.cons.inj hcons
    rfl

theorem used_of_isBegunEscape {a b c d : Char}
    (h : readEscape start ('u' :: a :: b :: c :: d :: '\\' :: rest) = .ok (value, used))
    (hbegun : IsBegunEscape rest) : used = 5 := by
  rw [readEscape] at h
  cases hunit : unit? a b c d with
  | none =>
    rw [hunit] at h
    cases h
  | some unit =>
    rw [hunit] at h
    simp only at h
    split at h
    · rcases hbegun with hnil | ⟨tail, heq, hlength⟩
      · cases hnil
      · obtain rfl := (List.cons.inj heq).2
        simp only [List.length_cons] at hlength
        omega
    · exact (Prod.mk.inj (Except.ok.inj h)).2.symm

theorem readEscape_append_unit {a b c d next : Char}
    (h : readEscape start ('u' :: a :: b :: c :: d :: next :: rest) = .ok (value, used))
    (hbegun : ¬(next = '\\' ∧ IsBegunEscape rest)) :
    readEscape start' ('u' :: a :: b :: c :: d :: next :: (rest ++ more)) = .ok (value, used) := by
  rw [readEscape] at h ⊢
  cases hunit : unit? a b c d with
  | none =>
    rw [hunit] at h
    cases h
  | some unit =>
    rw [hunit] at h
    simp only at h ⊢
    split at h
    · exact h
    · rename_i hother
      split
      · rename_i e f g k last others heq
        -- The second escape is whole only with the characters behind the text.
        exfalso
        cases rest with
        | nil => exact hbegun ⟨rfl, Or.inl rfl⟩
        | cons x tail =>
          obtain ⟨rfl, htail⟩ := List.cons.inj heq
          rcases length_le_four_or tail with hshort | ⟨_, _, _, _, _, _, rfl⟩
          · exact hbegun ⟨rfl, Or.inr ⟨tail, rfl, hshort⟩⟩
          · exact hother _ _ _ _ _ _ rfl rfl
      · exact h

/-- An escape is read the same with more characters behind it, unless it is the escape of one unit
and that of a second one has begun. -/
theorem readEscape_append (h : readEscape start cs = .ok (value, used)) :
    readEscape start' (cs ++ more) = .ok (value, used) ∨
      ∃ a b c d tail, cs = 'u' :: a :: b :: c :: d :: '\\' :: tail ∧ used = 5 ∧
        IsBegunEscape tail := by
  cases cs with
  | nil => cases h
  | cons x rest =>
    by_cases hx : x = 'u'
    · subst hx
      rcases length_le_four_or rest with hshort | ⟨a, b, c, d, next, tail, rfl⟩
      · obtain ⟨fault, hfault⟩ : ∃ fault, readEscape start ('u' :: rest) = .error fault :=
          readEscape_of_isBegunEscape (Or.inr ⟨rest, rfl, hshort⟩)
        rw [hfault] at h
        cases h
      · by_cases hbegun : next = '\\' ∧ IsBegunEscape tail
        · obtain ⟨rfl, hbegun⟩ := hbegun
          exact Or.inr ⟨a, b, c, d, tail, rfl, used_of_isBegunEscape h hbegun, hbegun⟩
        · exact Or.inl (readEscape_append_unit h hbegun)
    · left
      rw [readEscape_of_ne_unit hx] at h
      rw [List.cons_append, readEscape_of_ne_unit hx]
      cases hescaped : escaped? x with
      | none =>
        rw [hescaped] at h
        cases h
      | some letter =>
        rw [hescaped] at h
        exact h

theorem readString_append {s : String} (h : readString start skip done cs = .ok (s, rest)) :
    readString start' skip done (cs ++ more) = .ok (s, rest ++ more) := by
  induction cs generalizing skip done with
  | nil => cases skip <;> cases h
  | cons c cs ih =>
    cases skip with
    | succ skip => exact ih h
    | zero =>
      rw [readString] at h
      rw [List.cons_append, readString]
      split at h
      · rename_i hquote
        obtain ⟨rfl, rfl⟩ := Prod.mk.inj (Except.ok.inj h)
        rw [if_pos hquote]
      rename_i hquote
      rw [if_neg hquote]
      split at h
      · rename_i hback
        rw [if_pos hback]
        cases hescape : readEscape start cs with
        | error fault =>
          rw [hescape] at h
          cases h
        | ok read =>
          obtain ⟨value, used⟩ := read
          rw [hescape] at h
          rcases @readEscape_append start start' used cs more value hescape with
            hsame | ⟨a, b, c', d, tail, rfl, rfl, hbegun⟩
          · rw [hsame]
            exact ih h
          · -- The rest of the text begins with an escape that is not whole.
            obtain ⟨fault, hfault⟩ := @readEscape_of_isBegunEscape start _ hbegun
            simp [readString, hfault] at h
      rename_i hback
      rw [if_neg hback]
      split at h
      · cases h
      · rename_i hcontrol
        rw [if_neg hcontrol]
        exact ih h

/-! ## Numbers -/

/-- The characters that can stand behind a value inside an array or an object. -/
def closings : List Char := [' ', '\t', '\n', '\r', ',', ']', '}']

theorem spanDigits_append (h : spanDigits cs = (digits, c :: rest)) :
    spanDigits (cs ++ more) = (digits, c :: (rest ++ more)) := by
  rw [spanDigits, List.span_eq_takeWhile_dropWhile] at h ⊢
  obtain ⟨rfl, hdrop⟩ := Prod.mk.inj h
  have hlength := congrArg List.length
    (@List.takeWhile_append_dropWhile _ (fun c => decide ('0' ≤ c) && decide (c ≤ '9')) cs)
  rw [hdrop, List.length_append, List.length_cons] at hlength
  rw [List.takeWhile_append, if_neg (by omega), List.dropWhile_append, hdrop]
  rfl

theorem readWhole_of_ne_zero {d : Char} (hd : d ≠ '0') (cs : List Char) :
    readWhole (d :: cs) =
      match spanDigits (d :: cs) with
      | ([], _) => none
      | (digits, rest) => some (digits, rest) := by
  rw [readWhole.eq_def]
  split
  · rename_i hzero
    exact absurd (List.cons.inj hzero).1 hd
  · rfl

theorem readWhole_append (h : readWhole cs = some (digits, c :: rest)) :
    readWhole (cs ++ more) = some (digits, c :: (rest ++ more)) := by
  cases cs with
  | nil => cases h
  | cons d cs =>
    by_cases hd : d = '0'
    · subst hd
      obtain ⟨rfl, rfl⟩ := Prod.mk.inj (Option.some.inj h)
      rfl
    · rw [readWhole_of_ne_zero hd] at h
      rw [List.cons_append, readWhole_of_ne_zero hd]
      rcases hspan : spanDigits (d :: cs) with ⟨_ | ⟨first, others⟩, behind⟩
      · rw [hspan] at h
        cases h
      · rw [hspan] at h
        obtain ⟨rfl, rfl⟩ := Prod.mk.inj (Option.some.inj h)
        rw [← List.cons_append, spanDigits_append hspan]

theorem readFraction_append (hc : c ≠ '.') (h : readFraction cs = (digits, c :: rest)) :
    readFraction (cs ++ more) = (digits, c :: (rest ++ more)) := by
  cases cs with
  | nil => cases h
  | cons d cs =>
    by_cases hd : d = '.'
    · subst hd
      rw [readFraction] at h
      rw [List.cons_append, readFraction]
      rcases hspan : spanDigits cs with ⟨_ | ⟨first, others⟩, behind⟩
      · rw [hspan] at h
        exact absurd (List.cons.inj (Prod.mk.inj h).2).1.symm hc
      · rw [hspan] at h
        obtain ⟨rfl, rfl⟩ := Prod.mk.inj h
        rw [spanDigits_append hspan]
    · have hother : ∀ cs, readFraction (d :: cs) = ([], d :: cs) := by
        intro cs
        rw [readFraction]
        rintro rest heq
        exact absurd (List.cons.inj heq).1 hd
      rw [hother] at h
      obtain ⟨rfl, heq⟩ := Prod.mk.inj h
      obtain ⟨rfl, rfl⟩ := List.cons.inj heq
      exact hother _

/-- Reads the digits of an exponent. -/
def readPower (negative : Bool) (cs : List Char) : Option (Int × List Char) :=
  match spanDigits cs with
  | ([], _) => none
  | (digits, rest) =>
    let n : Int := natOfDigits digits
    some (if negative then -n else n, rest)

/-- Whether an exponent is negative, and what stands behind its sign. -/
def splitSign (cs : List Char) : Bool × List Char :=
  match cs with
  | '-' :: rest => (true, rest)
  | '+' :: rest => (false, rest)
  | _ => (false, cs)

theorem splitSign_append (h : splitSign (c :: cs) = (negative, rest)) :
    splitSign (c :: (cs ++ more)) = (negative, rest ++ more) := by
  rw [splitSign.eq_def] at h ⊢
  split at h
  · rename_i heq
    obtain ⟨rfl, rfl⟩ := List.cons.inj heq
    obtain ⟨rfl, rfl⟩ := Prod.mk.inj h
    rfl
  · rename_i heq
    obtain ⟨rfl, rfl⟩ := List.cons.inj heq
    obtain ⟨rfl, rfl⟩ := Prod.mk.inj h
    rfl
  · rename_i hminus hplus
    obtain ⟨rfl, rfl⟩ := Prod.mk.inj h
    split
    · rename_i heq
      exact absurd (by rw [(List.cons.inj heq).1]) (hminus cs)
    · rename_i heq
      exact absurd (by rw [(List.cons.inj heq).1]) (hplus cs)
    · rfl

theorem readExponent_mark {mark : Char} (h : mark = 'e' ∨ mark = 'E') (cs : List Char) :
    readExponent (mark :: cs) =
      let (negative, rest) := splitSign cs
      readPower negative rest := by
  rcases h with rfl | rfl
  · delta readExponent splitSign readPower
    rfl
  · delta readExponent splitSign readPower
    rfl

theorem readExponent_of_not_mark (h : ¬(c = 'e' ∨ c = 'E')) : readExponent (c :: cs) = none := by
  rw [readExponent]
  · exact fun _ heq => h (Or.inl (List.cons.inj heq).1)
  · exact fun _ heq => h (Or.inr (List.cons.inj heq).1)

theorem readPower_append {negative : Bool} {exponent : Int}
    (h : readPower negative cs = some (exponent, c :: rest)) :
    readPower negative (cs ++ more) = some (exponent, c :: (rest ++ more)) := by
  rw [readPower] at h ⊢
  rcases hspan : spanDigits cs with ⟨_ | ⟨first, others⟩, behind⟩
  · rw [hspan] at h
    cases h
  · rw [hspan] at h
    obtain ⟨rfl, rfl⟩ := Prod.mk.inj (Option.some.inj h)
    rw [spanDigits_append hspan]

theorem readExponent_append {exponent : Int} (h : readExponent cs = some (exponent, c :: rest)) :
    readExponent (cs ++ more) = some (exponent, c :: (rest ++ more)) := by
  cases cs with
  | nil => cases h
  | cons mark cs =>
    by_cases hmark : mark = 'e' ∨ mark = 'E'
    · rw [readExponent_mark hmark] at h
      cases cs with
      | nil => cases h
      | cons sign cs =>
        rcases hsign : splitSign (sign :: cs) with ⟨negative, digits⟩
        rw [hsign] at h
        rw [List.cons_append, List.cons_append, readExponent_mark hmark, splitSign_append hsign]
        exact readPower_append h
    · rw [readExponent_of_not_mark hmark] at h
      cases h

/-- Whether a number is negative, and what stands behind its sign. -/
def splitMinus (cs : List Char) : Bool × List Char :=
  match cs with
  | '-' :: rest => (true, rest)
  | _ => (false, cs)

theorem splitMinus_append (h : splitMinus (c :: cs) = (negative, rest)) :
    splitMinus (c :: (cs ++ more)) = (negative, rest ++ more) := by
  rw [splitMinus.eq_def] at h ⊢
  split at h
  · rename_i heq
    obtain ⟨rfl, rfl⟩ := List.cons.inj heq
    obtain ⟨rfl, rfl⟩ := Prod.mk.inj h
    rfl
  · rename_i hminus
    obtain ⟨rfl, rfl⟩ := Prod.mk.inj h
    split
    · rename_i heq
      exact absurd (by rw [(List.cons.inj heq).1]) (hminus cs)
    · rfl

/-- Reads the exponent of a number, if there is one, behind the given digits; the number begins at
`start`. -/
def finishNumber (negative : Bool) (whole fraction start cs : List Char) : Reading Json :=
  match readExponent cs with
  | some (exponent, rest) =>
    .ok (.float (.ofDecimal negative (natOfDigits (whole ++ fraction))
      (exponent - fraction.length)), rest)
  | none =>
    if fraction.isEmpty then
      if maxDigits < whole.length then faultAt (.beyond .digits) start
      else
        let n : Int := natOfDigits whole
        .ok (.integer (if negative then -n else n), cs)
    else
      .ok (.float (.ofDecimal negative (natOfDigits (whole ++ fraction))
        (-(fraction.length : Int))), cs)

/-- Reads a number behind its sign; `cs` is the whole of it. -/
def readUnsigned (negative : Bool) (unsigned cs : List Char) : Reading Json :=
  match readWhole unsigned with
  | none => faultAt .expectingValue cs
  | some (whole, rest) =>
    let (fraction, rest) := readFraction rest
    finishNumber negative whole fraction cs rest

theorem readNumber_eq (cs : List Char) :
    readNumber cs =
      let (negative, unsigned) := splitMinus cs
      readUnsigned negative unsigned cs := by
  delta readNumber readUnsigned finishNumber splitMinus
  rfl

/-- Behind a number stands what stands behind its last digits, or the rest of an exponent. -/
theorem finishNumber_cases {whole fraction : List Char} {number : Json}
    (h : finishNumber negative whole fraction front cs = .ok (number, rest)) :
    (∃ exponent, readExponent cs = some (exponent, rest)) ∨ readExponent cs = none ∧ cs = rest := by
  rw [finishNumber] at h
  cases hexponent : readExponent cs with
  | some read =>
    obtain ⟨exponent, behind⟩ := read
    rw [hexponent] at h
    obtain ⟨-, rfl⟩ := Prod.mk.inj (Except.ok.inj h)
    exact Or.inl ⟨exponent, rfl⟩
  | none =>
    rw [hexponent] at h
    simp only at h
    split at h
    · split at h
      · cases h
      · exact Or.inr ⟨rfl, (Prod.mk.inj (Except.ok.inj h)).2⟩
    · exact Or.inr ⟨rfl, (Prod.mk.inj (Except.ok.inj h)).2⟩

theorem finishNumber_append {whole fraction : List Char} {number : Json} (hc : c ∈ closings)
    (h : finishNumber negative whole fraction front cs = .ok (number, c :: rest)) :
    finishNumber negative whole fraction front' (cs ++ more) =
      .ok (number, c :: (rest ++ more)) := by
  rcases finishNumber_cases h with ⟨exponent, hexponent⟩ | ⟨hnone, rfl⟩
  · rw [finishNumber, hexponent] at h
    rw [finishNumber, readExponent_append hexponent, ← (Prod.mk.inj (Except.ok.inj h)).1]
  · have hmark : ¬(c = 'e' ∨ c = 'E') := by
      rintro (rfl | rfl)
      · exact absurd hc (by decide)
      · exact absurd hc (by decide)
    rw [finishNumber, hnone] at h
    rw [finishNumber, List.cons_append, readExponent_of_not_mark hmark]
    simp only at h ⊢
    split at h
    · rename_i hempty
      split at h
      · cases h
      · rename_i hdigits
        rw [if_pos hempty, if_neg hdigits, (Prod.mk.inj (Except.ok.inj h)).1]
    · rename_i hempty
      rw [if_neg hempty, (Prod.mk.inj (Except.ok.inj h)).1]

theorem readUnsigned_append {cs' unsigned : List Char} {number : Json}
    (hc : c ∈ closings) (h : readUnsigned negative unsigned cs = .ok (number, c :: rest)) :
    readUnsigned negative (unsigned ++ more) cs' = .ok (number, c :: (rest ++ more)) := by
  rw [readUnsigned] at h ⊢
  rcases hwhole : readWhole unsigned with _ | ⟨whole, behindWhole⟩
  · rw [hwhole] at h
    cases h
  rcases hfraction : readFraction behindWhole with ⟨fraction, behind⟩
  simp only [hwhole, hfraction] at h
  -- Something stands behind the digits, and it is no point without digits.
  obtain ⟨d, others, rfl, hd⟩ : ∃ d others, behind = d :: others ∧ d ≠ '.' := by
    rcases finishNumber_cases h with ⟨exponent, hexponent⟩ | ⟨-, rfl⟩
    · cases behind with
      | nil => cases hexponent
      | cons d others =>
        refine ⟨d, others, rfl, ?_⟩
        rintro rfl
        rw [readExponent_of_not_mark (by decide)] at hexponent
        cases hexponent
    · refine ⟨c, rest, rfl, ?_⟩
      rintro rfl
      exact absurd hc (by decide)
  cases behindWhole with
  | nil => cases hfraction
  | cons first behindWhole =>
    simp only [readWhole_append hwhole]
    rw [← List.cons_append, readFraction_append hd hfraction]
    exact finishNumber_append hc h

/-- A number is read the same with more characters behind it, if something stands behind it that
cannot belong to it. -/
theorem readNumber_append {number : Json} (hc : c ∈ closings)
    (h : readNumber cs = .ok (number, c :: rest)) :
    readNumber (cs ++ more) = .ok (number, c :: (rest ++ more)) := by
  cases cs with
  | nil => cases h
  | cons d cs =>
    rcases hsplit : splitMinus (d :: cs) with ⟨negative, unsigned⟩
    rw [readNumber_eq, hsplit] at h
    rw [readNumber_eq, List.cons_append, splitMinus_append hsplit]
    exact readUnsigned_append hc h

/-- A text that begins like a number. -/
def IsNumberStart (cs : List Char) : Prop :=
  ∃ d ds, ('0' ≤ d ∧ d ≤ '9') ∧ (cs = d :: ds ∨ cs = '-' :: d :: ds)

theorem IsNumberStart.append (h : IsNumberStart cs) : IsNumberStart (cs ++ more) := by
  obtain ⟨d, ds, hd, rfl | rfl⟩ := h
  · exact ⟨d, ds ++ more, hd, Or.inl rfl⟩
  · exact ⟨d, ds ++ more, hd, Or.inr rfl⟩

theorem exists_of_readWhole (h : readWhole cs = some (digits, rest)) :
    ∃ d ds, ('0' ≤ d ∧ d ≤ '9') ∧ cs = d :: ds := by
  cases cs with
  | nil => cases h
  | cons d ds =>
    refine ⟨d, ds, ?_, rfl⟩
    by_contra hd
    have hspan : spanDigits (d :: ds) = ([], d :: ds) := by
      rw [spanDigits, List.span_eq_takeWhile_dropWhile, List.takeWhile_cons_of_neg,
        List.dropWhile_cons_of_neg]
      · simpa using hd
      · simpa using hd
    rw [readWhole.eq_def] at h
    split at h
    · rename_i heq
      obtain ⟨rfl, -⟩ := List.cons.inj heq
      exact hd (by decide)
    · rw [hspan] at h
      cases h

theorem isNumberStart_of_readNumber {number : Json} (h : readNumber cs = .ok (number, rest)) :
    IsNumberStart cs := by
  rcases hsplit : splitMinus cs with ⟨negative, unsigned⟩
  rw [readNumber_eq, hsplit] at h
  cases hwhole : readWhole unsigned with
  | none =>
    simp only [readUnsigned, hwhole] at h
    cases h
  | some read =>
    obtain ⟨whole, behind⟩ := read
    obtain ⟨d, ds, hd, rfl⟩ := exists_of_readWhole hwhole
    rw [splitMinus.eq_def] at hsplit
    split at hsplit
    · obtain ⟨-, rfl⟩ := Prod.mk.inj hsplit
      exact ⟨d, ds, hd, Or.inr rfl⟩
    · obtain ⟨-, rfl⟩ := Prod.mk.inj hsplit
      exact ⟨d, ds, hd, Or.inl rfl⟩

/-! ## Values -/

theorem readValue_of_isNumberStart (h : IsNumberStart cs) :
    readValue (fuel + 1) n cs = readNumber cs := by
  have hne : ∀ c ∈ ['"', '{', '[', 'n', 't', 'f', 'N', 'I'], cs.head? ≠ some c := by
    have hdigit : ∀ c ∈ ['"', '{', '[', 'n', 't', 'f', 'N', 'I'], ¬('0' ≤ c ∧ c ≤ '9') := by
      simp only [List.forall_mem_cons, List.not_mem_nil, false_implies, implies_true]
      decide
    obtain ⟨d, ds, hd, rfl | rfl⟩ := h
    · rintro c hc heq
      obtain rfl := Option.some.inj heq
      exact hdigit _ hc hd
    · rintro c hc heq
      obtain rfl := Option.some.inj heq
      exact absurd hc (by decide)
  rw [readValue.eq_def]
  dsimp only
  split
  · exact absurd rfl (hne '"' (by decide))
  · exact absurd rfl (hne '{' (by decide))
  · exact absurd rfl (hne '[' (by decide))
  · exact absurd rfl (hne '{' (by decide))
  · exact absurd rfl (hne '[' (by decide))
  · exact absurd rfl (hne 'n' (by decide))
  · exact absurd rfl (hne 't' (by decide))
  · exact absurd rfl (hne 'f' (by decide))
  · exact absurd rfl (hne 'N' (by decide))
  · exact absurd rfl (hne 'I' (by decide))
  · obtain ⟨d, ds, hd, heq | heq⟩ := h
    · obtain ⟨rfl, -⟩ := List.cons.inj heq
      exact absurd hd (by decide)
    · obtain ⟨-, htail⟩ := List.cons.inj heq
      obtain ⟨rfl, -⟩ := List.cons.inj htail
      exact absurd hd (by decide)
  · rfl

theorem skipSpace_append_of_ne_nil (h : skipSpace cs ≠ []) :
    skipSpace (cs ++ more) = skipSpace cs ++ more := by
  rw [skipSpace] at h ⊢
  rw [List.dropWhile_append, if_neg (by simpa using h)]
  rfl

theorem skipSpace_append (h : skipSpace cs = c :: rest) :
    skipSpace (cs ++ more) = c :: (rest ++ more) := by
  rw [skipSpace_append_of_ne_nil (by simp [h]), h, List.cons_append]

/-- What can stand behind a value stands there also in front of white space. -/
theorem head?_mem_closings (hc : c ∈ closings) (h : skipSpace cs = c :: rest) :
    ∃ d ∈ closings, ∃ others, cs = d :: others := by
  cases cs with
  | nil => cases h
  | cons d others =>
    refine ⟨d, ?_, others, rfl⟩
    by_cases hd : isSpace d
    · simp only [isSpace, Bool.or_eq_true, beq_iff_eq] at hd
      rcases hd with ((rfl | rfl) | rfl) | rfl <;> decide
    · rw [skipSpace, List.dropWhile_cons_of_neg hd] at h
      rwa [(List.cons.inj h).1]

/-- Something is read only where there is something. -/
theorem ne_nil_of_readValue {read : Json × List Char} (h : readValue fuel n cs = .ok read) :
    cs ≠ [] := by
  rintro rfl
  cases fuel with
  | zero => cases h
  | succ fuel => cases h

theorem ne_nil_of_readItems {before : List Json} {read : List Json × List Char}
    (h : readItems fuel n before cs = .ok read) : cs ≠ [] := by
  cases fuel with
  | zero => cases h
  | succ fuel =>
    rw [readItems] at h
    cases hvalue : readValue fuel n cs with
    | error fault =>
      rw [hvalue] at h
      cases h
    | ok item => exact ne_nil_of_readValue hvalue

theorem ne_nil_of_readMembers {before : List (String × Json)}
    {read : List (String × Json) × List Char} (h : readMembers fuel n before cs = .ok read) :
    cs ≠ [] := by
  rintro rfl
  cases fuel with
  | zero => cases h
  | succ fuel => cases h

/-- What is read with some fuel is read with more of it and more characters behind the text, if
what stands behind a value cannot belong to it. -/
structure Extends (fuel : Nat) : Prop where
  value : ∀ fuel' ≥ fuel, ∀ n cs json c rest, c ∈ closings →
    readValue fuel n cs = .ok (json, c :: rest) →
      ∀ more, readValue fuel' n (cs ++ more) = .ok (json, c :: (rest ++ more))
  items : ∀ fuel' ≥ fuel, ∀ n done cs items rest, readItems fuel n done cs = .ok (items, rest) →
    ∀ more, readItems fuel' n done (cs ++ more) = .ok (items, rest ++ more)
  members : ∀ fuel' ≥ fuel, ∀ n done cs members rest,
    readMembers fuel n done cs = .ok (members, rest) →
      ∀ more, readMembers fuel' n done (cs ++ more) = .ok (members, rest ++ more)

theorem readItems_append (h : Extends fuel) (hfuel : fuel ≤ fuel') {before items : List Json}
    (hread : readItems (fuel + 1) n before cs = .ok (items, rest)) :
    readItems (fuel' + 1) n before (cs ++ more) = .ok (items, rest ++ more) := by
  rw [readItems] at hread ⊢
  rcases hvalue : readValue fuel n cs with fault | ⟨item, behind⟩
  · rw [hvalue] at hread
    cases hread
  rw [hvalue] at hread
  simp only at hread
  split at hread
  · rename_i heq
    obtain ⟨rfl, rfl⟩ := Prod.mk.inj (Except.ok.inj hread)
    obtain ⟨d, hd, others, rfl⟩ := head?_mem_closings (by decide) heq
    rw [h.value fuel' hfuel n cs item d others hd hvalue more, ← List.cons_append]
    simp only [skipSpace_append heq]
  · rename_i heq
    obtain ⟨d, hd, others, rfl⟩ := head?_mem_closings (by decide) heq
    rw [h.value fuel' hfuel n cs item d others hd hvalue more, ← List.cons_append]
    simp only [skipSpace_append heq]
    rename_i next
    rw [skipSpace_append_of_ne_nil (ne_nil_of_readItems hread)]
    exact h.items fuel' hfuel n _ _ _ _ hread more
  · cases hread

theorem readMembers_append (h : Extends fuel) (hfuel : fuel ≤ fuel')
    {before members : List (String × Json)}
    (hread : readMembers (fuel + 1) n before cs = .ok (members, rest)) :
    readMembers (fuel' + 1) n before (cs ++ more) = .ok (members, rest ++ more) := by
  rw [readMembers.eq_def] at hread
  simp only at hread
  split at hread
  · rename_i quoted
    rw [List.cons_append, readMembers]
    rcases hname : readString ('"' :: quoted).length 0 [] quoted with fault | ⟨name, behind⟩
    · rw [hname] at hread
      cases hread
    rw [hname] at hread
    rw [readString_append hname]
    simp only at hread ⊢
    split at hread
    · rename_i afterColon hcolon
      rw [skipSpace_append hcolon]
      simp only
      rcases hvalue : readValue fuel n (skipSpace afterColon) with fault | ⟨json, afterValue⟩
      · rw [hvalue] at hread
        cases hread
      rw [hvalue] at hread
      rw [skipSpace_append_of_ne_nil (ne_nil_of_readValue hvalue)]
      simp only at hread
      split at hread
      · rename_i heq
        obtain ⟨rfl, rfl⟩ := Prod.mk.inj (Except.ok.inj hread)
        obtain ⟨d, hd, others, rfl⟩ := head?_mem_closings (by decide) heq
        rw [h.value fuel' hfuel n _ json d others hd hvalue more, ← List.cons_append]
        simp only [skipSpace_append heq]
      · rename_i next heq
        obtain ⟨d, hd, others, rfl⟩ := head?_mem_closings (by decide) heq
        rw [h.value fuel' hfuel n _ json d others hd hvalue more, ← List.cons_append]
        simp only [skipSpace_append heq]
        rw [skipSpace_append_of_ne_nil (ne_nil_of_readMembers hread)]
        exact h.members fuel' hfuel n _ _ _ _ hread more
      · cases hread
    · cases hread
  · cases hread

/-- A text that is not closed at once stays so with more characters behind it. -/
theorem skipSpace_append_ne (hne : skipSpace cs ≠ [])
    (hopen : ∀ others, skipSpace cs ≠ c :: others) :
    ∀ others, skipSpace (cs ++ more) ≠ c :: others := by
  intro others hclosed
  obtain ⟨d, front, hfront⟩ := List.exists_cons_of_ne_nil hne
  rw [skipSpace_append hfront] at hclosed
  obtain rfl := (List.cons.inj hclosed).1
  exact hopen front hfront

theorem readValue_bracket_append (h : Extends fuel) (hfuel : fuel ≤ fuel') {json : Json}
    (hread : readValue (fuel + 1) (n + 1) ('[' :: cs) = .ok (json, rest)) :
    readValue (fuel' + 1) (n + 1) ('[' :: (cs ++ more)) = .ok (json, rest ++ more) := by
  rw [readValue_bracket_eq_ok_iff] at hread ⊢
  rcases hread with ⟨hclosed, rfl⟩ | ⟨hopen, items, hitems, rfl⟩
  · exact Or.inl ⟨skipSpace_append hclosed, rfl⟩
  · have hne := ne_nil_of_readItems hitems
    refine Or.inr ⟨skipSpace_append_ne hne hopen, items, ?_, rfl⟩
    rw [skipSpace_append_of_ne_nil hne]
    exact h.items fuel' hfuel n _ _ _ _ hitems more

theorem readValue_brace_append (h : Extends fuel) (hfuel : fuel ≤ fuel') {json : Json}
    (hread : readValue (fuel + 1) (n + 1) ('{' :: cs) = .ok (json, rest)) :
    readValue (fuel' + 1) (n + 1) ('{' :: (cs ++ more)) = .ok (json, rest ++ more) := by
  rw [readValue_brace_eq_ok_iff] at hread ⊢
  rcases hread with ⟨hclosed, rfl⟩ | ⟨hopen, members, hmembers, rfl⟩
  · exact Or.inl ⟨skipSpace_append hclosed, rfl⟩
  · have hne := ne_nil_of_readMembers hmembers
    refine Or.inr ⟨skipSpace_append_ne hne hopen, members, ?_, rfl⟩
    rw [skipSpace_append_of_ne_nil hne]
    exact h.members fuel' hfuel n _ _ _ _ hmembers more

theorem readValue_append (h : Extends fuel) (hfuel : fuel ≤ fuel') {json : Json}
    (hend : IsNumberStart cs → ∃ c ∈ closings, ∃ others, rest = c :: others)
    (hread : readValue (fuel + 1) n cs = .ok (json, rest)) :
    readValue (fuel' + 1) n (cs ++ more) = .ok (json, rest ++ more) := by
  by_cases hnumber : IsNumberStart cs
  · obtain ⟨c, hc, others, rfl⟩ := hend hnumber
    rw [readValue_of_isNumberStart hnumber] at hread
    rw [readValue_of_isNumberStart hnumber.append]
    exact readNumber_append hc hread
  have hvalue := hread
  rw [readValue.eq_def] at hread
  simp only at hread
  split at hread
  · rename_i quoted
    rw [List.cons_append, readValue]
    rcases hstring : readString ('"' :: quoted).length 0 [] quoted with fault | ⟨s, behind⟩
    · rw [hstring] at hread
      cases hread
    rw [hstring] at hread
    obtain ⟨rfl, rfl⟩ := Prod.mk.inj (Except.ok.inj hread)
    rw [readString_append hstring]
  · cases hread
  · cases hread
  · exact readValue_brace_append h hfuel hvalue
  · exact readValue_bracket_append h hfuel hvalue
  · obtain ⟨rfl, rfl⟩ := Prod.mk.inj (Except.ok.inj hread)
    rfl
  · obtain ⟨rfl, rfl⟩ := Prod.mk.inj (Except.ok.inj hread)
    rfl
  · obtain ⟨rfl, rfl⟩ := Prod.mk.inj (Except.ok.inj hread)
    rfl
  · obtain ⟨rfl, rfl⟩ := Prod.mk.inj (Except.ok.inj hread)
    rfl
  · obtain ⟨rfl, rfl⟩ := Prod.mk.inj (Except.ok.inj hread)
    rfl
  · obtain ⟨rfl, rfl⟩ := Prod.mk.inj (Except.ok.inj hread)
    rfl
  · exact absurd (isNumberStart_of_readNumber hread) hnumber

/-- Every amount of fuel reads on in this way. -/
theorem extends_all (fuel : Nat) : Extends fuel := by
  induction fuel with
  | zero =>
    refine ⟨?_, ?_, ?_⟩
    · intro fuel' _ n cs json c rest _ hread
      cases hread
    · intro fuel' _ n done cs items rest hread
      cases hread
    · intro fuel' _ n done cs members rest hread
      cases hread
  | succ fuel ih =>
    have hsucc : ∀ fuel' ≥ fuel + 1, ∃ k ≥ fuel, fuel' = k + 1 :=
      fun fuel' hfuel => ⟨fuel' - 1, by omega, by omega⟩
    refine ⟨?_, ?_, ?_⟩
    · intro fuel' hfuel n cs json c rest hc hread more
      obtain ⟨k, hk, rfl⟩ := hsucc fuel' hfuel
      exact readValue_append ih hk (fun _ => ⟨c, hc, rest, rfl⟩) hread
    · intro fuel' hfuel n done cs items rest hread more
      obtain ⟨k, hk, rfl⟩ := hsucc fuel' hfuel
      exact readItems_append ih hk hread
    · intro fuel' hfuel n done cs members rest hread more
      obtain ⟨k, hk, rfl⟩ := hsucc fuel' hfuel
      exact readMembers_append ih hk hread

end ProtocolBindings.Json
