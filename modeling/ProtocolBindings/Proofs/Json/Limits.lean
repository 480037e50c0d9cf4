import ProtocolBindings.Proofs.Json.Fronts

/-!
# Limits in fronts of texts

A text that lies too deep inside itself does so with more characters behind it, too.  So of a text
that spells an object no shorter front is parsed, and none is refused for its depth.
-/

namespace ProtocolBindings.Json

variable {start start' skip fuel fuel' n : Nat} {done cs rest more : List Char} {text : List Char}

/-! ## Faults -/

/-- The faults that a text keeps when more characters come behind it: those of every limit but that
of digits, since a number may go on as one that is none of the integers. -/
def Fault.Stays (fault : Fault) : Prop :=
  ∃ limit, fault.limit? = some limit ∧ limit ≠ .digits

variable {fault : Fault}

theorem Fault.not_stays_of_limit?_eq_none (h : fault.limit? = none) : ¬fault.Stays := by
  rintro ⟨limit, hlimit, -⟩
  rw [h] at hlimit
  cases hlimit

theorem limit?_of_readEscape (h : readEscape start cs = .error fault) : fault.limit? = none := by
  rw [readEscape.eq_def] at h
  split at h
  · obtain rfl := Except.error.inj h
    rfl
  · split at h
    · obtain rfl := Except.error.inj h
      rfl
    · dsimp only at h
      split at h
      · split at h
        · cases h
        · split at h <;> cases h
      · cases h
  · obtain rfl := Except.error.inj h
    rfl
  · split at h
    · cases h
    · obtain rfl := Except.error.inj h
      rfl

theorem limit?_of_readString (h : readString start skip done cs = .error fault) :
    fault.limit? = none := by
  induction cs generalizing skip done with
  | nil =>
    cases skip <;> (obtain rfl := Except.error.inj h; rfl)
  | cons c cs ih =>
    cases skip with
    | succ skip => exact ih h
    | zero =>
      rw [readString] at h
      split at h
      · cases h
      split at h
      · cases hescape : readEscape start cs with
        | error found =>
          rw [hescape] at h
          obtain rfl := Except.error.inj h
          exact limit?_of_readEscape hescape
        | ok read =>
          rw [hescape] at h
          exact ih h
      split at h
      · obtain rfl := Except.error.inj h
        rfl
      · exact ih h

theorem not_stays_of_readNumber (h : readNumber cs = .error fault) : ¬fault.Stays := by
  rcases hsplit : splitMinus cs with ⟨negative, unsigned⟩
  rw [readNumber_eq, hsplit] at h
  simp only [readUnsigned, finishNumber] at h
  split at h
  · obtain rfl := Except.error.inj h
    exact Fault.not_stays_of_limit?_eq_none rfl
  · split at h
    · cases h
    · split at h
      · split at h
        · obtain rfl := Except.error.inj h
          rintro ⟨limit, hlimit, hne⟩
          exact hne (Option.some.inj hlimit).symm
        · cases h
      · cases h

/-- Such a fault is met with more fuel and more characters behind the text, too. -/
structure KeepsFaults (fuel : Nat) : Prop where
  value : ∀ fuel' ≥ fuel, ∀ n cs fault, readValue fuel n cs = .error fault → fault.Stays →
    ∀ more, ∃ fault', readValue fuel' n (cs ++ more) = .error fault'
  items : ∀ fuel' ≥ fuel, ∀ n done cs fault, readItems fuel n done cs = .error fault → fault.Stays →
    ∀ more, ∃ fault', readItems fuel' n done (cs ++ more) = .error fault'
  members : ∀ fuel' ≥ fuel, ∀ n done cs fault, readMembers fuel n done cs = .error fault →
    fault.Stays → ∀ more, ∃ fault', readMembers fuel' n done (cs ++ more) = .error fault'

/-- Where nothing is left to be read, no limit is reached. -/
theorem ne_nil_of_readItems_eq_error {before : List Json}
    (h : readItems fuel n before cs = .error fault) (hstays : fault.Stays) : cs ≠ [] := by
  rintro rfl
  refine absurd hstays (Fault.not_stays_of_limit?_eq_none ?_)
  rcases fuel with _ | _ | fuel <;> (obtain rfl := Except.error.inj h; rfl)

theorem ne_nil_of_readMembers_eq_error {before : List (String × Json)}
    (h : readMembers fuel n before cs = .error fault) (hstays : fault.Stays) : cs ≠ [] := by
  rintro rfl
  refine absurd hstays (Fault.not_stays_of_limit?_eq_none ?_)
  cases fuel <;> (obtain rfl := Except.error.inj h; rfl)

theorem ne_nil_of_readValue_eq_error (h : readValue fuel n cs = .error fault)
    (hstays : fault.Stays) : cs ≠ [] := by
  rintro rfl
  refine absurd hstays (Fault.not_stays_of_limit?_eq_none ?_)
  cases fuel <;> (obtain rfl := Except.error.inj h; rfl)

theorem readItems_keeps (h : KeepsFaults fuel) (hfuel : fuel ≤ fuel') {before : List Json}
    (hread : readItems (fuel + 1) n before cs = .error fault) (hstays : fault.Stays) :
    ∃ fault', readItems (fuel' + 1) n before (cs ++ more) = .error fault' := by
  rw [readItems] at hread
  rcases hvalue : readValue fuel n cs with found | ⟨item, behind⟩
  · rw [hvalue] at hread
    obtain rfl := Except.error.inj hread
    obtain ⟨fault', hfault'⟩ := h.value fuel' hfuel n cs found hvalue hstays more
    exact ⟨fault', by rw [readItems, hfault']⟩
  rw [hvalue] at hread
  simp only at hread
  split at hread
  · cases hread
  · rename_i next heq
    obtain ⟨d, hd, others, rfl⟩ := head?_mem_closings (by decide) heq
    have hne := ne_nil_of_readItems_eq_error hread hstays
    obtain ⟨fault', hfault'⟩ := h.items fuel' hfuel n _ _ fault hread hstays more
    refine ⟨fault', ?_⟩
    rw [readItems, (extends_all fuel).value fuel' hfuel n cs item d others hd hvalue more,
      ← List.cons_append]
    simp only [skipSpace_append heq]
    rw [skipSpace_append_of_ne_nil hne]
    exact hfault'
  · obtain rfl := Except.error.inj hread
    exact absurd hstays (Fault.not_stays_of_limit?_eq_none rfl)

theorem readMembers_keeps (h : KeepsFaults fuel) (hfuel : fuel ≤ fuel')
    {before : List (String × Json)}
    (hread : readMembers (fuel + 1) n before cs = .error fault) (hstays : fault.Stays) :
    ∃ fault', readMembers (fuel' + 1) n before (cs ++ more) = .error fault' := by
  have hother : ∀ {found : Fault}, found.limit? = none → found ≠ fault := by
    rintro found hnone rfl
    exact Fault.not_stays_of_limit?_eq_none hnone hstays
  rw [readMembers.eq_def] at hread
  simp only at hread
  split at hread
  · rename_i quoted
    rcases hname : readString ('"' :: quoted).length 0 [] quoted with found | ⟨name, behind⟩
    · rw [hname] at hread
      exact absurd (Except.error.inj hread) (hother (limit?_of_readString hname))
    rw [hname] at hread
    simp only at hread
    split at hread
    · rename_i afterColon hcolon
      rcases hvalue : readValue fuel n (skipSpace afterColon) with found | ⟨json, afterValue⟩
      · rw [hvalue] at hread
        obtain rfl := Except.error.inj hread
        obtain ⟨fault', hfault'⟩ := h.value fuel' hfuel n _ found hvalue hstays more
        refine ⟨fault', ?_⟩
        rw [List.cons_append, readMembers, readString_append hname]
        simp only [skipSpace_append hcolon]
        rw [skipSpace_append_of_ne_nil (ne_nil_of_readValue_eq_error hvalue hstays), hfault']
      rw [hvalue] at hread
      simp only at hread
      split at hread
      · cases hread
      · rename_i next heq
        obtain ⟨d, hd, others, rfl⟩ := head?_mem_closings (by decide) heq
        have hne := ne_nil_of_readMembers_eq_error hread hstays
        obtain ⟨fault', hfault'⟩ := h.members fuel' hfuel n _ _ fault hread hstays more
        refine ⟨fault', ?_⟩
        rw [List.cons_append, readMembers, readString_append hname]
        simp only [skipSpace_append hcolon]
        rw [skipSpace_append_of_ne_nil (ne_nil_of_readValue hvalue),
          (extends_all fuel).value fuel' hfuel n _ json d others hd hvalue more,
          ← List.cons_append]
        simp only [skipSpace_append heq]
        rw [skipSpace_append_of_ne_nil hne]
        exact hfault'
      · exact absurd (Except.error.inj hread) (hother rfl)
    · exact absurd (Except.error.inj hread) (hother rfl)
  · exact absurd (Except.error.inj hread) (hother rfl)

/-- A bracket opens an array with a fault exactly if its items have that fault. -/
theorem readValue_bracket_eq_error_iff :
    readValue (fuel + 1) (n + 1) ('[' :: cs) = .error fault ↔
      (∀ others, skipSpace cs ≠ ']' :: others) ∧
        readItems fuel n [] (skipSpace cs) = .error fault := by
  rw [readValue]
  split
  · rename_i others hclosed
    simp [hclosed]
  · rename_i hopen
    have hnot : ∀ others, skipSpace cs ≠ ']' :: others := hopen
    cases readItems fuel n [] (skipSpace cs) with
    | error found => simp [hnot]
    | ok read => simp [hnot]

theorem readValue_brace_eq_error_iff :
    readValue (fuel + 1) (n + 1) ('{' :: cs) = .error fault ↔
      (∀ others, skipSpace cs ≠ '}' :: others) ∧
        readMembers fuel n [] (skipSpace cs) = .error fault := by
  rw [readValue]
  split
  · rename_i others hclosed
    simp [hclosed]
  · rename_i hopen
    have hnot : ∀ others, skipSpace cs ≠ '}' :: others := hopen
    cases readMembers fuel n [] (skipSpace cs) with
    | error found => simp [hnot]
    | ok read => simp [hnot]

theorem readValue_keeps (h : KeepsFaults fuel) (hfuel : fuel ≤ fuel')
    (hread : readValue (fuel + 1) n cs = .error fault) (hstays : fault.Stays) :
    ∃ fault', readValue (fuel' + 1) n (cs ++ more) = .error fault' := by
  have hvalue := hread
  rw [readValue.eq_def] at hread
  simp only at hread
  split at hread
  · rename_i quoted
    rcases hstring : readString ('"' :: quoted).length 0 [] quoted with found | ⟨s, behind⟩
    · rw [hstring] at hread
      obtain rfl := Except.error.inj hread
      exact absurd hstays (Fault.not_stays_of_limit?_eq_none (limit?_of_readString hstring))
    · rw [hstring] at hread
      cases hread
  · exact ⟨_, rfl⟩
  · exact ⟨_, rfl⟩
  · obtain ⟨hopen, hmembers⟩ := readValue_brace_eq_error_iff.1 hvalue
    have hne := ne_nil_of_readMembers_eq_error hmembers hstays
    obtain ⟨fault', hfault'⟩ := h.members fuel' hfuel _ _ _ fault hmembers hstays more
    rw [← skipSpace_append_of_ne_nil hne] at hfault'
    exact ⟨fault', readValue_brace_eq_error_iff.2 ⟨skipSpace_append_ne hne hopen, hfault'⟩⟩
  · obtain ⟨hopen, hitems⟩ := readValue_bracket_eq_error_iff.1 hvalue
    have hne := ne_nil_of_readItems_eq_error hitems hstays
    obtain ⟨fault', hfault'⟩ := h.items fuel' hfuel _ _ _ fault hitems hstays more
    rw [← skipSpace_append_of_ne_nil hne] at hfault'
    exact ⟨fault', readValue_bracket_eq_error_iff.2 ⟨skipSpace_append_ne hne hopen, hfault'⟩⟩
  iterate 6
    · cases hread
  · exact absurd hstays (not_stays_of_readNumber hread)

theorem keepsFaults_all (fuel : Nat) : KeepsFaults fuel := by
  induction fuel with
  | zero =>
    have hnot : ∀ {fault : Fault}, fault.limit? = none → ¬fault.Stays :=
      Fault.not_stays_of_limit?_eq_none
    refine ⟨?_, ?_, ?_⟩
    · intro fuel' _ n cs fault hread hstays
      obtain rfl := Except.error.inj hread
      exact absurd hstays (hnot rfl)
    · intro fuel' _ n done cs fault hread hstays
      obtain rfl := Except.error.inj hread
      exact absurd hstays (hnot rfl)
    · intro fuel' _ n done cs fault hread hstays
      obtain rfl := Except.error.inj hread
      exact absurd hstays (hnot rfl)
  | succ fuel ih =>
    have hsucc : ∀ fuel' ≥ fuel + 1, ∃ k ≥ fuel, fuel' = k + 1 :=
      fun fuel' hfuel => ⟨fuel' - 1, by omega, by omega⟩
    refine ⟨?_, ?_, ?_⟩
    · intro fuel' hfuel n cs fault hread hstays more
      obtain ⟨k, hk, rfl⟩ := hsucc fuel' hfuel
      exact readValue_keeps ih hk hread hstays
    · intro fuel' hfuel n done cs fault hread hstays more
      obtain ⟨k, hk, rfl⟩ := hsucc fuel' hfuel
      exact readItems_keeps ih hk hread hstays
    · intro fuel' hfuel n done cs fault hread hstays more
      obtain ⟨k, hk, rfl⟩ := hsucc fuel' hfuel
      exact readMembers_keeps ih hk hread hstays

/-! ## Fronts of objects -/

/-- Of a text that spells a value and begins with a brace, no shorter front is parsed.  The reason
is not a limit that would have been reached in the whole text. -/
theorem Spells.exists_parse_eq_error [Host] {json : Json} {front : List Char}
    (h : Spells Host.jsonDepth text json) (hopen : text.head? = some '{') (hfront : front <+: text)
    (hne : front ≠ text) : ∃ fault, parse front = .error fault ∧ ¬fault.Stays := by
  obtain ⟨more, rfl⟩ := hfront
  cases front with
  | nil => exact ⟨_, rfl, Fault.not_stays_of_limit?_eq_none rfl⟩
  | cons c front =>
    obtain rfl : c = '{' := by simpa using hopen
    have hwhole := h.read (front.length + 1 + more.length + 1) [] (by simp)
    rw [List.append_nil] at hwhole
    rcases hread : readValue (front.length + 2) Host.jsonDepth ('{' :: front) with
      fault | ⟨value, rest⟩
    · refine ⟨fault, ?_, fun hstays => ?_⟩
      · rw [parse.eq_def]
        have hskip : skipSpace ('{' :: front) = '{' :: front := rfl
        split
        · rename_i hmark
          exact absurd (List.cons.inj hmark).1 (by decide)
        · rw [hskip, List.length_cons, hread]
      · have hkept : ∃ fault', readValue _ Host.jsonDepth ('{' :: front ++ more) = .error fault' :=
          readValue_keeps (keepsFaults_all (front.length + 1)) (Nat.le_add_right _ more.length)
            hread hstays
        obtain ⟨fault', hfault'⟩ := hkept
        rw [hfault'] at hwhole
        cases hwhole
    · exfalso
      have hnumber : ¬IsNumberStart ('{' :: front) := by
        rintro ⟨d, ds, hd, heq | heq⟩
        · obtain ⟨rfl, -⟩ := List.cons.inj heq
          exact absurd hd (by decide)
        · exact absurd (List.cons.inj heq).1 (by decide)
      have hmore : readValue (front.length + 1 + more.length + 1) Host.jsonDepth
          ('{' :: front ++ more) = .ok (value, rest ++ more) :=
        readValue_append (extends_all (front.length + 1)) (Nat.le_add_right _ more.length)
          (fun hstart => absurd hstart hnumber) hread
      rw [hmore] at hwhole
      obtain ⟨-, hrest⟩ := Prod.mk.inj (Except.ok.inj hwhole)
      rw [List.append_eq_nil_iff] at hrest
      exact hne (by simp [hrest.2])

end ProtocolBindings.Json
