import ProtocolBindings.Proofs.Console.Emoji
import ProtocolBindings.Proofs.Console.Layout
import ProtocolBindings.Proofs.Console.Message
import ProtocolBindings.Proofs.Results

/-!
# Messages that are shown as they are written

A console shows a message as it is written if it finds in it nothing that it takes for something
else: no tag, no backslash that hides an opening bracket, no name of an emoji and no character that
is not shown.  In exactly the other cases some of the message is lost.
-/

namespace ProtocolBindings

open Console

namespace Markup

variable {cs body before rest : List Char} {s s' : State} {n : Nat}

/-! ## Parts of text -/

theorem loses_unescape (cs : List Char) : Loses cs (unescape cs) := by
  fun_induction unescape cs with
  | case1 rest ih =>
    refine Or.inr ?_
    have hle := ih.le
    have hmark : isMark '\\' = true := by decide
    have hmark' : isMark '[' = true := by decide
    simp only [marks_cons_of_isMark hmark, marks_cons_of_isMark hmark']
    omega
  | case2 c rest _ ih => exact ih.cons c
  | case3 => exact .refl []

/-- A text is left as it is exactly if it has no backslash in front of an opening bracket. -/
theorem unescape_eq_self_iff : unescape cs = cs ↔ ¬ ['\\', '['] <:+: cs := by
  fun_induction unescape cs with
  | case1 rest ih =>
    refine iff_of_false (fun h => ?_) (not_not.2 ⟨[], rest, rfl⟩)
    cases (List.cons.inj h).1
  | case2 c rest hnot ih =>
    rw [List.cons_inj_right, ih, List.infix_cons_iff, not_or, iff_and_self]
    rintro - ⟨behind, hprefix⟩
    obtain ⟨rfl, hrest⟩ := List.cons.inj hprefix
    exact hnot behind rfl hrest.symm
  | case3 => simp

theorem loses_filter_isControl (cs : List Char) : Loses cs (cs.filter (!isControl ·)) := by
  induction cs with
  | nil => exact .refl []
  | cons c rest ih =>
    rw [List.filter_cons]
    split
    · exact ih.cons c
    · rename_i hc
      have hmark : isMark c = true := by
        rw [isMark, (by simpa using hc : isControl c = true), Bool.or_true]
      refine Or.inr ?_
      rw [marks_cons_of_isMark hmark]
      exact Nat.lt_succ_of_le ih.le

theorem loses_shown (cs : List Char) : Loses cs (shown cs) :=
  ((loses_unescape cs).trans (Emoji.loses_replace _)).trans (loses_filter_isControl _)

/-- A part of text is shown as it is exactly if nothing in it is undone, replaced or left out. -/
theorem shown_eq_self_iff : shown cs = cs ↔
    ¬ ['\\', '['] <:+: cs ∧ ¬ Emoji.NamesEmoji cs ∧ ∀ c ∈ cs, isControl c = false := by
  rw [← unescape_eq_self_iff, ← Emoji.replace_eq_self_iff]
  constructor
  · intro h
    have hall : marks cs = marks (shown cs) := by rw [h]
    have hunescape : unescape cs = cs := by
      refine (loses_unescape cs).eq_of_le ?_
      rw [hall]
      exact ((Emoji.loses_replace _).trans (loses_filter_isControl _)).le
    rw [shown, hunescape] at h
    have hreplace : Emoji.replace cs = cs := by
      refine (Emoji.loses_replace cs).eq_of_le ?_
      conv_lhs => rw [← h]
      exact (loses_filter_isControl _).le
    rw [hreplace, List.filter_eq_self] at h
    exact ⟨hunescape, hreplace, fun c hc => by simpa using h c hc⟩
  · rintro ⟨hunescape, hreplace, hcontrol⟩
    rw [shown, hunescape, hreplace, List.filter_eq_self]
    exact fun c hc => by simpa using hcontrol c hc

/-! ## Tags -/

/-- A text holds a tag: a part between brackets that begins as a tag does. -/
def HoldsTag (cs : List Char) : Prop :=
  ∃ before body rest, cs = before ++ '[' :: (body ++ ']' :: rest) ∧
    (∀ c ∈ body, c ≠ '[' ∧ c ≠ ']') ∧ beginsTag (body.headD ']') = true

theorem tagBody?_eq_some (h : tagBody? cs = some (body, rest)) :
    cs = body ++ ']' :: rest ∧ (∀ c ∈ body, c ≠ '[' ∧ c ≠ ']') ∧
      beginsTag (body.headD ']') = true := by
  rw [tagBody?] at h
  split at h
  · rename_i behind hdrop
    split at h
    · rename_i hbegins
      cases h
      refine ⟨?_, fun c hc => ?_, hbegins⟩
      · rw [← hdrop]
        exact (List.prefix_iff_eq_append.1 (List.takeWhile_prefix _)).symm
      · simpa using List.mem_takeWhile_imp hc
    · cases h
  · cases h

/-- What is found as the first tag is one. -/
theorem eq_of_firstTag? (h : firstTag? cs = some (before, body, rest)) :
    cs = before ++ '[' :: (body ++ ']' :: rest) ∧ (∀ c ∈ body, c ≠ '[' ∧ c ≠ ']') ∧
      beginsTag (body.headD ']') = true := by
  induction cs generalizing before with
  | nil => cases h
  | cons c cs ih =>
    rw [firstTag?] at h
    split at h
    · rename_i htag
      cases h
      split at htag
      · rename_i hc
        obtain ⟨rfl, hbody⟩ := tagBody?_eq_some htag
        exact ⟨by rw [eq_of_beq hc]; rfl, hbody⟩
      · cases htag
    · obtain ⟨⟨before', body', rest'⟩, hfirst, heq⟩ := Option.map_eq_some_iff.1 h
      cases heq
      obtain ⟨rfl, hbody⟩ := ih hfirst
      exact ⟨rfl, hbody⟩

/-- A tag takes away the bracket that begins it. -/
theorem marks_of_firstTag? (h : firstTag? cs = some (before, body, rest)) :
    marks cs = marks before + (marks body + marks rest + 1) := by
  rw [(eq_of_firstTag? h).1, marks_append, marks_cons_of_isMark (by decide), marks_append,
    marks_cons _ rest, if_neg (by decide)]
  rfl

theorem length_lt_of_firstTag? (h : firstTag? cs = some (before, body, rest)) :
    rest.length < cs.length := by
  have hlength := congrArg List.length (eq_of_firstTag? h).1
  simp only [List.length_append, List.length_cons] at hlength
  omega

/-- A tag is found exactly if there is one. -/
theorem firstTag?_eq_none_iff : firstTag? cs = none ↔ ¬ HoldsTag cs := by
  constructor
  · rintro h ⟨before, body, rest, rfl, hbody, hbegins⟩
    induction before with
    | nil => simp [firstTag?, tagBody?_append hbody hbegins] at h
    | cons c before ih =>
      rw [List.cons_append, firstTag?] at h
      split at h
      · cases h
      · exact ih (Option.map_eq_none_iff.1 h)
  · intro h
    cases hfirst : firstTag? cs with
    | none => rfl
    | some tag =>
      obtain ⟨before, body, rest⟩ := tag
      exact absurd ⟨before, body, rest, eq_of_firstTag? hfirst⟩ h

/-! ## Reading -/

theorem State.text_of_finish {tag : Opened} (h : s.finish tag = .ok s') : s'.text = s.text := by
  rw [finish] at h
  split at h
  · cases h
    rfl
  · split at h
    · cases h
      rfl
    · cases h

theorem State.text_of_closeTag (h : s.closeTag body = .ok s') : s'.text = s.text := by
  have hfinish {opened : List Opened} {tag : Opened}
      (h : finish { s with opened := opened } tag = .ok s') : s'.text = s.text := by
    rw [text_of_finish h]
  simp only [closeTag, pure_bind] at h
  split at h
  · split at h
    · exact hfinish h
    · cases h
  · obtain ⟨name, -, h⟩ := Results.bind_eq_ok_iff.1 h
    split at h
    · exact hfinish h
    · cases h

theorem State.text_of_openTag (h : s.openTag body = .ok s') : s'.text = s.text := by
  rw [openTag, Results.bind_eq_ok_iff] at h
  obtain ⟨name, -, h⟩ := h
  cases h
  rfl

/-- A tag does not add to the text. -/
theorem State.text_of_read_tag (h : s.read (.tag body) = .ok s') : s'.text = s.text := by
  simp only [read] at h
  split at h
  · rename_i heq
    cases heq
  · exact text_of_closeTag h
  · rename_i heq
    cases heq
    exact text_of_openTag h

/-- The backslashes at the end of a text are marks. -/
theorem marks_trimEndWhile_add (cs : List Char) :
    marks (Text.trimEndWhile (· == '\\') cs) +
      (cs.length - (Text.trimEndWhile (· == '\\') cs).length) = marks cs := by
  obtain ⟨tail, htail, hslashes⟩ := Text.exists_trimEndWhile_append (· == '\\') cs
  have hmarks : marks tail = tail.length :=
    List.countP_eq_length.2 fun c hc => by rw [eq_of_beq (hslashes c hc)]; decide
  conv_rhs => rw [← htail, marks_append, hmarks]
  conv_lhs => rw [← htail, List.length_append, htail, Nat.add_sub_cancel_left]

/-- A tag behind an odd number of backslashes is a part of text. -/
theorem State.exists_of_read_tag {slashes : Nat}
    (h : s.read (if slashes % 2 == 1 then .text ('[' :: body ++ [']']) else .tag body) = .ok s') :
    ∃ added, s'.text = s.text ++ added ∧ marks added ≤ marks body + slashes % 2 := by
  split at h
  · rename_i hodd
    cases h
    refine ⟨_, rfl, (loses_shown _).le.trans ?_⟩
    rw [List.cons_append, marks_cons_of_isMark (by decide), marks_append, eq_of_beq hodd]
    exact Nat.le_refl _
  · exact ⟨[], by rw [text_of_read_tag h, List.append_nil], Nat.zero_le _⟩

/-- Reading a text adds to what is shown no more marks than the text holds, and fewer if there is a
tag in it.  A text without a tag is one part of text. -/
theorem exists_of_foldlM_piecesWithin (hn : cs.length < n)
    (h : (piecesWithin n cs).foldlM State.read s = .ok s') : ∃ added,
      s'.text = s.text ++ added ∧ marks added ≤ marks cs ∧
        (HoldsTag cs → marks added < marks cs) ∧ (¬ HoldsTag cs → added = shown cs) := by
  induction n generalizing cs s with
  | zero => exact absurd hn (Nat.not_lt_zero _)
  | succ n ih =>
    rw [piecesWithin] at h
    cases hfirst : firstTag? cs with
    | none =>
      rw [hfirst] at h
      cases h
      refine ⟨shown cs, rfl, (loses_shown cs).le, fun htag => ?_, fun _ => rfl⟩
      exact absurd htag (firstTag?_eq_none_iff.1 hfirst)
    | some tag =>
      obtain ⟨before, body, rest⟩ := tag
      have htag : HoldsTag cs := ⟨before, body, rest, eq_of_firstTag? hfirst⟩
      have hmarks := marks_of_firstTag? hfirst
      have hrest : rest.length < n :=
        Nat.lt_of_lt_of_le (length_lt_of_firstTag? hfirst) (Nat.le_of_lt_succ hn)
      have hbefore := marks_trimEndWhile_add before
      rw [hfirst] at h
      simp only [List.foldlM_cons, Results.bind_eq_ok_iff] at h
      generalize Text.trimEndWhile (· == '\\') before = front at h hbefore
      generalize before.length - front.length = slashes at h hbefore
      obtain ⟨s₁, ⟨⟩, s₂, ⟨⟩, s₃, hlast, h⟩ := h
      obtain ⟨inside, hinside, hinsideMarks⟩ := State.exists_of_read_tag hlast
      obtain ⟨added, hadded, haddedMarks, -⟩ := ih hrest h
      have hlt : marks (shown front ++ shown (List.replicate (slashes / 2) '\\') ++ inside ++
          added) < marks cs := by
        have hfront := (loses_shown front).le
        have hhalf := (loses_shown (List.replicate (slashes / 2) '\\')).le
        rw [marks_replicate (by decide)] at hhalf
        simp only [marks_append]
        omega
      refine ⟨_, ?_, Nat.le_of_lt hlt, fun _ => hlt, fun hnot => absurd htag hnot⟩
      rw [hadded, hinside]
      simp only [List.append_assoc]

/-- Nothing in a text is taken for something else than itself. -/
structure IsVerbatim (cs : List Char) : Prop where
  noTag : ¬ HoldsTag cs
  noEscape : ¬ ['\\', '['] <:+: cs
  noEmoji : ¬ Emoji.NamesEmoji cs
  noControl : ∀ c ∈ cs, isControl c = false

theorem isVerbatim_iff : IsVerbatim cs ↔ ¬ HoldsTag cs ∧ shown cs = cs := by
  rw [shown_eq_self_iff]
  exact ⟨fun ⟨h₁, h₂, h₃, h₄⟩ => ⟨h₁, h₂, h₃, h₄⟩, fun ⟨h₁, h₂, h₃, h₄⟩ => ⟨h₁, h₂, h₃, h₄⟩⟩

theorem holdsTag_space_cons_iff : HoldsTag (' ' :: cs) ↔ HoldsTag cs := by
  constructor
  · rintro ⟨before, body, rest, heq, hbody⟩
    cases before with
    | nil => cases (List.cons.inj heq).1
    | cons c before => exact ⟨before, body, rest, (List.cons.inj heq).2, hbody⟩
  · rintro ⟨before, body, rest, rfl, hbody⟩
    exact ⟨' ' :: before, body, rest, rfl, hbody⟩

theorem isVerbatim_space_cons_iff : IsVerbatim (' ' :: cs) ↔ IsVerbatim cs := by
  have hescape : ['\\', '['] <:+: ' ' :: cs ↔ ['\\', '['] <:+: cs := by
    rw [List.infix_cons_iff]
    refine or_iff_right ?_
    rintro ⟨behind, hprefix⟩
    cases (List.cons.inj hprefix).1
  have hemoji : Emoji.NamesEmoji (' ' :: cs) ↔ Emoji.NamesEmoji cs :=
    Emoji.namesEmoji_cons_iff_of_none fun h => by cases h
  rw [isVerbatim_iff, isVerbatim_iff, shown_eq_self_iff, shown_eq_self_iff,
    holdsTag_space_cons_iff, hescape, hemoji, List.forall_mem_cons]
  simp [isControl]

/-- A text that is shown with all its marks is shown as it is. -/
theorem isVerbatim_of_foldlM_piecesWithin (hn : cs.length < n)
    (h : (piecesWithin n cs).foldlM State.read s = .ok s')
    (hmarks : marks (s.text ++ cs) ≤ marks s'.text) : IsVerbatim cs ∧ s'.text = s.text ++ cs := by
  obtain ⟨added, htext, -, htag, hnone⟩ := exists_of_foldlM_piecesWithin hn h
  rw [htext, marks_append, marks_append, Nat.add_le_add_iff_left] at hmarks
  have hnot : ¬ HoldsTag cs := fun hholds => Nat.not_lt.2 hmarks (htag hholds)
  obtain rfl := hnone hnot
  have hshown := (loses_shown cs).eq_of_le hmarks
  exact ⟨isVerbatim_iff.2 ⟨hnot, hshown⟩, by rw [htext, hshown]⟩

theorem foldlM_piecesWithin_of_isVerbatim (h : IsVerbatim cs) (s : State) :
    (piecesWithin (n + 1) cs).foldlM State.read s = .ok { s with text := s.text ++ cs } := by
  obtain ⟨htag, hshown⟩ := isVerbatim_iff.1 h
  rw [piecesWithin, firstTag?_eq_none_iff.2 htag]
  conv_rhs => rw [← hshown]
  rfl

end Markup

namespace Console

open Markup

variable {label message text : String}

/-- A label in front of a message, between the tags of a colour. -/
def labelled (label message : String) : String :=
  "[red]" ++ label ++ ":[/red] " ++ message

/-- A label that is shown as it is. -/
structure IsLabel (label : String) : Prop where
  isPlain : IsPlain (label ++ ":").toList
  shown_eq : shown (label ++ ":").toList = (label ++ ":").toList

theorem read_labelled (h : IsLabel label) (message : String) : ∃ n spans,
    (' ' :: message.toList).length < n + 1 ∧ (∀ span ∈ spans, isReadable span.style = true) ∧
      Markup.read (labelled label message) = (do
        let s ← (piecesWithin (n + 1) (' ' :: message.toList)).foldlM State.read
          { text := (label ++ ":").toList, spans }
        return ⟨s.text, s.spans ++ s.opened.map s.spanOf⟩) := by
  have hstyle : IsStyleTag "red".toList := by decide
  have htext : (labelled label message).toList = [] ++ '[' :: ("red".toList ++ ']' ::
      ((label ++ ":").toList ++ '[' :: '/' :: ("red".toList ++ ']' :: ' ' :: message.toList))) := by
    simp [labelled, String.toList_append]
  obtain ⟨n, hn⟩ : ∃ n, (labelled label message).toList.length = n + 2 := by
    refine ⟨(labelled label message).toList.length - 2, ?_⟩
    rw [htext]
    simp only [List.nil_append, List.length_cons, List.length_append]
    omega
  have htagged : ({} : State).tagged [] "red".toList (label ++ ":").toList =
      { text := (label ++ ":").toList,
        spans := [⟨0, (label ++ ":").toList.length, "red".toList⟩] } := by
    have hnil : shown [] = [] := rfl
    simp only [State.tagged, State.behind, State.spanOf, Opened.style, h.shown_eq, hnil,
      List.append_nil, List.nil_append, List.length_nil]
  refine ⟨n, [⟨0, (label ++ ":").toList.length, "red".toList⟩], ?_, ?_, ?_⟩
  · rw [htext] at hn
    simp only [List.nil_append, List.length_cons, List.length_append] at hn
    rw [List.length_cons]
    omega
  · simpa using hstyle.isReadable
  · rw [Markup.read, pieces, hn, htext, foldlM_piecesWithin_tagged (by decide) hstyle h.isPlain rfl,
      htagged]

theorem toList_textOf (lines : List (List Char)) :
    (textOf (lines.map String.ofList)).toList = lines.flatMap (· ++ ['\n']) := by
  induction lines with
  | nil => rfl
  | cons line rest ih =>
    rw [textOf] at ih
    rw [textOf, List.map_cons, List.map_cons, String.join_cons, String.toList_append, ih]
    simp [String.toList_append]

variable [Host]

theorem render_eq_ok_iff : render message = .ok text ↔ ∃ styled,
    Markup.read message = .ok styled ∧
      (styled.spans.filter (isLookedAt Host.width styled.text)).all (isReadable ·.style) = true ∧
        text.toList = (Layout.lines Host.width styled.text).flatMap (· ++ ['\n']) := by
  change (lines Host.width message).map textOf = .ok text ↔ _
  simp only [Results.map_eq_ok_iff, lines, Results.bind_eq_ok_iff]
  constructor
  · rintro ⟨shown, ⟨styled, hstyled, hlines⟩, rfl⟩
    split at hlines
    · rename_i hreadable
      cases hlines
      exact ⟨styled, hstyled, hreadable, toList_textOf _⟩
    · cases hlines
  · rintro ⟨styled, hstyled, hreadable, htext⟩
    refine ⟨_, ⟨styled, hstyled, if_pos hreadable⟩, String.toList_inj.1 ?_⟩
    rw [toList_textOf, htext]

/-- What is shown of a message under a label is the message as it is written exactly if nothing in
it is taken for something else and each line fits. -/
theorem render_labelled_eq_iff (h : IsLabel label) :
    render (labelled label message) = .ok (label ++ ": " ++ message ++ "\n") ↔
      IsVerbatim message.toList ∧
        ∀ line ∈ Text.pieces (· == '\n') (label ++ ": " ++ message).toList,
          Layout.Fits Host.width line := by
  obtain ⟨n, spans, hn, hspans, hread⟩ := read_labelled h message
  have hwhole : (label ++ ": " ++ message).toList =
      (label ++ ":").toList ++ ' ' :: message.toList := by
    simp [String.toList_append]
  rw [← isVerbatim_space_cons_iff, ← Layout.lines_eq_self_iff, hwhole]
  constructor
  · intro hrender
    obtain ⟨styled, hstyled, -, htext⟩ := render_eq_ok_iff.1 hrender
    rw [hread] at hstyled
    obtain ⟨s, hrun, hresult⟩ := Results.bind_eq_ok_iff.1 hstyled
    cases hresult
    rw [String.toList_append, hwhole] at htext
    have hmarks : marks ((label ++ ":").toList ++ ' ' :: message.toList) ≤ marks s.text := by
      have hle := Layout.countP_lines_le (q := isMark) (by decide) (by decide) Host.width s.text
      rw [← htext, ← marks, marks_append] at hle
      exact Nat.le_trans (Nat.le_add_right _ _) hle
    obtain ⟨hverbatim, hshown⟩ := isVerbatim_of_foldlM_piecesWithin hn hrun hmarks
    rw [hshown] at htext
    exact ⟨hverbatim, htext.symm⟩
  · rintro ⟨hverbatim, hlines⟩
    rw [foldlM_piecesWithin_of_isVerbatim hverbatim] at hread
    refine render_eq_ok_iff.2 ⟨_, hread, ?_, ?_⟩
    · rw [List.all_eq_true]
      intro span hspan
      exact hspans span (by simpa using List.mem_of_mem_filter hspan)
    · rw [String.toList_append, hwhole]
      exact hlines.symm

end Console

end ProtocolBindings
