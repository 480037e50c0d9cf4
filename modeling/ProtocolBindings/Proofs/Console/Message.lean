import Mathlib.Data.List.Basic
import Mathlib.Data.List.TakeWhile
import ProtocolBindings.Console.Message
import ProtocolBindings.Proofs.Text.Trim

/-!
# Messages that can be shown

A message can be shown if its tags come in pairs, each around a text without a bracket, and name
styles that can be read.
-/

namespace ProtocolBindings

namespace Markup

variable {cs body before inside style rest : List Char} {n : Nat}

/-- A text in which no tag begins and that does not hide one. -/
def IsPlain (cs : List Char) : Prop :=
  ∀ c ∈ cs, c ≠ '[' ∧ c ≠ '\\'

instance (cs : List Char) : Decidable (IsPlain cs) :=
  List.decidableBAll (fun c => c ≠ '[' ∧ c ≠ '\\') cs

/-- The words of a tag that opens a style, which the same words behind a slash close. -/
structure IsStyleTag (style : List Char) : Prop where
  begins : beginsTag (style.headD ']') = true
  head?_ne : style.head? ≠ some '/' ∧ style.head? ≠ some '@'
  forall_ne : ∀ c ∈ style, (c ≠ '[' ∧ c ≠ ']') ∧ c ≠ '='
  trim_eq : Text.trim style = style
  nameOf_eq : State.nameOf style = .ok style
  isReadable : Console.isReadable style = true

instance (style : List Char) : Decidable (IsStyleTag style) :=
  have : Decidable (∀ c ∈ style, (c ≠ '[' ∧ c ≠ ']') ∧ c ≠ '=') :=
    List.decidableBAll (fun c => (c ≠ '[' ∧ c ≠ ']') ∧ c ≠ '=') style
  decidable_of_iff (beginsTag (style.headD ']') = true ∧
      (style.head? ≠ some '/' ∧ style.head? ≠ some '@') ∧
        (∀ c ∈ style, (c ≠ '[' ∧ c ≠ ']') ∧ c ≠ '=') ∧ Text.trim style = style ∧
          State.nameOf style = .ok style ∧ Console.isReadable style = true)
    ⟨fun ⟨h₁, h₂, h₃, h₄, h₅, h₆⟩ => ⟨h₁, h₂, h₃, h₄, h₅, h₆⟩,
      fun ⟨h₁, h₂, h₃, h₄, h₅, h₆⟩ => ⟨h₁, h₂, h₃, h₄, h₅, h₆⟩⟩

/-- A message whose tags come in pairs around plain texts. -/
inductive IsPaired : List Char → Prop where
  | text {cs : List Char} (h : '[' ∉ cs) : IsPaired cs
  | tagged {before style inside rest : List Char} (hbefore : IsPlain before)
      (hstyle : IsStyleTag style) (hinside : IsPlain inside) (hrest : IsPaired rest) :
      IsPaired (before ++ '[' :: (style ++ ']' :: (inside ++ '[' :: '/' :: (style ++ ']' :: rest))))

theorem IsPlain.notMem (h : IsPlain cs) : '[' ∉ cs :=
  fun hmem => (h _ hmem).1 rfl

theorem IsPlain.append {cs' : List Char} (h : IsPlain cs) (h' : IsPlain cs') :
    IsPlain (cs ++ cs') :=
  List.forall_mem_append.2 ⟨h, h'⟩

theorem isPlain_toString (n : Nat) : IsPlain (toString n).toList := by
  intro c hc
  have hdigit : c.isDigit = true := by
    have hmem : c ∈ Nat.toDigits 10 n := by simpa [Nat.repr] using hc
    exact Nat.isDigit_of_mem_toDigits (by decide) (by decide) hmem
  constructor
  · rintro rfl
    cases hdigit
  · rintro rfl
    cases hdigit

theorem IsPlain.isPaired (h : IsPlain cs) : IsPaired cs :=
  .text h.notMem

/-! ## Pieces -/

theorem tagBody?_append (hbody : ∀ c ∈ body, c ≠ '[' ∧ c ≠ ']')
    (hbegins : beginsTag (body.headD ']') = true) :
    tagBody? (body ++ ']' :: rest) = some (body, rest) := by
  have htake : (body ++ ']' :: rest).takeWhile (fun c => c != '[' && c != ']') = body := by
    rw [List.takeWhile_append_of_pos fun c hc => by simp [hbody c hc]]
    simp
  simp only [tagBody?, htake, List.drop_left, hbegins, if_true]

/-- The first tag of a message stands behind a text without brackets. -/
theorem firstTag?_append (hbefore : '[' ∉ before) (hbody : ∀ c ∈ body, c ≠ '[' ∧ c ≠ ']')
    (hbegins : beginsTag (body.headD ']') = true) :
    firstTag? (before ++ '[' :: (body ++ ']' :: rest)) = some (before, body, rest) := by
  induction before with
  | nil => simp [firstTag?, tagBody?_append hbody hbegins]
  | cons c before ih =>
    rw [List.mem_cons, not_or] at hbefore
    have hc : (c == '[') = false := beq_eq_false_iff_ne.2 (Ne.symm hbefore.1)
    simp [firstTag?, hc, ih hbefore.2]

theorem IsPlain.trimEndWhile_eq (h : IsPlain cs) : Text.trimEndWhile (· == '\\') cs = cs :=
  Text.trimEndWhile_of_getLast? fun c hc => by simpa using (h c (List.mem_of_getLast? hc)).2

/-- A tag with no backslash in front of it divides a message. -/
theorem piecesWithin_of_firstTag? (h : firstTag? cs = some (before, body, rest))
    (hbefore : IsPlain before) :
    piecesWithin (n + 1) cs = .text before :: .text [] :: .tag body :: piecesWithin n rest := by
  rw [piecesWithin, h]
  simp only [hbefore.trimEndWhile_eq, Nat.sub_self]
  rfl

/-! ## Reading -/

def State.behind (s : State) (cs : List Char) : State :=
  { s with text := s.text ++ shown cs }

theorem openTag_of_isStyleTag (h : IsStyleTag style) (s : State) :
    s.read (.tag style) =
      .ok { s with opened := ⟨s.text.length, style, none⟩ :: s.opened } := by
  have htake : style.takeWhile (· != '=') = style :=
    List.takeWhile_eq_self_iff.2 fun c hc => by simpa using (h.forall_ne c hc).2
  have hparameters : style.contains '=' = false := by
    rw [List.contains_eq_mem]
    exact decide_eq_false fun hmem => (h.forall_ne _ hmem).2 rfl
  have hread : s.read (.tag style) = s.openTag style := by
    cases style with
    | nil => rfl
    | cons c rest =>
      have hc : c ≠ '/' := fun hc => h.head?_ne.1 (by rw [hc]; rfl)
      simp only [State.read]
      split
      · rename_i heq
        cases heq
      · rename_i heq
        cases heq
        exact absurd rfl hc
      · rename_i heq
        cases heq
        rfl
  rw [hread, State.openTag]
  simp only [htake, hparameters, h.nameOf_eq]
  rfl

theorem closeTag_of_isStyleTag (h : IsStyleTag style) {s : State} {start : Nat}
    (hopened : s.opened = [⟨start, style, none⟩]) :
    s.read (.tag ('/' :: style)) =
      .ok { s with opened := [], spans := s.spanOf ⟨start, style, none⟩ :: s.spans } := by
  have htake : style.takeWhile (· != '=') = style :=
    List.takeWhile_eq_self_iff.2 fun c hc => by simpa using (h.forall_ne c hc).2
  have hne : style.isEmpty = false := by
    cases style with
    | nil => exact absurd h.begins (by decide)
    | cons c rest => rfl
  have hevent : (style.head? != some '@') = true := bne_iff_ne.2 h.head?_ne.2
  simp only [State.read, State.closeTag, htake, h.trim_eq, hne, h.nameOf_eq, hopened]
  simp [bind, Except.bind, pure, Except.pure, State.finish, hevent, State.spanOf]

/-- The state behind a text and another one between the tags of a style, with no other tag open. -/
def State.tagged (s : State) (before style inside : List Char) : State :=
  let first := (s.behind before).behind []
  let last := (first.behind inside).behind []
  { last with
    opened := []
    spans := last.spanOf ⟨first.text.length, style, none⟩ :: last.spans }

/-- The tags of a style around a plain text are read in a row. -/
theorem foldlM_piecesWithin_tagged (hbefore : IsPlain before) (hstyle : IsStyleTag style)
    (hinside : IsPlain inside) {s : State} (hopened : s.opened = []) :
    (piecesWithin (n + 2) (before ++ '[' :: (style ++ ']' :: (inside ++ '[' :: '/' ::
        (style ++ ']' :: rest))))).foldlM State.read s =
      (piecesWithin n rest).foldlM State.read (s.tagged before style inside) := by
  have hbody : ∀ c ∈ style, c ≠ '[' ∧ c ≠ ']' := fun c hc => (hstyle.forall_ne c hc).1
  have hclosing : ∀ c ∈ '/' :: style, c ≠ '[' ∧ c ≠ ']' :=
    List.forall_mem_cons.2 ⟨by decide, hbody⟩
  rw [piecesWithin_of_firstTag? (firstTag?_append hbefore.notMem hbody hstyle.begins) hbefore,
    ← List.cons_append,
    piecesWithin_of_firstTag? (firstTag?_append hinside.notMem hclosing rfl) hinside]
  let s₁ := (s.behind before).behind []
  let tag : Opened := ⟨s₁.text.length, style, none⟩
  let s₂ := ({ s₁ with opened := [tag] }.behind inside).behind []
  have hopen : s₁.read (.tag style) = .ok { s₁ with opened := [tag] } := by
    rw [openTag_of_isStyleTag hstyle, show s₁.opened = [] from hopened]
  have hclose := closeTag_of_isStyleTag hstyle (s := s₂) rfl
  change (s₁.read (.tag style) >>= _) = _
  rw [hopen]
  change (s₂.read (.tag ('/' :: style)) >>= _) = _
  rw [hclose]
  rfl

/-- Reading a paired message from a state without open tags leaves none open, and every stretch that
it adds is that of a style that can be read. -/
theorem exists_foldlM_eq_ok (h : IsPaired cs) (hn : cs.length < n) {s : State}
    (hopened : s.opened = []) : ∃ s', (piecesWithin n cs).foldlM State.read s = .ok s' ∧
      s'.opened = [] ∧
        ∀ span ∈ s'.spans, span ∈ s.spans ∨ Console.isReadable span.style = true := by
  induction h generalizing n s with
  | @text cs hcs =>
    obtain ⟨n, rfl⟩ := Nat.exists_eq_succ_of_ne_zero (Nat.ne_zero_of_lt hn)
    rw [piecesWithin, firstTag?_eq_none hcs]
    exact ⟨_, rfl, hopened, fun span hspan => Or.inl hspan⟩
  | @tagged before style inside rest hbefore hstyle hinside hrest ih =>
    obtain ⟨n, rfl⟩ : ∃ k, n = k + 2 := by
      simp only [List.length_append, List.length_cons] at hn
      exact ⟨n - 2, by omega⟩
    have hlength : rest.length < n := by
      simp only [List.length_append, List.length_cons] at hn
      omega
    obtain ⟨s', hrun, hopened', hspans⟩ := ih hlength (s := s.tagged before style inside) rfl
    refine ⟨s', ?_, hopened', fun span hspan => ?_⟩
    · rw [foldlM_piecesWithin_tagged hbefore hstyle hinside hopened, hrun]
    · rcases hspans span hspan with hmem | hreadable
      · rcases List.mem_cons.1 hmem with rfl | hmem
        · exact Or.inr hstyle.isReadable
        · exact Or.inl hmem
      · exact Or.inr hreadable

theorem exists_read_eq_ok {message : String} (h : IsPaired message.toList) : ∃ styled,
    read message = .ok styled ∧ ∀ span ∈ styled.spans, Console.isReadable span.style = true := by
  obtain ⟨s, hrun, hopened, hspans⟩ :=
    exists_foldlM_eq_ok h (Nat.lt_succ_self _) (s := {}) rfl
  have hread : read message = .ok ⟨s.text, s.spans⟩ := by
    rw [read, pieces, hrun]
    simp [hopened, bind, Except.bind, pure, Except.pure]
  refine ⟨_, hread, fun span hspan => ?_⟩
  rcases hspans span hspan with hmem | hreadable
  · cases hmem
  · exact hreadable

end Markup

namespace Console

variable [Host]

/-- A message whose tags come in pairs around plain texts can be shown. -/
theorem exists_render_eq_ok {message : String} (h : Markup.IsPaired message.toList) :
    ∃ text, render message = .ok text := by
  obtain ⟨styled, hread, hspans⟩ := Markup.exists_read_eq_ok h
  have hreadable : (styled.spans.filter (isLookedAt Host.width styled.text)).all
      (isReadable ·.style) = true := by
    rw [List.all_eq_true]
    exact fun span hspan => hspans span (List.mem_of_mem_filter hspan)
  refine ⟨textOf ((Layout.lines Host.width styled.text).map String.ofList), ?_⟩
  rw [render, lines, hread]
  change textOf <$> (if _ then _ else _) = _
  rw [if_pos hreadable]
  rfl

end Console

end ProtocolBindings
