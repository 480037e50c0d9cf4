import ProtocolBindings.Proofs.Console.Marks
import ProtocolBindings.Proofs.Text.Lowercase

/-!
# Emoji in place of their names

A text is left as it is exactly if it names no emoji.  No emoji holds a mark, so a text loses the
colons around each name that is replaced.
-/

namespace ProtocolBindings.Emoji

open Console

variable {name emoji cs front rest after : List Char} {found : Mention} {n : Nat}

/-! ## The table -/

/-- The numbers of characters that are no marks. -/
def isPrinted (n : Nat) : Bool :=
  (Nat.blt 32 n && Nat.blt n 58) || Nat.blt 92 n

theorem isMark_ofNat_eq_false {n : Nat} (h : isPrinted n = true) :
    isMark (Char.ofNat n) = false := by
  refine Bool.eq_false_iff.2 fun hmark => ?_
  have hmarks : isPrinted (Char.ofNat n).toNat = false ∧ (Char.ofNat n).toNat ≠ 0 := by
    simp only [isMark, Markup.isControl, Bool.or_eq_true, beq_iff_eq] at hmark
    rcases hmark with ((hc | hc) | hc) | ((((hc | hc) | hc) | hc) | hc) <;> rw [hc] <;> decide
  rcases Text.toNat_ofNat_eq_or_eq_zero n with hn | hzero
  · rw [hn, h] at hmarks
    cases hmarks.1
  · exact hmarks.2 hzero

/-- Puts a character in front of the first piece. -/
def onHead (c : Char) (others : List (List Char)) : List (List Char) :=
  List.rec [[c]] (fun piece rest _ => (c :: piece) :: rest) others

/-- The pieces of a text by the recursor of lists, which is evaluated faster than matching. -/
def piecesBy (p : Char → Bool) (cs : List Char) : List (List Char) :=
  List.rec [[]] (fun c _ others => (p c).rec (onHead c others) ([] :: others)) cs

theorem piecesBy_eq (p : Char → Bool) (cs : List Char) : piecesBy p cs = Text.pieces p cs := by
  induction cs with
  | nil => rfl
  | cons c rest ih =>
    have hstep : piecesBy p (c :: rest) =
        if p c then [] :: piecesBy p rest else onHead c (piecesBy p rest) := by
      cases hc : p c <;> simp [piecesBy, hc]
    rw [hstep, ih, Text.pieces]
    cases Text.pieces p rest <;> rfl

def numbersOf (codes : List Char) : List Nat :=
  (piecesBy (· == '-') codes).map fun code =>
    code.foldl (fun n c => 16 * n + (Text.hexValue? c).getD 0) 0

theorem charsOfCodes_eq (codes : List Char) :
    charsOfCodes codes = (numbersOf codes).map Char.ofNat := by
  rw [charsOfCodes, numbersOf, piecesBy_eq, List.map_map]
  rfl

/-- Those of the words of a line that are code points. -/
def codesOf : List (List Char) → List (List Char)
  | _ :: codes :: rest => codes :: codesOf rest
  | _ => []

theorem exists_mem_codesOf {words : List (List Char)} {pair : List Char × List Char}
    (h : pair ∈ pairsOf words) : ∃ codes ∈ codesOf words, pair.2 = charsOfCodes codes := by
  fun_induction pairsOf words with
  | case1 name codes rest ih =>
    rcases List.mem_cons.1 h with rfl | h
    · exact ⟨codes, List.mem_cons_self, rfl⟩
    · obtain ⟨codes', hcodes, hpair⟩ := ih h
      exact ⟨codes', List.mem_cons_of_mem _ hcodes, hpair⟩
  | case2 => cases h

/-- Texts with the characters that they consist of. -/
inductive AreSpelled : List String → List (List Char) → Prop where
  | nil : AreSpelled [] []
  | cons {cs : List Char} {lines : List String} {spelled : List (List Char)}
      (h : AreSpelled lines spelled) : AreSpelled (String.ofList cs :: lines) (cs :: spelled)

theorem AreSpelled.toList_mem {lines : List String} {spelled : List (List Char)} {line : String}
    (h : AreSpelled lines spelled) (hline : line ∈ lines) : line.toList ∈ spelled := by
  induction h with
  | nil => cases hline
  | @cons cs lines spelled _ ih =>
    rcases List.mem_cons.1 hline with rfl | hline
    · rw [String.toList_ofList]
      exact List.mem_cons_self
    · exact List.mem_cons_of_mem _ (ih hline)

/-- The numbers of a line are those of characters that are no marks. -/
def isPrintedLine (cs : List Char) : Bool :=
  (codesOf ((piecesBy Text.isBlank cs).filter (!·.isEmpty))).all fun codes =>
    (numbersOf codes).all isPrinted

-- The texts are spelled first: taking one apart is the slowest part of evaluating the table.  It is
-- evaluated in two parts, of which only one takes up memory at a time.
set_option maxRecDepth 100000 in
theorem exists_areSpelled_nameTable : ∃ spelled, AreSpelled nameTable spelled ∧
    (spelled.take 800).all isPrintedLine = true ∧ (spelled.drop 800).all isPrintedLine = true := by
  apply Exists.intro
  refine ⟨?_, ?_, ?_⟩
  · repeat apply AreSpelled.cons
    exact .nil
  · decide +kernel
  · decide +kernel

/-- No emoji holds a mark. -/
theorem marks_of_find? (h : find? name = some emoji) : marks emoji = 0 := by
  obtain ⟨spelled, hspelled, hfirst, hlast⟩ := exists_areSpelled_nameTable
  have hall : spelled.all isPrintedLine = true := by
    rw [← List.take_append_drop 800 spelled, List.all_append, hfirst, hlast]
    rfl
  obtain ⟨front, back, hentries, -⟩ := List.lookup_eq_some_iff.1 h
  have hmem : (name, emoji) ∈ entries := hentries ▸ List.mem_append_right _ List.mem_cons_self
  obtain ⟨line, hline, hpair⟩ := List.mem_flatMap.1 hmem
  obtain ⟨codes, hcodes, hchars⟩ := exists_mem_codesOf hpair
  have hcodesOf := List.all_eq_true.1 hall _ (hspelled.toList_mem hline)
  rw [isPrintedLine, piecesBy_eq] at hcodesOf
  have hprinted := List.all_eq_true.1 (List.all_eq_true.1 hcodesOf codes hcodes)
  refine List.countP_eq_zero.2 fun c hc => ?_
  rw [charsOfCodes_eq] at hchars
  obtain ⟨n, hn, rfl⟩ := List.mem_map.1 (hchars ▸ hc : c ∈ (numbersOf codes).map Char.ofNat)
  rw [isMark_ofNat_eq_false (hprinted n hn)]
  exact Bool.false_ne_true

/-! ## Names -/

/-- A text names an emoji between colons, of which each is read but once. -/
inductive NamesEmoji : List Char → Prop where
  | here {rest after : List Char} {found : Mention} (h : readMention rest = some (found, after))
      (hknown : (find? (Text.lowerChars found.name)).isSome = true) : NamesEmoji (':' :: rest)
  | behind {rest after : List Char} {found : Mention} (h : readMention rest = some (found, after))
      (hafter : NamesEmoji after) : NamesEmoji (':' :: rest)
  | later {c : Char} {rest : List Char} (h : c = ':' → readMention rest = none)
      (hrest : NamesEmoji rest) : NamesEmoji (c :: rest)

theorem namesEmoji_cons_iff_of_none {c : Char} (h : c = ':' → readMention rest = none) :
    NamesEmoji (c :: rest) ↔ NamesEmoji rest := by
  refine ⟨fun hnames => ?_, .later h⟩
  cases hnames with
  | here hread hknown =>
    rw [h rfl] at hread
    cases hread
  | behind hread hafter =>
    rw [h rfl] at hread
    cases hread
  | later _ hrest => exact hrest

theorem namesEmoji_cons_iff_of_some (h : readMention rest = some (found, after)) :
    NamesEmoji (':' :: rest) ↔
      (find? (Text.lowerChars found.name)).isSome = true ∨ NamesEmoji after := by
  constructor
  · intro hnames
    cases hnames with
    | here hread hknown =>
      rw [h] at hread
      cases hread
      exact Or.inl hknown
    | behind hread hafter =>
      rw [h] at hread
      cases hread
      exact Or.inr hafter
    | later hnone _ =>
      rw [hnone rfl] at h
      cases h
  · rintro (hknown | hafter)
    · exact .here h hknown
    · exact .behind h hafter

/-! ## Replacement -/

/-- What follows a name is an end of the text, and the character that asks for a form is no mark. -/
theorem suffix_of_readMention (h : readMention cs = some (found, after)) :
    after <:+ cs ∧ marks found.selector = 0 := by
  fun_induction readMention cs generalizing found after with
  | case1 => cases h
  | case2 rest =>
    cases h
    exact ⟨List.suffix_cons _ _, rfl⟩
  | case3 rest =>
    cases h
    exact ⟨⟨"-emoji:".toList, rfl⟩, by decide⟩
  | case4 rest =>
    cases h
    exact ⟨⟨"-text:".toList, rfl⟩, by decide⟩
  | case5 => cases h
  | case6 c rest _ _ _ _ ih =>
    obtain ⟨⟨found', after'⟩, hread, heq⟩ := Option.map_eq_some_iff.1 h
    cases heq
    obtain ⟨hsuffix, hselector⟩ := ih hread
    exact ⟨hsuffix.trans (List.suffix_cons _ _), hselector⟩

theorem replaceWithin_cons_of_none {c : Char} (h : c = ':' → readMention rest = none) (n : Nat) :
    replaceWithin (n + 1) (c :: rest) = c :: replaceWithin n rest := by
  have hnone : (if c == ':' then readMention rest else none) = none := by
    split
    · rename_i hc
      exact h (eq_of_beq hc)
    · rfl
  rw [replaceWithin, hnone]

theorem replaceWithin_cons_of_some (h : readMention (front ++ after) = some (found, after))
    (n : Nat) : replaceWithin (n + 1) (':' :: (front ++ after)) =
      ((find? (Text.lowerChars found.name)).elim (':' :: front) (· ++ found.selector)) ++
        replaceWithin n after := by
  have hsome : (if (':' == ':') = true then readMention (front ++ after) else none) =
      some (found, after) := h
  have htake : (front ++ after).take ((front ++ after).length - after.length) = front := by
    rw [List.length_append, Nat.add_sub_cancel, List.take_left]
  rw [replaceWithin, hsome]
  simp only [htake]
  cases find? (Text.lowerChars found.name) with
  | none => rfl
  | some emoji => rfl

/-- A text that names an emoji loses marks, and another one stays as it is. -/
theorem marks_replaceWithin (hn : cs.length ≤ n) :
    NamesEmoji cs ∧ marks (replaceWithin n cs) < marks cs ∨
      ¬ NamesEmoji cs ∧ replaceWithin n cs = cs := by
  induction n generalizing cs with
  | zero =>
    obtain rfl := List.length_eq_zero_iff.1 (Nat.le_zero.1 hn)
    exact Or.inr ⟨by rintro ⟨⟩, rfl⟩
  | succ n ih =>
    cases cs with
    | nil => exact Or.inr ⟨by rintro ⟨⟩, rfl⟩
    | cons c rest =>
      have hrest : rest.length ≤ n := Nat.le_of_succ_le_succ hn
      by_cases hnone : c = ':' → readMention rest = none
      · rw [replaceWithin_cons_of_none hnone, namesEmoji_cons_iff_of_none hnone, marks_cons,
          marks_cons]
        rcases ih hrest with ⟨hnames, hlt⟩ | ⟨hnames, heq⟩
        · exact Or.inl ⟨hnames, Nat.add_lt_add_right hlt _⟩
        · exact Or.inr ⟨hnames, congrArg (List.cons c) heq⟩
      · obtain ⟨rfl, hsome⟩ := Classical.not_imp.1 hnone
        obtain ⟨⟨found, after⟩, hread⟩ := Option.ne_none_iff_exists'.1 hsome
        obtain ⟨⟨front, rfl⟩, hselector⟩ := suffix_of_readMention hread
        have hafter := ih (Nat.le_trans (List.suffix_append front after).length_le hrest)
        have hcolon : isMark ':' = true := by decide
        rw [replaceWithin_cons_of_some hread, namesEmoji_cons_iff_of_some hread, marks_append,
          marks_cons_of_isMark hcolon, marks_append]
        cases hfind : find? (Text.lowerChars found.name) with
        | none =>
          rw [Option.elim_none, marks_cons_of_isMark hcolon, Option.isSome_none]
          rcases hafter with ⟨hnames, hlt⟩ | ⟨hnames, heq⟩
          · exact Or.inl ⟨Or.inr hnames, by omega⟩
          · exact Or.inr ⟨by simpa using hnames, by rw [heq, List.cons_append]⟩
        | some emoji =>
          rw [Option.elim_some, marks_append, marks_of_find? hfind, hselector]
          refine Or.inl ⟨Or.inl rfl, ?_⟩
          rcases hafter with ⟨-, hlt⟩ | ⟨-, heq⟩
          · omega
          · rw [heq]
            omega

theorem loses_replace (cs : List Char) : Loses cs (replace cs) := by
  rcases marks_replaceWithin (Nat.le_refl cs.length) with ⟨-, hlt⟩ | ⟨-, heq⟩
  · exact Or.inr hlt
  · exact Or.inl heq

/-- A text is left as it is exactly if it names no emoji. -/
theorem replace_eq_self_iff : replace cs = cs ↔ ¬ NamesEmoji cs := by
  rw [replace]
  rcases marks_replaceWithin (Nat.le_refl cs.length) with ⟨hnames, hlt⟩ | ⟨hnames, heq⟩
  · refine iff_of_false (fun heq => ?_) (not_not.2 hnames)
    rw [heq] at hlt
    exact Nat.lt_irrefl _ hlt
  · exact iff_of_true heq hnames

end ProtocolBindings.Emoji
