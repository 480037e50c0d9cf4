import Mathlib.Data.Nat.Find
import ProtocolBindings.Proofs.Naming.Characters

/-!
# Where an identifier is separated

An identifier is separated into words in two passes.  Each of them searches a text from the front
for matches of a pattern, takes the longest one that begins at a place, puts a low line between its
two groups and goes on behind it.  Together they put a low line in front of exactly those capitals
that begin a word, which is decided by the characters next to them.
-/

namespace ProtocolBindings.Naming

open Text (isBasicUpper isBasicLower isBasicDigit)

variable {cs ds front back run : List Char} {before : Option Char} {c d : Char}

/-! ## Low lines by the neighbours of a character -/

/-- Puts a low line in front of every character for which `starts` holds, given the characters next
to it; `before` is the one in front of the text. -/
def separateWhere (starts : Option Char → Char → Option Char → Bool) (before : Option Char) :
    List Char → List Char
  | [] => []
  | c :: rest =>
    if starts before c rest.head? then '_' :: c :: separateWhere starts (some c) rest
    else c :: separateWhere starts (some c) rest

/-- Whether a character is a capital behind a small letter or digit. -/
def followsWord (before : Option Char) (c : Char) (_after : Option Char) : Bool :=
  before.any (fun b => isBasicLower b || isBasicDigit b) && isBasicUpper c

/-- Whether a character is a capital behind another one and in front of a small letter. -/
def followsAcronym (before : Option Char) (c : Char) (after : Option Char) : Bool :=
  before.any isBasicUpper && isBasicUpper c && after.any isBasicLower

def beginsWord (before : Option Char) (c : Char) (after : Option Char) : Bool :=
  followsWord before c after || followsAcronym before c after

theorem not_isBasicLower_of_isBasicUpper (h : isBasicUpper c) : isBasicLower c = false := by
  simp only [isBasicUpper, isBasicLower, Bool.and_eq_true, decide_eq_true_eq,
    Bool.and_eq_false_iff, decide_eq_false_iff_not, Char.le_def] at h ⊢
  left
  intro hle
  exact absurd (UInt32.le_trans hle h.2) (by decide)

theorem not_isBasicDigit_of_isBasicUpper (h : isBasicUpper c) : isBasicDigit c = false := by
  simp only [isBasicUpper, isBasicDigit, Bool.and_eq_true, decide_eq_true_eq,
    Bool.and_eq_false_iff, decide_eq_false_iff_not, Char.le_def] at h ⊢
  right
  intro hle
  exact absurd (UInt32.le_trans h.1 hle) (by decide)

theorem not_isBasicUpper_of_isBasicLower (h : isBasicLower c) : isBasicUpper c = false := by
  cases hupper : isBasicUpper c with
  | false => rfl
  | true => exact absurd h (Bool.eq_false_iff.1 (not_isBasicLower_of_isBasicUpper hupper))

theorem followsAcronym_of_not_isBasicUpper (h : isBasicUpper c = false) (after : Option Char) :
    followsAcronym (some c) d after = false := by
  simp [followsAcronym, h]

theorem followsWord_of_isBasicUpper (h : isBasicUpper c) (after : Option Char) :
    followsWord (some c) d after = false := by
  simp [followsWord, not_isBasicLower_of_isBasicUpper h, not_isBasicDigit_of_isBasicUpper h]

/-- A character behind which nothing starts may be left out of sight. -/
theorem separateWhere_some {starts : Option Char → Char → Option Char → Bool}
    (hnone : ∀ d after, starts none d after = false)
    (h : ∀ d after, starts (some c) d after = false) (cs : List Char) :
    separateWhere starts (some c) cs = separateWhere starts none cs := by
  cases cs with
  | nil => rfl
  | cons d cs => rw [separateWhere, separateWhere, h, hnone]

theorem separateWhere_followsAcronym_some (h : isBasicUpper c = false) (cs : List Char) :
    separateWhere followsAcronym (some c) cs = separateWhere followsAcronym none cs :=
  separateWhere_some (fun _ _ => rfl) (fun _ after => followsAcronym_of_not_isBasicUpper h after) cs

theorem separateWhere_followsWord_some (h : isBasicUpper c) (cs : List Char) :
    separateWhere followsWord (some c) cs = separateWhere followsWord none cs :=
  separateWhere_some (fun _ _ => rfl) (fun _ after => followsWord_of_isBasicUpper h after) cs

/-- A run of capitals with no small letter behind it is left as it is. -/
theorem separateWhere_followsAcronym_append (hrun : ∀ c ∈ run, isBasicUpper c)
    (hback : back.head?.any isBasicLower = false) :
    separateWhere followsAcronym before (run ++ back) =
      run ++ separateWhere followsAcronym (run.getLast?.or before) back := by
  induction run generalizing before with
  | nil => rfl
  | cons c run ih =>
    rw [List.forall_mem_cons] at hrun
    have hnext : (run ++ back).head?.any isBasicLower = false := by
      cases run with
      | nil => exact hback
      | cons d run => exact not_isBasicLower_of_isBasicUpper (hrun.2 d List.mem_cons_self)
    have hstarts : followsAcronym before c (run ++ back).head? = false := by
      rw [followsAcronym, hnext, Bool.and_false]
    have hlast : ((c :: run).getLast?).or before = run.getLast?.or (some c) := by
      cases hrunLast : run.getLast? <;> simp [List.getLast?_cons, hrunLast]
    rw [List.cons_append, separateWhere, hstarts, if_neg Bool.false_ne_true, ih hrun.2, hlast]
    rfl

/-- The first pass goes by the neighbours of a capital. -/
theorem splitAcronymsFrom_eq (hrun : ∀ c ∈ run, isBasicUpper c) :
    splitAcronymsFrom run cs = separateWhere followsAcronym none (run.reverse ++ cs) := by
  have hreverse : ∀ {run : List Char}, (∀ c ∈ run, isBasicUpper c) →
      ∀ c ∈ run.reverse, isBasicUpper c :=
    fun hrun c hc => hrun c (List.mem_reverse.1 hc)
  fun_induction splitAcronymsFrom run cs with
  | case1 run =>
    rw [separateWhere_followsAcronym_append (hreverse hrun) rfl, separateWhere, List.append_nil]
  | case2 run c rest hupper ih =>
    rw [ih (List.forall_mem_cons.2 ⟨hupper, hrun⟩), List.reverse_cons, List.append_assoc]
    rfl
  | case3 c rest hupper last before others hlower ih =>
    -- The last capital of the run begins the word that the small letter goes on.
    rw [List.forall_mem_cons] at hrun
    have hbefore : isBasicUpper before := hrun.2 before List.mem_cons_self
    have hhead : (last :: c :: rest).head?.any isBasicLower = false :=
      not_isBasicLower_of_isBasicUpper hrun.1
    have hsmall : isBasicUpper c = false := by simpa using hupper
    rw [ih (by simp), List.reverse_cons (a := last), List.append_assoc, List.singleton_append,
      separateWhere_followsAcronym_append (hreverse hrun.2) hhead, separateWhere]
    simp [separateWhere, followsAcronym, hbefore, hrun.1, hlower, hsmall,
      separateWhere_followsAcronym_some hsmall]
  | case4 c rest hupper last before others hlower ih =>
    have hsmall : isBasicUpper c = false := by simpa using hupper
    have hhead : (c :: rest).head?.any isBasicLower = false := by simpa using hlower
    rw [ih (by simp), separateWhere_followsAcronym_append (hreverse hrun) hhead, separateWhere]
    simp [followsAcronym, hsmall, separateWhere_followsAcronym_some hsmall]
  | case5 run c rest hupper hshort ih =>
    have hsmall : isBasicUpper c = false := by simpa using hupper
    rw [ih (by simp)]
    rcases run with _ | ⟨only, _ | ⟨second, others⟩⟩
    · simp [separateWhere, followsAcronym, separateWhere_followsAcronym_some hsmall]
    · simp [separateWhere, followsAcronym, hsmall, separateWhere_followsAcronym_some hsmall]
    · exact absurd rfl (hshort only second others)

theorem splitAcronyms_eq (cs : List Char) :
    splitAcronyms cs = separateWhere followsAcronym none cs :=
  splitAcronymsFrom_eq (by simp)

/-- So does the second pass. -/
theorem splitWords_eq (cs : List Char) : splitWords cs = separateWhere followsWord none cs := by
  fun_induction splitWords cs with
  | case1 => rfl
  | case2 a => rfl
  | case3 a b rest hborder ih =>
    rw [Bool.and_eq_true] at hborder
    rw [ih, ← separateWhere_followsWord_some hborder.2]
    simp [separateWhere, followsWord, hborder.1, hborder.2]
  | case4 a b rest hborder ih =>
    have hstarts : followsWord (some a) b rest.head? = false := by
      simpa [followsWord] using hborder
    rw [ih, separateWhere, separateWhere, separateWhere, hstarts]
    rfl

/-- The passes do not get in each other's way: the low lines of the first one stand between
capitals, where the second one puts none. -/
theorem separateWhere_followsWord_followsAcronym (before : Option Char) (cs : List Char) :
    separateWhere followsWord before (separateWhere followsAcronym before cs) =
      separateWhere beginsWord before cs := by
  induction cs generalizing before with
  | nil => rfl
  | cons c cs ih =>
    by_cases hacronym : followsAcronym before c cs.head?
    · have hbegins : beginsWord before c cs.head? := by
        rw [beginsWord, hacronym, Bool.or_true]
      have hline : ∀ after, followsWord before '_' after = false := fun after => by
        simp [followsWord, isBasicUpper]
      have hcapital : ∀ after, followsWord (some '_') c after = false := fun after => by
        simp [followsWord, isBasicLower, isBasicDigit]
      rw [separateWhere, if_pos hacronym, separateWhere, hline, separateWhere, hcapital, ih,
        separateWhere, if_pos hbegins]
      rfl
    · have hbegins : ∀ after, beginsWord before c cs.head? = followsWord before c after := by
        intro after
        rw [beginsWord, Bool.eq_false_iff.2 hacronym, Bool.or_false]
        rfl
      rw [separateWhere, if_neg hacronym, separateWhere, ih, separateWhere, ← hbegins]

/-! ## Low lines by the places in a text -/

/-- Whether a word begins at a place of a text: there is a capital, and in front of it a small
letter or digit, or another capital if there is a small letter behind. -/
def wordBeginsAt (cs : List Char) (i : Nat) : Bool :=
  1 ≤ i && cs[i]?.any isBasicUpper &&
    (cs[i - 1]?.any (fun c => isBasicLower c || isBasicDigit c) ||
      cs[i - 1]?.any isBasicUpper && cs[i + 1]?.any isBasicLower)

/-- A text with a low line in front of every place at which a word begins. -/
def separated (cs : List Char) : List Char :=
  cs.zipIdx.flatMap fun (c, i) => if wordBeginsAt cs i then ['_', c] else [c]

theorem wordBeginsAt_append (front : List Char) (c : Char) (rest : List Char) :
    wordBeginsAt (front ++ c :: rest) front.length = beginsWord front.getLast? c rest.head? := by
  have hplace : (front ++ c :: rest)[front.length]? = some c := by simp
  have hbehind : (front ++ c :: rest)[front.length + 1]? = rest.head? := by
    rw [List.getElem?_append_right (Nat.le_add_right _ 1), Nat.add_sub_cancel_left,
      List.getElem?_cons_succ, List.head?_eq_getElem?]
  rcases List.eq_nil_or_concat front with rfl | ⟨front, b, rfl⟩
  · rfl
  · have hbefore : (front.concat b ++ c :: rest)[(front.concat b).length - 1]? = some b := by simp
    rw [wordBeginsAt, hplace, hbehind, hbefore]
    cases hc : isBasicUpper c <;> simp [beginsWord, followsWord, followsAcronym, hc]

/-- From any place on, the low lines go by the neighbours. -/
theorem flatMap_zipIdx_eq (front back : List Char) :
    ((back.zipIdx front.length).flatMap fun (c, i) =>
        if wordBeginsAt (front ++ back) i then ['_', c] else [c]) =
      separateWhere beginsWord front.getLast? back := by
  induction back generalizing front with
  | nil => rfl
  | cons c back ih =>
    have hback := ih (front ++ [c])
    rw [List.append_assoc, List.singleton_append, List.length_append, List.length_singleton,
      List.getLast?_concat] at hback
    rw [List.zipIdx_cons, List.flatMap_cons, hback, separateWhere]
    dsimp only
    rw [wordBeginsAt_append]
    split <;> rfl

theorem separated_eq (cs : List Char) : separated cs = splitWords (splitAcronyms cs) := by
  rw [splitWords_eq, splitAcronyms_eq, separateWhere_followsWord_followsAcronym]
  exact flatMap_zipIdx_eq [] cs

/-! ## Low lines by patterns -/

/-- A pattern with two groups: what may stand in front of a boundary, which is never empty, and what
behind it. -/
structure Pattern where
  IsFront : List Char → Prop
  IsBehind : List Char → Prop
  ne_nil : ∀ cs, IsFront cs → cs ≠ []

namespace Pattern

variable {p : Pattern} {behind rest : List Char}

/-- Whether a text begins with a match, of which `front` and `behind` are the two groups. -/
structure Matches (p : Pattern) (cs front behind rest : List Char) : Prop where
  text : cs = front ++ behind ++ rest
  isFront : p.IsFront front
  isBehind : p.IsBehind behind

/-- Whether a text begins with a match that takes as much as it can into its first group. -/
structure MatchesGreedily (p : Pattern) (cs front behind rest : List Char) : Prop extends
    p.Matches cs front behind rest where
  longest : ∀ front' behind' rest', p.Matches cs front' behind' rest' →
    front'.length ≤ front.length

/-- Puts a low line between the groups of every match: the search goes over every character at which
no match begins, and goes on behind a match. -/
inductive Separates (p : Pattern) : List Char → List Char → Prop where
  | nil : Separates p [] []
  | pass {c : Char} {cs ds : List Char}
      (hnone : ∀ front behind rest, ¬p.Matches (c :: cs) front behind rest)
      (h : Separates p cs ds) : Separates p (c :: cs) (c :: ds)
  | found {cs front behind rest ds : List Char}
      (hmatch : p.MatchesGreedily cs front behind rest)
      (h : Separates p rest ds) : Separates p cs (front ++ '_' :: behind ++ ds)

theorem Matches.length_front_le (h : p.Matches cs front behind rest) :
    front.length ≤ cs.length := by
  rw [h.text, List.length_append, List.length_append]
  omega

theorem Matches.length_rest_lt (h : p.Matches cs front behind rest) :
    rest.length < cs.length := by
  have hpos := List.length_pos_iff.2 (p.ne_nil front h.isFront)
  rw [h.text, List.length_append, List.length_append]
  omega

/-- Whether a text begins with a match whose first group has a length. -/
def MatchesWithLength (p : Pattern) (cs : List Char) (n : Nat) : Prop :=
  ∃ front behind rest, p.Matches cs front behind rest ∧ front.length = n

theorem Matches.withLength (h : p.Matches cs front behind rest) :
    p.MatchesWithLength cs front.length :=
  ⟨front, behind, rest, h, rfl⟩

theorem Matches.exists_greedily (h : p.Matches cs front behind rest) :
    ∃ front behind rest, p.MatchesGreedily cs front behind rest := by
  classical
  obtain ⟨front', behind', rest', hmatch, hlength⟩ :=
    Nat.findGreatest_spec h.length_front_le h.withLength
  refine ⟨front', behind', rest', hmatch, ?_⟩
  intro other otherBehind otherRest hother
  rw [hlength]
  exact Nat.le_findGreatest hother.length_front_le hother.withLength

/-- Every text can be separated. -/
theorem exists_separates (p : Pattern) (cs : List Char) : ∃ ds, p.Separates cs ds := by
  induction hlength : cs.length using Nat.strong_induction_on generalizing cs with
  | h n ih =>
    subst hlength
    by_cases hmatch : ∃ front behind rest, p.Matches cs front behind rest
    · obtain ⟨_, _, _, hmatch⟩ := hmatch
      obtain ⟨front, behind, rest, hgreedy⟩ := hmatch.exists_greedily
      obtain ⟨ds, hds⟩ := ih rest.length hgreedy.length_rest_lt rest rfl
      exact ⟨_, .found hgreedy hds⟩
    · cases cs with
      | nil => exact ⟨[], .nil⟩
      | cons c cs =>
        obtain ⟨ds, hds⟩ := ih cs.length (Nat.lt_succ_self _) cs rfl
        refine ⟨c :: ds, .pass ?_ hds⟩
        intro front behind rest hother
        exact hmatch ⟨front, behind, rest, hother⟩

/-- A function that gives every result of a search is the search. -/
theorem separates_iff {pass : List Char → List Char}
    (h : ∀ cs ds, p.Separates cs ds → ds = pass cs) : p.Separates cs ds ↔ ds = pass cs := by
  refine ⟨h cs ds, ?_⟩
  rintro rfl
  obtain ⟨ds, hds⟩ := p.exists_separates cs
  exact h cs ds hds ▸ hds

end Pattern

/-- One or more capitals, and a capital with a small letter behind it. -/
def acronymPattern : Pattern where
  IsFront cs := cs ≠ [] ∧ ∀ c ∈ cs, isBasicUpper c
  IsBehind cs := ∃ capital small, cs = [capital, small] ∧ isBasicUpper capital ∧ isBasicLower small
  ne_nil _ h := h.1

/-- A small letter or digit, and a capital. -/
def wordPattern : Pattern where
  IsFront cs := ∃ c, cs = [c] ∧ (isBasicLower c || isBasicDigit c)
  IsBehind cs := ∃ capital, cs = [capital] ∧ isBasicUpper capital
  ne_nil := by
    rintro _ ⟨c, rfl, -⟩
    exact List.cons_ne_nil _ _

theorem eq_of_separates_acronymPattern (h : acronymPattern.Separates cs ds) :
    ds = separateWhere followsAcronym none cs := by
  induction h with
  | nil => rfl
  | @pass c cs ds hnone h ih =>
    have hsame : separateWhere followsAcronym (some c) cs =
        separateWhere followsAcronym none cs := by
      cases cs with
      | nil => rfl
      | cons d cs =>
        -- A word that began here would be the second group of a match.
        have hstarts : followsAcronym (some c) d cs.head? = false := by
          rw [Bool.eq_false_iff]
          intro hstarts
          simp only [followsAcronym, Option.any_some, Bool.and_eq_true] at hstarts
          obtain ⟨small, hsmall, hlower⟩ := (Option.any_eq_true _ _).1 hstarts.2
          obtain ⟨rest, rfl⟩ := List.head?_eq_some_iff.1 hsmall
          exact hnone [c] [d, small] rest ⟨rfl, ⟨by simp, by simpa using hstarts.1.1⟩,
            d, small, rfl, hstarts.1.2, hlower⟩
        rw [separateWhere, separateWhere, hstarts]
        rfl
    rw [ih, separateWhere, hsame]
    rfl
  | @found cs front behind rest ds hmatch h ih =>
    obtain ⟨hne, hfront⟩ := hmatch.isFront
    obtain ⟨capital, small, rfl, hcapital, hsmall⟩ := hmatch.isBehind
    obtain ⟨first, last, rfl⟩ := (List.eq_nil_or_concat front).resolve_left hne
    have hlast : isBasicUpper last := hfront last (by simp)
    have hhead : (capital :: small :: rest).head?.any isBasicLower = false :=
      not_isBasicLower_of_isBasicUpper hcapital
    have hnot := not_isBasicUpper_of_isBasicLower hsmall
    rw [hmatch.text, ih, List.append_assoc _ _ rest, List.cons_append, List.cons_append,
      List.nil_append, separateWhere_followsAcronym_append hfront hhead]
    simp [separateWhere, followsAcronym, hlast, hcapital, hsmall, hnot,
      separateWhere_followsAcronym_some hnot]

theorem eq_of_separates_wordPattern (h : wordPattern.Separates cs ds) :
    ds = separateWhere followsWord none cs := by
  induction h with
  | nil => rfl
  | @pass c cs ds hnone h ih =>
    have hsame : separateWhere followsWord (some c) cs = separateWhere followsWord none cs := by
      cases cs with
      | nil => rfl
      | cons d cs =>
        have hstarts : followsWord (some c) d cs.head? = false := by
          rw [Bool.eq_false_iff]
          intro hstarts
          rw [followsWord, Bool.and_eq_true] at hstarts
          exact hnone [c] [d] cs ⟨rfl, ⟨c, rfl, hstarts.1⟩, d, rfl, hstarts.2⟩
        rw [separateWhere, separateWhere, hstarts]
        rfl
    rw [ih, separateWhere, hsame]
    rfl
  | @found cs front behind rest ds hmatch h ih =>
    obtain ⟨c, rfl, hc⟩ := hmatch.isFront
    obtain ⟨capital, rfl, hcapital⟩ := hmatch.isBehind
    rw [Bool.or_eq_true] at hc
    rw [hmatch.text, ih]
    simp [separateWhere, followsWord, hc, hcapital, separateWhere_followsWord_some hcapital]

/-- The first pass is the search for the pattern of acronyms. -/
theorem separates_acronymPattern_iff :
    acronymPattern.Separates cs ds ↔ ds = splitAcronyms cs := by
  apply Pattern.separates_iff
  intro cs ds h
  rw [eq_of_separates_acronymPattern h, splitAcronyms_eq]

/-- The second pass is the search for the pattern of words. -/
theorem separates_wordPattern_iff : wordPattern.Separates cs ds ↔ ds = splitWords cs := by
  apply Pattern.separates_iff
  intro cs ds h
  rw [eq_of_separates_wordPattern h, splitWords_eq]

/-! ## Repeated low lines -/

/-- Whether a low line stands at a place of a text, behind another one. -/
def repeatsAt (cs : List Char) (i : Nat) : Bool :=
  1 ≤ i && cs[i]? == some '_' && cs[i - 1]? == some '_'

/-- A text of whose runs of low lines only the first ones are left. -/
def collapsed (cs : List Char) : List Char :=
  cs.zipIdx.flatMap fun (c, i) => if repeatsAt cs i then [] else [c]

/-- A text with low lines for hyphens, without repeated low lines and low lines at its ends, in
small letters. -/
def tidied (cs : List Char) : List Char :=
  let joined := collapsed (cs.map fun c => if c = '-' then '_' else c)
  Text.lowerChars ((joined.dropWhile (· == '_')).rdropWhile (· == '_'))

/-- Drops the low lines behind another one, where `before` is the character in front of the text. -/
def dropRepeated (before : Option Char) : List Char → List Char
  | [] => []
  | c :: rest =>
    if c == '_' && before == some '_' then dropRepeated (some c) rest
    else c :: dropRepeated (some c) rest

theorem repeatsAt_append (front : List Char) (c : Char) (rest : List Char) :
    repeatsAt (front ++ c :: rest) front.length = (c == '_' && front.getLast? == some '_') := by
  have hplace : (front ++ c :: rest)[front.length]? = some c := by simp
  rcases List.eq_nil_or_concat front with rfl | ⟨front, b, rfl⟩
  · simp [repeatsAt]
  · have hbefore : (front.concat b ++ c :: rest)[(front.concat b).length - 1]? = some b := by simp
    rw [repeatsAt, hplace, hbefore]
    simp

/-- From any place on, the repeated low lines go by the characters in front of them. -/
theorem flatMap_repeatsAt_eq (front back : List Char) :
    ((back.zipIdx front.length).flatMap fun (c, i) =>
        if repeatsAt (front ++ back) i then [] else [c]) = dropRepeated front.getLast? back := by
  induction back generalizing front with
  | nil => rfl
  | cons c back ih =>
    have hback := ih (front ++ [c])
    rw [List.append_assoc, List.singleton_append, List.length_append, List.length_singleton,
      List.getLast?_concat] at hback
    rw [List.zipIdx_cons, List.flatMap_cons, hback, dropRepeated]
    dsimp only
    rw [repeatsAt_append]
    split <;> rfl

/-- Whether the first or the last one of a run of low lines is left is the same. -/
theorem mergeLowLines_eq_dropRepeated (cs : List Char) :
    mergeLowLines ('_' :: cs) = '_' :: dropRepeated (some '_') cs ∧
      ∀ before, before ≠ some '_' → mergeLowLines cs = dropRepeated before cs := by
  induction cs with
  | nil => exact ⟨rfl, fun _ _ => rfl⟩
  | cons c rest ih =>
    obtain ⟨hlow, hother⟩ := ih
    by_cases hc : c = '_'
    · subst hc
      refine ⟨?_, fun before hbefore => ?_⟩
      · simpa [mergeLowLines, dropRepeated] using hlow
      · rw [hlow]
        simp [dropRepeated, hbefore]
    · have hrest : mergeLowLines (c :: rest) = c :: dropRepeated (some c) rest := by
        rw [← hother (some c) (by simpa using hc)]
        simp [mergeLowLines, hc]
      refine ⟨?_, fun before hbefore => ?_⟩
      · rw [mergeLowLines, hrest]
        simp [dropRepeated, hc]
      · rw [hrest]
        simp [dropRepeated, hc]

theorem collapsed_eq (cs : List Char) : collapsed cs = mergeLowLines cs := by
  rw [(mergeLowLines_eq_dropRepeated cs).2 none (by simp)]
  exact flatMap_repeatsAt_eq [] cs

theorem tidied_eq (cs : List Char) : tidied cs =
    Text.lowerChars (Text.trimWhile (· == '_') (mergeLowLines (replaceHyphens cs))) := by
  have hhyphens : (cs.map fun c => if c = '-' then '_' else c) = replaceHyphens cs :=
    List.map_congr_left fun c _ => by simp
  rw [tidied, hhyphens, collapsed_eq]
  rfl

/-! ## Names -/

/-- A text with a final `ID` made a word of its own. -/
def markedId (cs : List Char) : List Char :=
  if ['I', 'D'] <:+ cs then cs.take (cs.length - 2) ++ ['_', 'i', 'd'] else cs

theorem splitFinalId_eq (cs : List Char) : splitFinalId cs = markedId cs := by
  rw [splitFinalId, markedId]
  split
  · rename_i stem hstem
    rw [List.reverse_eq_cons_iff, List.reverse_cons, List.append_assoc] at hstem
    have hsuffix : ['I', 'D'] <:+ cs := ⟨stem.reverse, hstem.symm⟩
    rw [if_pos hsuffix, hstem]
    simp
  · rename_i hne
    rw [if_neg]
    rintro ⟨stem, rfl⟩
    exact hne stem.reverse (by simp)

/-- The name of an identifier is what one pass over it gives.  Searching the identifier, with its
final `ID` marked, for the pattern of acronyms and the result for that of words puts low lines in
front of exactly the places at which a word begins; and the name is the tidied result. -/
theorem underscore_eq_tidied_separated (name : String) :
    (∀ words, (∃ acronyms, acronymPattern.Separates (markedId name.toList) acronyms ∧
        wordPattern.Separates acronyms words) ↔ words = separated (markedId name.toList)) ∧
      underscore name = String.ofList (tidied (separated (markedId name.toList))) := by
  refine ⟨fun words => ?_, ?_⟩
  · rw [separated_eq]
    constructor
    · rintro ⟨acronyms, hacronyms, hwords⟩
      rw [separates_acronymPattern_iff] at hacronyms
      rw [separates_wordPattern_iff] at hwords
      rw [hwords, hacronyms]
    · rintro rfl
      exact ⟨_, separates_acronymPattern_iff.2 rfl, separates_wordPattern_iff.2 rfl⟩
  · rw [underscore, underscoreChars, splitFinalId_eq, separated_eq, tidied_eq]

example : separated "getHTTPRequest2Id".toList = "get_HTTP_Request2_Id".toList := by
  decide

end ProtocolBindings.Naming
