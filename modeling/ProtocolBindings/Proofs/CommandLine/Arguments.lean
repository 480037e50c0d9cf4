import ProtocolBindings.Proofs.CommandLine.Escapes

/-!
# Getting past the arguments

A command goes on behind its arguments if they can be read, ask for no help, name no file that does
not exist and hold no words.  Otherwise nothing escapes from it.
-/

namespace ProtocolBindings

open Program OnTree

namespace CommandLine

open CommandLine.Command

variable {t : FileTree}

/-- What there is at a path given as an argument. -/
def namedKind? (t : FileTree) (text : String) : Option EntryKind :=
  if text.isEmpty then none
  else
    match t.kindAt? (Path.ofText text) with
    | .ok (some .file) => if endsInDirectory text then none else some .file
    | .ok kind => kind
    | .error _ => none

theorem runOn_argumentKind (text : String) (transcript : Transcript) (t : FileTree) :
    Command.runOn (argumentKind text : Command (StateM FileTree) _) transcript t =
      ((.ok (namedKind? t text), transcript), t) := by
  rw [argumentKind, namedKind?]
  split
  · rfl
  · have hlook : Command.runOn (ExceptT.lift (StateT.lift
        (Files.kindOf? (Path.ofText text)).run) : Command (StateM FileTree) _) transcript t =
          ((.ok (t.kindAt? (Path.ofText text)), transcript), t) := by
      exact congrArg (fun r : Except FileError (Option EntryKind) × FileTree =>
        (((.ok r.1, transcript), r.2) :
          (Except Stop (Except FileError (Option EntryKind)) × Transcript) × FileTree))
        (FileTree.run_kindOf? t (Path.ofText text))
    rw [Command.runOn_bind, hlook]
    rcases t.kindAt? (Path.ofText text) with e | _ | _ | _
    · rfl
    · rfl
    · rfl
    · rfl

theorem unmoved_argumentKind (text : String) :
    IsUnmoved (argumentKind text : Command (StateM FileTree) _) ∧ ∀ t,
      treeAfter (argumentKind text : Command (StateM FileTree) _) t = t ∧
        result (argumentKind text : Command (StateM FileTree) _) t = .ok (namedKind? t text) := by
  have heq := isUnmoved_of_eq (x := (argumentKind text : Command (StateM FileTree) _))
    (f := fun t => (.ok (namedKind? t text), t)) fun transcript t =>
      ⟨transcript, runOn_argumentKind text transcript t⟩
  exact ⟨heq.1, fun t => ⟨(heq.2 t).2, (heq.2 t).1⟩⟩

/-- The file that the options of a command name, which has to exist. -/
inductive Names (t : FileTree) (a : Arguments) : Option Path → Prop where
  | unnamed (h : a.value? .config = none) : Names t a none
  | named {text : String} (h : a.value? .config = some text)
      (hthere : (namedKind? t text).isSome = true) : Names t a (some (.ofText text))

/-- A command gets past its arguments: they can be read, ask for no help, name no file that does
not exist and hold no words. -/
structure Starts (form : CommandForm) (args : List String) (t : FileTree) (a : Arguments)
    (named : Option Path) : Prop where
  read : Arguments.read form.options false args = .ok a
  help : a.has .help = false
  named : Names t a named
  words : a.words = []

/-- The path of a configuration file at which there is something of the given kind. -/
def existingPath {m : Type → Type} [Monad m] (text : String) :
    Option EntryKind → Command m (Option Path)
  | some _ => pure (some (.ofText text))
  | none => throw (.misused (.invalidValue configForm.names
      ("Path" ++ " " ++ quoted text ++ " " ++ "does not exist.")))

theorem pathArgument_eq {m : Type → Type} [Monad m] [LawfulMonad m] [FileSystem m]
    (a : Arguments) :
    (pathArgument configForm "Path" true a : Command m (Option Path)) =
      match a.value? .config with
      | none => pure none
      | some text => argumentKind text >>= existingPath text := by
  rw [pathArgument, show configForm.key = .config from rfl]
  cases a.value? .config with
  | none => rfl
  | some text =>
    refine bind_congr fun kind => ?_
    rcases kind with _ | _ | _
    · rfl
    · rfl
    · rfl

theorem unmoved_existingPath (text : String) (kind : Option EntryKind) :
    IsUnmoved (existingPath text kind : Command (StateM FileTree) _) ∧ ∀ t,
      treeAfter (existingPath text kind : Command (StateM FileTree) _) t = t ∧
        ¬Escapes (existingPath text kind : Command (StateM FileTree) _) t ∧
          ∀ named, result (existingPath text kind : Command (StateM FileTree) _) t = .ok named ↔
            kind.isSome = true ∧ named = some (.ofText text) := by
  cases kind with
  | none =>
    refine ⟨isUnmoved_throw _, fun t => ⟨rfl, not_escapes_misused _, fun named => ?_⟩⟩
    exact iff_of_false (by rintro ⟨⟩) (by simp)
  | some kind =>
    refine ⟨isUnmoved_pure _, fun t => ⟨rfl, not_escapes_of_result_eq_ok rfl, fun named => ?_⟩⟩
    constructor
    · rintro ⟨⟩
      exact ⟨rfl, rfl⟩
    · rintro ⟨-, rfl⟩
      rfl

theorem unmoved_pathArgument (a : Arguments) :
    IsUnmoved (pathArgument configForm "Path" true a : Command (StateM FileTree) _) ∧ ∀ t,
      treeAfter (pathArgument configForm "Path" true a : Command (StateM FileTree) _) t = t ∧
        ¬Escapes (pathArgument configForm "Path" true a : Command (StateM FileTree) _) t ∧
          ∀ named, result (pathArgument configForm "Path" true a : Command (StateM FileTree) _) t =
            .ok named ↔ Names t a named := by
  rw [pathArgument_eq]
  cases hvalue : a.value? .config with
  | none =>
    refine ⟨isUnmoved_pure _, fun t => ⟨rfl, not_escapes_of_result_eq_ok rfl, fun named => ?_⟩⟩
    constructor
    · rintro ⟨⟩
      exact .unnamed hvalue
    · rintro (hnamed | ⟨htext, -⟩)
      · rfl
      · rw [hvalue] at htext
        cases htext
  | some text =>
    have hkind := unmoved_argumentKind text
    have hpath := unmoved_existingPath text
    refine ⟨hkind.1.bind fun kind => (hpath kind).1, fun t => ⟨?_, ?_, fun named => ?_⟩⟩
    · exact treeAfter_bind hkind.1 (fun kind => (hpath kind).1) (hkind.2 t).1 fun kind =>
        ((hpath kind).2 t).1
    · rw [escapes_bind_iff hkind.1 fun kind => (hpath kind).1, (hkind.2 t).1]
      rintro (hescape | ⟨kind, -, hescape⟩)
      · exact not_escapes_of_result_eq_ok (hkind.2 t).2 hescape
      · exact ((hpath kind).2 t).2.1 hescape
    · rw [result_bind hkind.1 fun kind => (hpath kind).1, (hkind.2 t).1, (hkind.2 t).2]
      refine (((hpath _).2 t).2.2 named).trans ?_
      constructor
      · rintro ⟨hthere, rfl⟩
        exact .named hvalue hthere
      · rintro (hnone | ⟨htext, hthere⟩)
        · rw [hvalue] at hnone
          cases hnone
        · rw [hvalue] at htext
          obtain rfl := Option.some.inj htext
          exact ⟨hthere, rfl⟩

/-- A failure escapes from a command if it gets past its arguments and a failure escapes from what
it does then. -/
theorem escapes_withArguments_iff (form : CommandForm) (args : List String)
    {body : Arguments → Option Path → Command (StateM FileTree) Unit}
    (hbody : ∀ a named, IsUnmoved (body a named)) :
    Escapes (withArguments form args (pathArgument configForm "Path" true) body) t ↔
      ∃ a named, Starts form args t a named ∧ Escapes (body a named) t := by
  unfold withArguments
  cases hread : Arguments.read form.options false args with
  | error problem =>
    refine iff_of_false (not_escapes_misused problem) ?_
    rintro ⟨a, named, hstart, -⟩
    have hok := hstart.read
    rw [hread] at hok
    cases hok
  | ok a =>
    have hsame {a' : Arguments} {named : Option Path} (hstart : Starts form args t a' named) :
        a' = a :=
      Except.ok.inj (hstart.read.symm.trans hread)
    simp only
    by_cases hhelp : a.has .help = true
    · have hwrite := unmoved_of_isReading (isReading_write (Help.text form.help))
      rw [if_pos hhelp, escapes_run_iff hwrite.1, (hwrite.2 t).1]
      refine iff_of_false Results.not_failsWith_ok ?_
      rintro ⟨a', named, hstart, -⟩
      obtain rfl := hsame hstart
      rw [hstart.help] at hhelp
      cases hhelp
    · have hpath := unmoved_pathArgument a
      have hafter (named : Option Path) : IsUnmoved (if a.words.isEmpty then body a named
          else throw (.misused (.unexpectedWords a.words)) : Command (StateM FileTree) Unit) := by
        split
        · exact hbody a named
        · exact isUnmoved_throw _
      rw [if_neg hhelp, escapes_bind_iff hpath.1 hafter, (hpath.2 t).1,
        or_iff_right (hpath.2 t).2.1]
      simp only [(hpath.2 t).2.2]
      constructor
      · rintro ⟨named, hnamed, hescape⟩
        split at hescape
        · rename_i hwords
          exact ⟨a, named, ⟨hread, Bool.eq_false_iff.2 hhelp, hnamed, List.isEmpty_iff.1 hwords⟩,
            hescape⟩
        · exact absurd hescape (not_escapes_misused _)
      · rintro ⟨a', named, hstart, hescape⟩
        obtain rfl := hsame hstart
        refine ⟨named, hstart.named, ?_⟩
        rw [if_pos (List.isEmpty_iff.2 hstart.words)]
        exact hescape

end CommandLine

end ProtocolBindings
