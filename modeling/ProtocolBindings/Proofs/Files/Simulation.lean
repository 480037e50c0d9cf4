import ProtocolBindings.Files.System

/-!
# Runs on two file systems

What the program does with files is written for any file system.  So if every operation on one file
system corresponds to the same operation on another, whole runs correspond too.  A simulation says
what it is to correspond, and for which paths the operations do.
-/

namespace ProtocolBindings

/-- A correspondence of runs on two file systems. -/
structure Simulation (m n : Type → Type) [Monad m] [FileSystem m] [Monad n] [FileSystem n] where
  /-- A run on the one file system corresponds to a run on the other. -/
  Rel : {α : Type} → m α → n α → Prop
  /-- The paths that may be looked at and changed. -/
  Uses : Path → Prop
  /-- The paths whose files may be read. -/
  Reads : Path → Prop
  pure : ∀ {α : Type} (a : α), Rel (pure a) (pure a)
  bind : ∀ {α β : Type} {x : m α} {y : n α} {f : α → m β} {g : α → n β}, Rel x y →
    (∀ a, Rel (f a) (g a)) → Rel (x >>= f) (y >>= g)
  uses_joinText : ∀ {p : Path} (name : String), Uses p → Uses (p.joinText name)
  uses_parent : ∀ {p : Path}, Uses p → Uses p.parent
  kindOf : ∀ {p : Path}, Uses p → Rel (FileSystem.kindOf p) (FileSystem.kindOf p)
  readBytes : ∀ {p : Path}, Reads p → Rel (FileSystem.readBytes p) (FileSystem.readBytes p)
  writeBytes : ∀ {p : Path} (content : ByteArray), Uses p →
    Rel (FileSystem.writeBytes p content) (FileSystem.writeBytes p content)
  makeDirectory : ∀ {p : Path}, Uses p →
    Rel (FileSystem.makeDirectory p) (FileSystem.makeDirectory p)
  remove : ∀ {p : Path}, Uses p → Rel (FileSystem.remove p) (FileSystem.remove p)

namespace Simulation

variable {m n : Type → Type} [Monad m] [FileSystem m] [Monad n] [FileSystem n]
  (S : Simulation m n) {ε α β : Type} {p : Path}

/-! ## Runs that can fail -/

theorem except_pure (a : α) :
    S.Rel (Pure.pure a : ExceptT ε m α).run (Pure.pure a : ExceptT ε n α).run :=
  S.pure _

theorem except_throw (e : ε) :
    S.Rel (throw e : ExceptT ε m α).run (throw e : ExceptT ε n α).run :=
  S.pure _

theorem except_bind {x : ExceptT ε m α} {y : ExceptT ε n α} {f : α → ExceptT ε m β}
    {g : α → ExceptT ε n β} (hx : S.Rel x.run y.run) (hf : ∀ a, S.Rel (f a).run (g a).run) :
    S.Rel (x >>= f).run (y >>= g).run := by
  refine S.bind hx fun r => ?_
  cases r with
  | error e => exact S.pure _
  | ok a => exact hf a

/-! ## Operations on files -/

theorem readFile (h : S.Reads p) :
    S.Rel (Files.readBytes p : ExceptT FileError m _).run
      (Files.readBytes p : ExceptT FileError n _).run :=
  S.readBytes h

theorem writeText (text : String) (h : S.Uses p) :
    S.Rel (Files.writeText p text : ExceptT FileError m _).run
      (Files.writeText p text : ExceptT FileError n _).run :=
  S.writeBytes _ h

variable [LawfulMonad m] [LawfulMonad n]

theorem map {x : m α} {y : n α} (f : α → β) (h : S.Rel x y) : S.Rel (f <$> x) (f <$> y) := by
  rw [map_eq_pure_bind, map_eq_pure_bind]
  exact S.bind h fun _ => S.pure _

theorem except_lift {x : m α} {y : n α} (h : S.Rel x y) :
    S.Rel (ExceptT.lift x : ExceptT ε m α).run (ExceptT.lift y : ExceptT ε n α).run :=
  S.map Except.ok h

theorem kindOf? (h : S.Uses p) :
    S.Rel (Files.kindOf? p : ExceptT FileError m _).run
      (Files.kindOf? p : ExceptT FileError n _).run := by
  refine S.except_bind (S.except_lift (S.kindOf h)) fun r => ?_
  cases r with
  | ok kind => exact S.except_pure _
  | error e =>
    simp only
    split
    · exact S.except_pure _
    · exact S.except_pure _
    · exact S.except_pure _
    · exact S.except_throw _

theorem isFile (h : S.Uses p) :
    S.Rel (Files.isFile p : ExceptT FileError m _).run
      (Files.isFile p : ExceptT FileError n _).run :=
  S.except_bind (S.kindOf? h) fun _ => S.except_pure _

theorem isDirectory (h : S.Uses p) :
    S.Rel (Files.isDirectory p : ExceptT FileError m _).run
      (Files.isDirectory p : ExceptT FileError n _).run :=
  S.except_bind (S.kindOf? h) fun _ => S.except_pure _

theorem ensureDirectory (h : S.Uses p) :
    S.Rel (Files.ensureDirectory p : ExceptT FileError m _).run
      (Files.ensureDirectory p : ExceptT FileError n _).run := by
  refine S.except_bind (S.except_lift (S.makeDirectory h)) fun r => ?_
  cases r with
  | ok _ => exact S.except_pure _
  | error e =>
    simp only
    split
    · exact S.except_throw _
    · refine S.except_bind (S.isDirectory h) fun b => ?_
      split
      · exact S.except_pure _
      · exact S.except_throw _

theorem ensureDirectories (depth : Nat) (h : S.Uses p) :
    S.Rel (Files.ensureDirectories depth p : ExceptT FileError m _).run
      (Files.ensureDirectories depth p : ExceptT FileError n _).run := by
  induction depth generalizing p with
  | zero => exact S.ensureDirectory h
  | succ depth ih =>
    refine S.except_bind (S.except_lift (S.ensureDirectory h)) fun r => ?_
    cases r with
    | ok _ => exact S.except_pure _
    | error e =>
      simp only
      split
      · exact S.except_bind (ih (S.uses_parent h)) fun _ => S.ensureDirectory h
      · exact S.except_throw _

theorem makeDirectories (h : S.Uses p) :
    S.Rel (Files.makeDirectories p : ExceptT FileError m _).run
      (Files.makeDirectories p : ExceptT FileError n _).run :=
  S.ensureDirectories _ h

theorem removeIfPresent (h : S.Uses p) :
    S.Rel (Files.removeIfPresent p : ExceptT FileError m _).run
      (Files.removeIfPresent p : ExceptT FileError n _).run := by
  refine S.except_bind (S.except_lift (S.remove h)) fun r => ?_
  cases r with
  | ok _ => exact S.except_pure _
  | error e =>
    simp only
    split
    · exact S.except_pure _
    · exact S.except_throw _

end Simulation

end ProtocolBindings
