import ProtocolBindings.Proofs.Source.Accepted

/-!
# Rejected domains

A domain for which no module is generated is rejected for one reason.  Its own name comes first,
then the first type and the first command whose names are no identifiers, and last the first name
that is defined twice.  The error is located at the domain, the type or the command.
-/

namespace ProtocolBindings

open Results

def GenerationError.malformedAt (location : String) (malformation : Malformation) :
    GenerationError where
  cause := .schemaMalformed malformation
  location := some location

theorem located_malformed {α : Type} (location : String) (malformation : Malformation) :
    located location (malformed malformation : Except GenerationError α) =
      .error (.malformedAt location malformation) :=
  rfl

variable {domain location : String} {e : GenerationError}

theorem Declaration.located_ofTypeDef_eq_error_iff {t : TypeDef} :
    located location (ofTypeDef domain t) = .error e ↔
      ¬Text.isIdentifier (Naming.typeName t.id) ∧ e = .malformedAt location (.badTypeId t.id) := by
  rw [ofTypeDef]
  split
  · rename_i hname
    simp [hname, located, Except.mapError]
  · rename_i hname
    rw [located_malformed]
    simp [hname, eq_comm]

namespace Module

theorem CommandPart.located_ofCommand_eq_error_iff {c : Command} :
    located location (CommandPart.ofCommand domain c) = .error e ↔
      ¬Text.isIdentifier (Naming.functionName c.name) ∧
        e = .malformedAt location (.badCommandName c.name) := by
  by_cases hname : Text.isIdentifier (Naming.functionName c.name)
  · have hok : CommandPart.ofCommand domain c = .ok (documented domain c) :=
      CommandPart.ofCommand_eq_ok_iff.2 ⟨hname, rfl⟩
    rw [hok]
    simp [hname, located, Except.mapError]
  · have hfails : CommandPart.ofCommand domain c = malformed (.badCommandName c.name) := by
      rw [CommandPart.ofCommand, CommandFunction.ofCommand, if_neg hname]
      rfl
    rw [hfails, located_malformed]
    simp [hname, eq_comm]

variable {d : Domain}

/-- The type is the first whose name is no identifier. -/
def IsFirstBadType (d : Domain) (t : TypeDef) : Prop :=
  IsFirstFailing (fun t => Text.isIdentifier (Naming.typeName t.id)) d.types t

/-- The command is the first whose function's name is no identifier. -/
def IsFirstBadCommand (d : Domain) (c : Command) : Prop :=
  IsFirstFailing (fun c => Text.isIdentifier (Naming.functionName c.name)) d.commands c

/-- The contents of a module fail at the first bad type or, if there is none, at the first bad
command. -/
theorem contentsOf_eq_error_iff : contentsOf d = .error e ↔
    (∃ t, IsFirstBadType d t ∧ e = .malformedAt (d.name ++ "." ++ t.id) (.badTypeId t.id)) ∨
      (∀ t ∈ d.types, Text.isIdentifier (Naming.typeName t.id)) ∧
        ∃ c, IsFirstBadCommand d c ∧
          e = .malformedAt (d.name ++ "." ++ c.name) (.badCommandName c.name) := by
  have htypes : (d.types.mapM fun t =>
      located (d.name ++ "." ++ t.id) (Declaration.ofTypeDef d.name t)) = .error e ↔
        ∃ t, IsFirstBadType d t ∧ e = .malformedAt (d.name ++ "." ++ t.id) (.badTypeId t.id) :=
    mapM_eq_error_iff_isFirstFailing fun _ _ => Declaration.located_ofTypeDef_eq_error_iff
  have hcommands : (d.commands.mapM fun c =>
      located (d.name ++ "." ++ c.name) (CommandPart.ofCommand d.name c)) = .error e ↔
        ∃ c, IsFirstBadCommand d c ∧
          e = .malformedAt (d.name ++ "." ++ c.name) (.badCommandName c.name) :=
    mapM_eq_error_iff_isFirstFailing fun _ _ => CommandPart.located_ofCommand_eq_error_iff
  rw [contentsOf, bind_eq_error_iff, htypes]
  refine or_congr_right ?_
  constructor
  · rintro ⟨types, hok, h⟩
    refine ⟨(declaredTypes_eq_ok_iff.1 hok).1, hcommands.1 ?_⟩
    rcases bind_eq_error_iff.1 h with h | ⟨commands, -, h⟩
    · exact h
    · cases h
  · rintro ⟨hnames, h⟩
    refine ⟨_, declaredTypes_eq_ok_iff.2 ⟨hnames, rfl⟩, ?_⟩
    exact bind_eq_error_iff.2 (Or.inl (hcommands.2 h))

/-- Why a domain is rejected, and where. -/
inductive Rejects (d : Domain) : GenerationError → Prop where
  | domainName (hname : ¬Text.isIdentifier d.name) :
      Rejects d (.malformedAt d.name (.badDomainName d.name))
  | typeName {t : TypeDef} (hname : Text.isIdentifier d.name) (ht : IsFirstBadType d t) :
      Rejects d (.malformedAt (d.name ++ "." ++ t.id) (.badTypeId t.id))
  | functionName {c : Command} (hname : Text.isIdentifier d.name)
      (htypes : ∀ t ∈ d.types, Text.isIdentifier (Naming.typeName t.id))
      (hc : IsFirstBadCommand d c) :
      Rejects d (.malformedAt (d.name ++ "." ++ c.name) (.badCommandName c.name))
  | definedTwice {before after : List String} {name : String} (hname : Text.isIdentifier d.name)
      (htypes : ∀ t ∈ d.types, Text.isIdentifier (Naming.typeName t.id))
      (hcommands : ∀ c ∈ d.commands, Text.isIdentifier (Naming.functionName c.name))
      (hnames : definedNames d = before ++ name :: after) (hbefore : before.Nodup)
      (hrepeated : name ∈ before) :
      Rejects d (.malformedAt d.name (.definedTwice name))

theorem ofDomain_of_not_isIdentifier {package version : String}
    (hname : ¬Text.isIdentifier d.name) :
    ofDomain package d version = .error (.malformedAt d.name (.badDomainName d.name)) := by
  rw [ofDomain, Bool.eq_false_iff.2 hname]
  rfl

theorem ofDomain_of_contentsOf_eq_error {package version : String}
    (hname : Text.isIdentifier d.name) (h : contentsOf d = .error e) :
    ofDomain package d version = .error e := by
  rw [ofDomain, hname, h]
  rfl

theorem ofDomain_of_firstRepeated? {package version name : String}
    (hname : Text.isIdentifier d.name) (h : contentsOf d = .ok (.documented d))
    (hfirst : firstRepeated? [] (definedNames d) = some name) :
    ofDomain package d version = .error (.malformedAt d.name (.definedTwice name)) := by
  rw [← Contents.names_documented] at hfirst
  rw [ofDomain, hname, h]
  refine bind_eq_error_iff.2 (Or.inr ⟨_, rfl, ?_⟩)
  rw [hfirst]
  rfl

/-- Where the names of a domain are identifiers, its module fails for the first one that is defined
twice. -/
theorem ofDomain_eq_error_iff_of_contentsOf {package version : String}
    (hname : Text.isIdentifier d.name) (h : contentsOf d = .ok (.documented d)) :
    ofDomain package d version = .error e ↔
      ∃ before name after, definedNames d = before ++ name :: after ∧ before.Nodup ∧
        name ∈ before ∧ e = .malformedAt d.name (.definedTwice name) := by
  constructor
  · intro herror
    cases hfirst : firstRepeated? [] (definedNames d) with
    | none =>
      obtain ⟨htypes, hcommands, -⟩ := contentsOf_eq_ok_iff.1 h
      have hdistinct := (firstRepeated?_eq_none_iff.1 hfirst).1
      have hok : ofDomain package d version = .ok (documented package d version) :=
        ofDomain_eq_ok_iff.2 ⟨⟨hname, htypes, hcommands, hdistinct⟩, rfl⟩
      rw [hok] at herror
      cases herror
    | some found =>
      rw [ofDomain_of_firstRepeated? hname h hfirst] at herror
      obtain rfl := Except.error.inj herror
      obtain ⟨before, after, hnames, hbefore, -, hrepeated⟩ := firstRepeated?_eq_some_iff.1 hfirst
      refine ⟨before, found, after, hnames, hbefore, ?_, rfl⟩
      simpa using hrepeated
  · rintro ⟨before, name, after, hnames, hbefore, hrepeated, rfl⟩
    apply ofDomain_of_firstRepeated? hname h
    rw [hnames]
    exact firstRepeated?_append_cons hbefore (fun _ _ => List.not_mem_nil) (Or.inl hrepeated)

/-- A module is generated exactly for the accepted domains, and any other is rejected for the first
of the reasons, at its place. -/
theorem ofDomain_rejects_iff (package version : String) (d : Domain) :
    ((∃ m, ofDomain package d version = .ok m) ↔ Accepts d) ∧
      ∀ e, ofDomain package d version = .error e ↔ Rejects d e := by
  refine ⟨?_, fun e => ?_⟩
  · constructor
    · rintro ⟨m, hm⟩
      exact (ofDomain_eq_ok_iff.1 hm).1
    · intro haccepts
      exact ⟨_, ofDomain_eq_ok_iff.2 ⟨haccepts, rfl⟩⟩
  · constructor
    · intro h
      by_cases hname : Text.isIdentifier d.name
      · cases hcontents : contentsOf d with
        | error e' =>
          rw [ofDomain_of_contentsOf_eq_error hname hcontents] at h
          obtain rfl := Except.error.inj h
          rcases contentsOf_eq_error_iff.1 hcontents with ⟨t, ht, rfl⟩ | ⟨htypes, c, hc, rfl⟩
          · exact .typeName hname ht
          · exact .functionName hname htypes hc
        | ok contents =>
          obtain ⟨htypes, hcommands, rfl⟩ := contentsOf_eq_ok_iff.1 hcontents
          obtain ⟨before, name, after, hnames, hbefore, hrepeated, rfl⟩ :=
            (ofDomain_eq_error_iff_of_contentsOf hname hcontents).1 h
          exact .definedTwice hname htypes hcommands hnames hbefore hrepeated
      · rw [ofDomain_of_not_isIdentifier hname] at h
        obtain rfl := Except.error.inj h
        exact .domainName hname
    · intro h
      cases h with
      | domainName hname => exact ofDomain_of_not_isIdentifier hname
      | typeName hname ht =>
        have hcontents := contentsOf_eq_error_iff.2 (Or.inl ⟨_, ht, rfl⟩)
        exact ofDomain_of_contentsOf_eq_error hname hcontents
      | functionName hname htypes hc =>
        have hcontents := contentsOf_eq_error_iff.2 (Or.inr ⟨htypes, _, hc, rfl⟩)
        exact ofDomain_of_contentsOf_eq_error hname hcontents
      | definedTwice hname htypes hcommands hnames hbefore hrepeated =>
        have hcontents := contentsOf_eq_ok_iff.2 ⟨htypes, hcommands, rfl⟩
        exact (ofDomain_eq_error_iff_of_contentsOf hname hcontents).2
          ⟨_, _, _, hnames, hbefore, hrepeated, rfl⟩

/-- Two types whose names differ in the case of a letter only are one class. -/
example : ofDomain "rpc"
    { name := "Page", types := [{ id := "FrameId" }, { id := "FrameID" }] } "tot" =
      .error (.malformedAt "Page" (.definedTwice "cdp_frame_id")) := by
  rfl

end Module

end ProtocolBindings
