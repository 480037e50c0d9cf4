import ProtocolBindings.Schema.Build

/-!
# Errors behind nested scopes

Scopes lie inside one another, and each offers its location to an error that leaves it.  The error
takes the innermost location that is not empty, unless it had one of its own, and stays the same
otherwise.
-/

namespace ProtocolBindings

namespace GenerationError

/-- The location without an empty text, which says as little as none. -/
def shown (location : Option String) : Option String :=
  location.filter (· != "")

/-- Where an error lies that had the location `own` and has left scopes with the given locations,
the outermost first. -/
def locationBehind (own : Option String) (scopes : List String) : Option String :=
  (shown own).or <| (scopes.reverse.find? (· != "")).or <|
    if scopes = [] then own else some ""

variable {e : GenerationError} {own : Option String} {location scope : String}

@[simp]
theorem shown_empty : shown (some "") = none := by
  simp [shown]

theorem shown_of_ne (h : location ≠ "") : shown (some location) = some location := by
  simp [shown, h]

/-- One scope: a location that shows is kept, and another one is replaced. -/
theorem location_within : (e.within scope).location = (shown e.location).or (some scope) := by
  obtain ⟨cause, _ | location⟩ := e
  · rfl
  · by_cases hempty : location = ""
    · subst hempty
      rw [shown_empty]
      rfl
    · rw [shown_of_ne hempty]
      simp [within, isLocated, hempty]

theorem cause_within : (e.within scope).cause = e.cause := by
  rw [within]
  split <;> rfl

/-- What is said of an error is its reason, behind its location if that shows. -/
theorem message_eq : e.message =
    match shown e.location with
    | some location => location ++ ": " ++ e.detail
    | none => e.detail := by
  obtain ⟨cause, _ | location⟩ := e
  · rfl
  · by_cases hempty : location = ""
    · subst hempty
      rfl
    · rw [shown_of_ne hempty]
      simp [message, hempty]

theorem ne_of_shown_eq_some (h : shown own = some location) : location ≠ "" := by
  obtain ⟨-, hlocation⟩ := Option.filter_eq_some_iff.1 h
  simpa using hlocation

/-- One more scope around the others. -/
theorem locationBehind_cons (scopes : List String) :
    locationBehind own (scope :: scopes) =
      (shown (locationBehind own scopes)).or (some scope) := by
  have hlast : ((scope :: scopes).reverse.find? (· != "")).or (some "") =
      (scopes.reverse.find? (· != "")).or (some scope) := by
    rw [List.reverse_cons, List.find?_append, Option.or_assoc]
    by_cases hempty : scope = ""
    · simp [hempty]
    · simp [hempty]
  rw [locationBehind, if_neg (List.cons_ne_nil _ _), hlast, locationBehind]
  cases hown : shown own with
  | some location => rw [Option.some_or, Option.some_or, shown_of_ne (ne_of_shown_eq_some hown),
      Option.some_or]
  | none =>
    rw [Option.none_or, Option.none_or]
    cases hfind : scopes.reverse.find? (· != "") with
    | some location =>
      have hne : location ≠ "" := by simpa using List.find?_some hfind
      rw [Option.some_or, Option.some_or, shown_of_ne hne, Option.some_or]
    | none =>
      rw [Option.none_or, Option.none_or]
      split
      · rw [hown, Option.none_or]
      · rw [shown_empty, Option.none_or]

/-- What becomes of an error in scopes, the outermost first. -/
def behind (e : GenerationError) (scopes : List String) : GenerationError :=
  scopes.foldr within e

theorem location_behind (scopes : List String) :
    (e.behind scopes).location = locationBehind e.location scopes := by
  induction scopes with
  | nil =>
    rw [behind, List.foldr_nil, locationBehind]
    obtain ⟨cause, _ | location⟩ := e
    · rfl
    · by_cases hempty : location = ""
      · simp [hempty]
      · simp [shown_of_ne hempty]
  | cons scope scopes ih =>
    rw [locationBehind_cons, ← ih]
    exact location_within

theorem cause_behind (scopes : List String) : (e.behind scopes).cause = e.cause := by
  induction scopes with
  | nil => rfl
  | cons scope scopes ih => exact cause_within.trans ih

end GenerationError

open GenerationError

/-- A step that fails in nested scopes fails with what becomes of the error there. -/
theorem foldr_located {α : Type} (e : GenerationError) (scopes : List String) :
    scopes.foldr located (.error e : Except GenerationError α) = .error (e.behind scopes) := by
  induction scopes with
  | nil => rfl
  | cons scope scopes ih =>
    rw [List.foldr_cons, ih]
    rfl

/-- So does a step in the construction of a schema. -/
theorem Building.foldr_located {α : Type} (e : GenerationError) (scopes : List String) :
    scopes.foldr Building.located (.error (.generation e) : Building α) =
      .error (.generation (e.behind scopes)) := by
  induction scopes with
  | nil => rfl
  | cons scope scopes ih =>
    rw [List.foldr_cons, ih]
    rfl

/-- An error of any class that leaves nested scopes, those of the generation or those of the
construction of a schema, keeps its cause: its class, what it is about and its reason in words.
Its location is its own one if that is not empty, or else the innermost one that is offered and not
empty, or else the empty text if there is a scope at all.  Its text is the reason, behind the
location and a colon if there is a location that is not empty. -/
theorem located_nested (e : GenerationError) (scopes : List String) :
    ∃ left : GenerationError,
      (∀ α : Type, scopes.foldr located (.error e : Except GenerationError α) = .error left) ∧
      (∀ α : Type, scopes.foldr Building.located (.error (.generation e) : Building α) =
        .error (.generation left)) ∧
      left.cause = e.cause ∧ left.detail = e.detail ∧
      left.location = (e.location.filter (· != "")).or
        ((scopes.reverse.find? (· != "")).or (if scopes = [] then e.location else some "")) ∧
      left.message =
        match left.location.filter (· != "") with
        | some location => location ++ ": " ++ e.detail
        | none => e.detail := by
  have hcause : (e.behind scopes).cause = e.cause := cause_behind scopes
  have hdetail : (e.behind scopes).detail = e.detail := congrArg Cause.detail hcause
  refine ⟨e.behind scopes, fun α => foldr_located e scopes,
    fun α => Building.foldr_located e scopes, hcause, hdetail, location_behind scopes, ?_⟩
  rw [message_eq, hdetail]
  rfl

example : ((["Page", "", "Page.navigate", ""].foldr located
    (.error { cause := .unresolvedReference "a.b.c" } : Except GenerationError Unit)).mapError
      (·.message)) = .error "Page.navigate: Cannot resolve reference 'a.b.c'" :=
  rfl

end ProtocolBindings
