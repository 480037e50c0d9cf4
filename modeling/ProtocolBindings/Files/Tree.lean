import ProtocolBindings.Entries
import ProtocolBindings.Files.System

/-!
# File trees

A file system as a value: what there is at each place, and the current directory.  A place is the
sequence of names that leads to it from the root.  A path is followed name by name, and every
name but the last has to lead to a directory.
-/

namespace ProtocolBindings

/-- What there is at a place. -/
inductive FileEntry where
  | file (content : ByteArray)
  | directory

/-- A file system as a value. -/
structure FileTree where
  /-- The entries below the root, by their places. -/
  entries : List (List String × FileEntry) := []
  /-- The place of the current directory. -/
  current : List String := []

namespace FileTree

/-- What there is at a place; the root is always a directory. -/
def get? (t : FileTree) (place : List String) : Option FileEntry :=
  if place.isEmpty then some .directory else t.entries.lookup place

def put (t : FileTree) (place : List String) (entry : FileEntry) : FileTree :=
  { t with entries := Entries.set place entry t.entries }

/-- Takes away the entry at a place. -/
def erase (t : FileTree) (place : List String) : FileTree :=
  { t with entries := t.entries.filter (·.1 != place) }

def maxNameSize : Nat := 255

/-- The longest path, in bytes. -/
def maxPathSize : Nat := 4095

/-- Follows steps from a place.  The last step may lead to nothing. -/
def follow (t : FileTree) (place : List String) : List String → Except FileProblem (List String)
  | [] => .ok place
  | step :: rest =>
    match t.get? place with
    | none => .error .notFound
    | some (.file _) => .error .notADirectory
    | some .directory =>
      if step == Path.parentStep then follow t place.dropLast rest
      else if maxNameSize < step.utf8ByteSize then .error .nameTooLong
      else follow t (place ++ [step]) rest

def placeOf (t : FileTree) (p : Path) : Except FileProblem (List String) :=
  if p.hasNullCharacter then .error .nullCharacter
  else if maxPathSize < p.text.utf8ByteSize then .error .nameTooLong
  else follow t (if p.isAbsolute then [] else t.current) p.steps

def withPath {α : Type} (p : Path) (result : Except FileProblem α) : Except FileError α :=
  result.mapError fun problem => ⟨problem, p.text⟩

def kindOf (t : FileTree) (p : Path) : Except FileError EntryKind :=
  withPath p do
    match t.get? (← t.placeOf p) with
    | none => throw .notFound
    | some (.file _) => return .file
    | some .directory => return .directory

def readBytes (t : FileTree) (p : Path) : Except FileError ByteArray :=
  withPath p do
    match t.get? (← t.placeOf p) with
    | none => throw .notFound
    | some (.file content) => return content
    | some .directory => throw .isADirectory

def writeBytes (t : FileTree) (p : Path) (content : ByteArray) : Except FileError FileTree :=
  withPath p do
    let place ← t.placeOf p
    match t.get? place with
    | some .directory => throw .isADirectory
    | _ => return t.put place (.file content)

def makeDirectory (t : FileTree) (p : Path) : Except FileError FileTree :=
  withPath p do
    let place ← t.placeOf p
    match t.get? place with
    | some _ => throw .alreadyExists
    | none => return t.put place .directory

def remove (t : FileTree) (p : Path) : Except FileError FileTree :=
  withPath p do
    let place ← t.placeOf p
    match t.get? place with
    | none => throw .notFound
    | some .directory => throw .isADirectory
    | some (.file _) => return t.erase place

/-- The tree after a change of the current directory. -/
def enter (t : FileTree) (p : Path) : Except FileError FileTree :=
  withPath p do
    let place ← t.placeOf p
    match t.get? place with
    | none => throw .notFound
    | some (.file _) => throw .notADirectory
    | some .directory => return { t with current := place }

/-- The places below the current directory, each as a path from there with a mark behind
directories, in ascending order. -/
def listing (t : FileTree) : List String :=
  let below := t.entries.filterMap fun (place, entry) =>
    if t.current.isPrefixOf place && place != t.current then
      let path := "/".intercalate (place.drop t.current.length)
      some (match entry with
        | .directory => path ++ "/"
        | .file _ => path)
    else none
  below.mergeSort (· ≤ ·)

/-- A change of the tree that may fail and then leaves it as it was. -/
def change (f : FileTree → Except FileError FileTree) : StateM FileTree (Except FileError Unit) :=
  fun t =>
    match f t with
    | .ok t => (.ok (), t)
    | .error e => (.error e, t)

instance : FileSystem (StateM FileTree) where
  kindOf p := fun t => (t.kindOf p, t)
  readBytes p := fun t => (t.readBytes p, t)
  writeBytes p content := change (·.writeBytes p content)
  makeDirectory p := change (·.makeDirectory p)
  remove p := change (·.remove p)
  currentDirectory := fun t => (⟨.top, t.current⟩, t)

variable {t : FileTree} {place other : List String} {entry : FileEntry}

theorem get?_put_self (h : place ≠ []) : (t.put place entry).get? place = some entry := by
  simp [get?, put, h, Entries.lookup_set_self]

/-- Putting an entry at a place changes no other place. -/
theorem get?_put_of_ne (h : other ≠ place) :
    (t.put place entry).get? other = t.get? other := by
  simp [get?, put, Entries.lookup_set_of_ne h]

theorem get?_erase_self (h : place ≠ []) : (t.erase place).get? place = none := by
  have hfree : (t.entries.filter (·.1 != place)).lookup place = none := by
    induction t.entries with
    | nil => rfl
    | cons head rest ih =>
      obtain ⟨k, e⟩ := head
      by_cases hk : k = place
      · simp [hk, ih]
      · have hk' : (place == k) = false := beq_eq_false_iff_ne.2 (Ne.symm hk)
        simp [hk, List.lookup_cons, hk', ih]
  simp [get?, erase, h, hfree]

/-- Taking away the entry at a place changes no other place. -/
theorem get?_erase_of_ne (h : other ≠ place) : (t.erase place).get? other = t.get? other := by
  have hkept : (t.entries.filter (·.1 != place)).lookup other = t.entries.lookup other := by
    induction t.entries with
    | nil => rfl
    | cons head rest ih =>
      obtain ⟨k, e⟩ := head
      by_cases hk : k = place
      · have hk' : (other == k) = false := beq_eq_false_iff_ne.2 (hk ▸ h)
        simp [hk, List.lookup_cons, ih, beq_eq_false_iff_ne.2 h]
      · simp [hk, List.lookup_cons, ih]
  simp [get?, erase, hkept]

end FileTree

end ProtocolBindings
