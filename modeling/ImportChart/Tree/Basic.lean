import ImportChart.Text.Utf8

/-!
# Trees of files

The file system is a value: a folder whose entries are files, links and folders. The entries of a folder are kept
sorted by name, which is the order in which they are listed.

- `Access`: what the program may do with a file or a folder, and how much a file may hold;
- `Entry.get?`: the entry at a list of names, links not followed;
- `Entry.put` and `Entry.erase`: the tree with one entry set or removed.
-/

namespace ImportChart

/-- What the program may do with a file or a folder. -/
structure Access where
  /-- The content of the file may be read, or the names in the folder may be listed. -/
  read : Bool
  /-- The file may be written, or entries may be made and removed in the folder. -/
  write : Bool := true
  /-- The names in the folder may be looked up, whether or not they may be listed. -/
  search : Bool := true
  /-- How many bytes there is room for in the file, or in each file that is made in the folder; none if there is no end
  to it. -/
  room : Option Nat := none
  deriving DecidableEq, Repr

namespace Access

/-- Where only reading is spoken of, everything else is allowed. -/
instance : Coe Bool Access := ⟨fun read => { read }⟩

/-- What the program may do with what it makes in a folder. -/
def inside (folder : Access) : Access := { read := true, room := folder.room }

/-- As much of a content as there is room for. -/
def fit (a : Access) (content : Bytes) : Bytes :=
  match a.room with
  | none => content
  | some bytes => content.take bytes

/-- Whether there is room for all of a content. -/
def holds (a : Access) (content : Bytes) : Bool := (a.fit content).length = content.length

end Access

/-- What a name in a folder stands for. -/
inductive Entry where
  | file (content : Bytes) (access : Access)
  /-- A symbolic link. -/
  | link (target : Text)
  | folder (entries : List (Text × Entry)) (access : Access)

namespace Entry

instance : Inhabited Entry := ⟨.folder [] true⟩

/-- The folder without entries. -/
def emptyFolder : Entry := .folder [] true

/-- Whether an entry is a folder itself. -/
def isFolder : Entry → Bool
  | .folder _ _ => true
  | _ => false

/-- The entry with a name in a list of entries. -/
def find? (name : Text) : List (Text × Entry) → Option Entry
  | [] => none
  | (n, e) :: rest => if n = name then some e else find? name rest

/-- The entry with a name in a folder. -/
def child? (name : Text) : Entry → Option Entry
  | .folder entries _ => find? name entries
  | _ => none

/-- The entry that a list of names leads to, links not followed. -/
def get? : List Text → Entry → Option Entry
  | [], e => some e
  | name :: names, e => (e.child? name).bind (get? names)

/-- What the program may do with the file or folder that a list of names leads to. -/
def accessAt (names : List Text) (root : Entry) : Access :=
  match root.get? names with
  | some (.file _ access) => access
  | some (.folder _ access) => access
  | _ => true

/-- Set the entry with a name, in its place in the order of names. -/
def setEntry (name : Text) (new : Entry) : List (Text × Entry) → List (Text × Entry)
  | [] => [(name, new)]
  | (n, e) :: rest =>
    if n = name then (name, new) :: rest
    else if name < n then (name, new) :: (n, e) :: rest
    else (n, e) :: setEntry name new rest

/-- Set the entry that a list of names leads to; missing folders on the way are made. -/
def put : List Text → Entry → (new : Entry) → Entry
  | [], _, new => new
  | name :: names, .folder entries access, new =>
    .folder (setEntry name (put names ((find? name entries).getD emptyFolder) new) entries) access
  | _ :: _, e, _ => e

/-- Remove the entry that a list of names leads to. -/
def erase : List Text → Entry → Entry
  | [name], .folder entries access => .folder (entries.filter (·.1 ≠ name)) access
  | name :: names, .folder entries access =>
    match find? name entries with
    | some e => .folder (setEntry name (erase names e) entries) access
    | none => .folder entries access
  | _, e => e

/-- The entry just set is found again. -/
theorem find?_setEntry_self (name : Text) (new : Entry) (entries : List (Text × Entry)) :
    find? name (setEntry name new entries) = some new := by
  induction entries with
  | nil => simp [setEntry, find?]
  | cons p rest ih =>
    obtain ⟨n, e⟩ := p
    rw [setEntry]
    split
    · simp [find?]
    · next h => split <;> simp [find?, h, ih]

/-- Setting one entry leaves the others. -/
theorem find?_setEntry_of_ne {name other : Text} (h : other ≠ name) (new : Entry) (entries : List (Text × Entry)) :
    find? other (setEntry name new entries) = find? other entries := by
  induction entries with
  | nil => simp [setEntry, find?, h.symm]
  | cons p rest ih =>
    obtain ⟨n, e⟩ := p
    rw [setEntry]
    split
    · next hn => subst hn; simp [find?, h.symm]
    · split
      · simp [find?, h.symm]
      · simp [find?, ih]

end Entry

end ImportChart
