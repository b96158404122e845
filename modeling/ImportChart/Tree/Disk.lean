import ImportChart.Path.Basic
import ImportChart.Text.Quoted
import ImportChart.Tree.Basic

/-!
# Finding and changing files

A `Disk` is a tree of files with a current folder. `Disk.place?` follows a path, links included, to an entry or to
the place where one could be made; reading, writing and removing are built on it, and each of them has its own way to
fail.

- a link is followed at most forty times, so that following always ends;
- a name is looked up only in a folder that may be searched, and one of more than 255 bytes is refused there; a path
  with a NUL character is refused before anything is looked up;
- `probe` takes most failures for nothing being there, but not a missing right and not a name that is too long;
- `resolve` goes on where following gives up: a link that leads back to itself stays in the path;
- `write` opens a file, which empties it or makes it, and then fills it; a file for which there is not enough room is
  left with the beginning of what was to be written.
-/

namespace ImportChart

/-- What something is refused for. -/
inductive Refusal where
  /-- The right to do it is missing. -/
  | right
  /-- There is no room for what is to be written. -/
  | room
  deriving DecidableEq, Repr

/-- Why a path cannot be followed or used. -/
inductive Cause where
  | missing
  | notFolder
  | isFolder
  | exists
  /-- The operating system refuses it. -/
  | denied {r : Refusal}
  | nameTooLong
  | linkLoop
  | nulCharacter
  deriving DecidableEq, Repr

namespace Cause

/-- A right is missing. -/
@[match_pattern] abbrev noRight : Cause := .denied (r := .right)

/-- There is no room. -/
@[match_pattern] abbrev noRoom : Cause := .denied (r := .room)

/-- Whether this is a fault where it is asked what is at a path. Every other cause means that nothing is there. -/
def isFault : Cause → Bool
  | .denied | .nameTooLong => true
  | _ => false

end Cause

/-- A cause with the path that it concerns. -/
structure Fault where
  cause : Cause
  path : Text
  deriving DecidableEq, Repr

/-- What the operating system says of a fault. -/
def Fault.message (f : Fault) : Text :=
  let text (number : Nat) (what : String) : Text :=
    "[Errno " ++ Text.ofNat number ++ "] " ++ what ++ ": " ++ Text.quoted f.path
  match f.cause with
  | .missing => text 2 "No such file or directory"
  | .notFolder => text 20 "Not a directory"
  | .isFolder => text 21 "Is a directory"
  | .exists => text 17 "File exists"
  | .noRight => text 13 "Permission denied"
  -- the file is open already, so its path is not named
  | .noRoom => "[Errno 28] No space left on device"
  | .nameTooLong => text 36 "File name too long"
  | .linkLoop => text 40 "Too many levels of symbolic links"
  | .nulCharacter => "embedded null byte"

/-- Where a path leads: to an entry, or to a name that is free in an existing folder. -/
inductive Place where
  | occupied (names : List Text) (entry : Entry)
  | free (names : List Text)

/-- A tree of files with a current folder. -/
structure Disk where
  root : Entry
  here : Text

namespace Disk

/-! ## Following paths -/

/-- The longest name of an entry, in bytes. -/
def maxNameBytes : Nat := 255

/-- The longest path, in bytes. -/
def maxPathBytes : Nat := 4095

/-- How many links are followed on the way to one entry. -/
def maxLinks : Nat := 40

/-- The steps of a path. An empty component and a point are steps that stay. -/
def steps (p : Text) : List Text := (Text.splitOn '/' p).drop (if Path.isAbsolute p then 1 else 0)

/-- Whether a step stays where it is. -/
def stays (step : Text) : Bool := step.isEmpty || step == ['.']

/-- Whether steps are nothing but the slashes at the end of a path. -/
def isTrailing (todo : List Text) : Bool := !todo.isEmpty && todo.all List.isEmpty

/-- Follow steps from the folder that `names` lead to; `links` more links may be followed. A path that is followed to
make a file has a name at its end, so a slash behind that name stands for a folder. -/
def follow (root : Entry) (making : Bool) (links : Nat) (names : List Text) (todo : List Text) : Except Cause Place :=
  match todo with
  | [] => .ok (.occupied names ((root.get? names).getD .emptyFolder))
  | step :: rest =>
    if !step.isEmpty && !(root.accessAt names).search then .error .noRight
    else if stays step then follow root making links names rest
    else if step = Path.up then follow root making links names.dropLast rest
    else if making && isTrailing rest then .error .isFolder
    else if maxNameBytes < (Utf8.encode step).length then .error .nameTooLong
    else
      match root.get? (names ++ [step]) with
      | none => if rest.isEmpty then .ok (.free (names ++ [step])) else .error .missing
      | some (.folder _ _) => follow root making links (names ++ [step]) rest
      | some (.file content access) =>
        if rest.isEmpty then .ok (.occupied (names ++ [step]) (.file content access)) else .error .notFolder
      | some (.link target) =>
        match links with
        | 0 => .error .linkLoop
        | links + 1 => follow root making links (if Path.isAbsolute target then [] else names) (steps target ++ rest)
termination_by (links, todo.length)

/-- Where a path leads, links followed, and whether it is to lead to a file that is made. -/
def locate (d : Disk) (making : Bool) (p : Text) : Except Cause Place :=
  if p.any (· == '\x00') then .error .nulCharacter
  else if p.isEmpty then .error .missing
  else if maxPathBytes < (Utf8.encode p).length then .error .nameTooLong
  else follow d.root making maxLinks [] (steps (Path.join d.here p))

/-- Where a path leads, links followed. -/
def place? (d : Disk) (p : Text) : Except Cause Place := d.locate false p

/-- The entry that a path leads to, links followed. -/
def entry? (d : Disk) (p : Text) : Except Cause Entry :=
  match d.place? p with
  | .ok (.occupied _ e) => .ok e
  | .ok (.free _) => .error .missing
  | .error c => .error c

/-- Whether a path leads to a file. -/
def isFile (d : Disk) (p : Text) : Bool :=
  match d.entry? p with
  | .ok (.file _ _) => true
  | _ => false

/-- Whether the names in the folder that a path leads to can be listed. -/
def lists (d : Disk) (p : Text) : Bool :=
  match d.entry? p with
  | .ok (.folder _ access) => access.read
  | _ => false

/-- The entry that a path leads to, if there is one. -/
def probe (d : Disk) (p : Text) : Except Fault (Option Entry) :=
  match d.entry? p with
  | .ok e => .ok (some e)
  | .error c => if c.isFault then .error ⟨c, p⟩ else .ok none

/-! ## Resolving links -/

/-- How many links are resolved in one path before it counts as a loop. -/
def maxResolved : Nat := 1000

/-- What is left of a path while its links are resolved. -/
inductive Pending where
  | component (c : Text)
  /-- The target of the link that was met last ends here. -/
  | targetEnd

/-- The names that what is left of a path stands for as a text, behind the names so far. A part of it that begins with
a slash begins at the root; `begins` tells that such a part may begin. -/
def Pending.unresolved (begins : Bool) (names : List Text) : List Pending → List Text
  | [] => names
  | .targetEnd :: rest => unresolved true names rest
  | .component c :: rest =>
    let goesOn := match rest with
      | .component _ :: _ => true
      | _ => false
    unresolved false ((if begins && c.isEmpty && goesOn then [] else names) ++ if stays c then [] else [c]) rest

/-- The target of the link that names lead to. It is not known unless every folder on the way may be searched and the
names are a path that is not too long. -/
def linkAt? (root : Entry) (names : List Text) : Option Text :=
  match root.get? names with
  | some (.link target) =>
    if (List.range names.length).all (fun n => (root.accessAt (names.take n)).search) &&
        (Utf8.encode ('/' :: Text.joinWith "/" names)).length ≤ maxPathBytes then some target
    else none
  | _ => none

/-- Resolve the links in what is left of a path; names that do not exist stay as they are. `opened` holds the links
whose targets are gone through, the nearest first. A link that leads back to itself stays, and what is left behind it
is taken as a text. -/
def resolveFrom (root : Entry) (links : Nat) (opened : List (List Text)) (names : List Text) (todo : List Pending) :
    Except Cause (List Text) :=
  match todo with
  | [] => .ok names
  | .targetEnd :: rest => resolveFrom root links opened.tail names rest
  | .component step :: rest =>
    if stays step then resolveFrom root links opened names rest
    else if step = Path.up then resolveFrom root links opened names.dropLast rest
    else if step.any (· == '\x00') then .error .nulCharacter
    else
      let here := names ++ [step]
      match linkAt? root here with
      | some target =>
        if opened.contains here then .ok (Path.collapse true (Pending.unresolved true here rest))
        else
          match links with
          | 0 => .ok (Path.collapse true (Pending.unresolved true here rest))
          | links + 1 =>
            resolveFrom root links (here :: opened) (if Path.isAbsolute target then [] else names)
              ((steps target).map .component ++ .targetEnd :: rest)
      | none => resolveFrom root links opened here rest
termination_by (links, todo.length)

/-- The path with its links resolved. A path that cannot be followed because of a loop is a fault. -/
def resolve (d : Disk) (p : Text) : Except Fault Text :=
  match resolveFrom d.root maxResolved [] [] ((steps (Path.join d.here p)).map .component) with
  | .error c => .error ⟨c, p⟩
  | .ok names =>
    let resolved := '/' :: Text.joinWith "/" names
    match d.entry? resolved with
    | .error .linkLoop => .error ⟨.linkLoop, resolved⟩
    | _ => .ok resolved

/-! ## Reading and changing -/

/-- The content of a file. -/
def read (d : Disk) (p : Text) : Except Fault Bytes :=
  match d.entry? p with
  | .ok (.file content access) => if access.read then .ok content else .error ⟨.noRight, p⟩
  | .ok _ => .error ⟨.isFolder, p⟩
  | .error c => .error ⟨c, p⟩

/-- Open a file to write it: the names that lead to it, and what may be done with it. If its name is free, it is made in
its folder. -/
def openToWrite (d : Disk) (p : Text) : Except Fault (List Text × Access) :=
  match d.locate true p with
  | .ok (.occupied names (.file _ access)) => if access.write then .ok (names, access) else .error ⟨.noRight, p⟩
  | .ok (.occupied _ _) => .error ⟨.isFolder, p⟩
  | .ok (.free names) =>
    let folder := d.root.accessAt names.dropLast
    if folder.write then .ok (names, folder.inside) else .error ⟨.noRight, p⟩
  | .error c => .error ⟨c, p⟩

/-- Write a file. Once it is open it holds nothing, and then as much of the content as there is room for. -/
def write (d : Disk) (p : Text) (content : Bytes) : Except Fault Unit × Disk :=
  match d.openToWrite p with
  | .error f => (.error f, d)
  | .ok (names, access) =>
    (if access.holds content then .ok () else .error ⟨.noRoom, p⟩,
      { d with root := d.root.put names (.file (access.fit content) access) })

/-- The names that lead to an entry itself, the last name not followed if it is a link, and what may be done with the
folder that it is in. -/
def ownNames? (d : Disk) (p : Text) : Except Cause (List Text × Access) :=
  match d.place? (Path.parent (Path.join d.here p)) with
  | .error c => .error c
  | .ok (.free _) => .error .missing
  | .ok (.occupied names (.folder _ folder)) =>
    if !folder.search then .error .noRight
    else if maxNameBytes < (Utf8.encode (Path.baseName p)).length then .error .nameTooLong
    else .ok (names ++ [Path.baseName p], folder)
  | .ok (.occupied _ _) => .error .notFolder

/-- Remove a file or a link. -/
def remove (d : Disk) (p : Text) : Except Fault Disk :=
  match d.ownNames? p with
  | .error c => .error ⟨c, p⟩
  | .ok (names, folder) =>
    match d.root.get? names with
    | none => .error ⟨.missing, p⟩
    | some e =>
      if !folder.write then .error ⟨.noRight, p⟩
      else if e.isFolder then .error ⟨.isFolder, p⟩
      else .ok { d with root := d.root.erase names }

/-- Make a folder whose name is free. -/
def makeFolder (d : Disk) (p : Text) : Except Fault Disk :=
  match d.ownNames? p with
  | .error c => .error ⟨c, p⟩
  | .ok (names, folder) =>
    match d.root.get? names with
    | some _ => .error ⟨.exists, p⟩
    | none =>
      if folder.write then .ok { d with root := d.root.put names (.folder [] folder.inside) }
      else .error ⟨.noRight, p⟩

/-- Make a folder unless there is one. -/
def makeUnlessThere (d : Disk) (p : Text) : Except Fault Disk :=
  match d.makeFolder p with
  | .ok d => .ok d
  | .error f =>
    match d.probe p with
    | .ok (some (.folder _ _)) => .ok d
    | .ok _ => .error f
    | .error g => .error g

/-- Make a folder unless there is one, given by its components with the last one first. Where the folder above it is
missing, this one is made before, and it stays even if the folder itself cannot be made. -/
def ensureComponents (d : Disk) (slashes : Text) : List Text → Except Fault Unit × Disk
  | [] => (.ok (), d)
  | c :: above =>
    let p := slashes ++ Text.joinWith "/" (c :: above).reverse
    match d.makeUnlessThere p with
    | .ok d => (.ok (), d)
    | .error ⟨.missing, _⟩ =>
      match ensureComponents d slashes above with
      | (.error f, d) => (.error f, d)
      | (.ok (), d) =>
        match d.makeUnlessThere p with
        | .ok d => (.ok (), d)
        | .error f => (.error f, d)
    | .error f => (.error f, d)

/-- Make a folder, and the folders on the way to it, unless they are there. -/
def ensureFolder (d : Disk) (p : Text) : Except Fault Unit × Disk :=
  d.ensureComponents (Path.rootOf p) (Path.components p).reverse

/-! ## Comparing -/

mutual
/-- The files of an entry with the names that lead to them, links followed only for the last name. -/
def filesBelow (d : Disk) (names : List Text) : Entry → List (List Text × Bytes)
  | .file content _ => [(names, content)]
  | .link _ =>
    match d.entry? ('/' :: Text.joinWith "/" names) with
    | .ok (.file content _) => [(names, content)]
    | _ => []
  | .folder entries _ => filesAmong d names entries
/-- The files of a list of entries. -/
def filesAmong (d : Disk) (names : List Text) : List (Text × Entry) → List (List Text × Bytes)
  | [] => []
  | (name, e) :: rest => filesBelow d (names ++ [name]) e ++ filesAmong d names rest
end

/-- All files below a folder, by their paths from it. -/
def filesUnder (d : Disk) (folder : Text) : List (Text × Bytes) :=
  match d.place? folder with
  | .ok (.occupied names e) =>
    (filesBelow d names e).map fun (ns, content) => (Text.joinWith "/" (ns.drop names.length), content)
  | _ => []

/-- The files below a folder that are new or changed, and the paths of those that are gone. -/
def changes (before after : Disk) (folder : Text) : List (Text × Bytes) × List Text :=
  let old := before.filesUnder folder
  let new := after.filesUnder folder
  (new.filter fun (p, content) => old.lookup p ≠ some content,
    (old.map (·.1)).filter fun p => (new.lookup p).isNone)

end Disk

end ImportChart
