import ImportChart.Scan.Policy
import ImportChart.Text.Blank
import ImportChart.Tree.Disk

/-!
# Collecting source files

`collect` walks a folder from the top: first the files of a folder, then its subfolders, each in the order of their
names. A folder that the policy leaves out is not entered, nor is a folder behind a link. What could not be read and
what could not be listed is reported beside the files. A file that the policy keeps is asked for by its path before it
is read, and where this is a fault, the walk breaks off.
-/

namespace ImportChart.Scan

/-- A file of the scanned folder. -/
structure SourceFile where
  /-- The absolute path. -/
  path : Text
  /-- The path from the scanned folder. -/
  name : Text
  content : Text
  lineCount : Int
  deriving DecidableEq, Repr

/-- The result of a walk. -/
structure Collection where
  files : List SourceFile := []
  /-- Files that were to be read and could not be. -/
  skipped : List Text := []
  /-- Folders that could not be listed. -/
  unlisted : List Text := []
  deriving DecidableEq, Repr

namespace Collection

/-- One collection after another. -/
def append (a b : Collection) : Collection :=
  ⟨a.files ++ b.files, a.skipped ++ b.skipped, a.unlisted ++ b.unlisted⟩

instance : Append Collection := ⟨append⟩

end Collection

/-- Why a folder cannot be scanned. -/
inductive ScanError where
  /-- The path does not lead to a folder. -/
  | notFolder (path : Text)
  /-- A path cannot be followed. -/
  | fault (f : Fault)
  deriving DecidableEq, Repr

/-- The text of a scan error. -/
def ScanError.message : ScanError → Text
  | .notFolder path => "Not a directory: " ++ path
  | .fault f => f.message

/-- The path of an entry of a folder. -/
def entryPath (folder name : Text) : Text := Path.join folder name

/-- The path of an entry from the scanned folder; the folder itself has the empty path. -/
def entryName (folder name : Text) : Text := if folder.isEmpty then name else folder ++ '/' :: name

/-- The record of a file, if its content can be read as text. -/
def readRecord (d : Disk) (path name : Text) : Collection :=
  match d.read path with
  | .ok content =>
    match Utf8.readText content with
    | some t => { files := [⟨path, name, t, (Text.lines t).length⟩] }
    | none => { skipped := [path] }
  | .error _ => { skipped := [path] }

/-- Whether an entry counts as a subfolder: a folder, or a link to one. -/
def isSubfolder (d : Disk) (path : Text) : Entry → Bool
  | .folder _ _ => true
  | .file _ _ => false
  | .link _ =>
    match d.entry? path with
    | .ok (.folder _ _) => true
    | _ => false

/-- What one entry of a folder contributes as a file. -/
def collectFile (d : Disk) (policy : Policy) (folder prefixName name : Text) (e : Entry) :
    Except Fault Collection :=
  let path := entryPath folder name
  let rel := entryName prefixName name
  if isSubfolder d path e || policy.ignores rel false || !policy.reads name then .ok {}
  else
    match d.probe path with
    | .error f => .error f
    | .ok (some (.file _ _)) => .ok (readRecord d path rel)
    | .ok _ => .ok {}

/-- What the files among the entries of a folder contribute. -/
def collectFiles (d : Disk) (policy : Policy) (folder prefixName : Text) :
    List (Text × Entry) → Except Fault Collection
  | [] => .ok {}
  | (name, e) :: rest => do
    let first ← collectFile d policy folder prefixName name e
    let others ← collectFiles d policy folder prefixName rest
    return first ++ others

mutual
/-- Walk a folder. -/
def walk (d : Disk) (policy : Policy) (folder prefixName : Text) : Entry → Except Fault Collection
  | .folder entries _ =>
    if d.lists folder then do
      let files ← collectFiles d policy folder prefixName entries
      let below ← walkSubfolders d policy folder prefixName entries
      return files ++ below
    else .ok { unlisted := [folder] }
  | _ => .ok {}
/-- Walk the subfolders among the entries of a folder. -/
def walkSubfolders (d : Disk) (policy : Policy) (folder prefixName : Text) :
    List (Text × Entry) → Except Fault Collection
  | [] => .ok {}
  | (name, e) :: rest => do
    let first ←
      if e.isFolder && !policy.ignores (entryName prefixName name) true then
        walk d policy (entryPath folder name) (entryName prefixName name) e
      else .ok {}
    let others ← walkSubfolders d policy folder prefixName rest
    return first ++ others
end

/-- Collect the files of a folder. -/
def collect (d : Disk) (root : Text) (policy : Policy) : Except ScanError Collection :=
  let root := Path.absolute d.here root
  match d.probe root with
  | .error f => .error (.fault f)
  | .ok (some (.folder entries access)) =>
    match walk d policy root [] (.folder entries access) with
    | .ok c => .ok c
    | .error f => .error (.fault f)
  | .ok _ => .error (.notFolder root)

end ImportChart.Scan
