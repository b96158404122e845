import ImportChart.Command.Run

/-!
# The program

The program takes a picture of the folders that its arguments name, of the current folder and of the folder with its
settings, runs the command on that picture, and carries the changes over to the disk. It starts no other program and
opens no page; a renderer that it would start counts as refused.
-/

open ImportChart

namespace ImportChart.Main

/-- The text of a string. -/
def textOf (s : String) : Text := s.toList

/-- The names that lead to an absolute path. -/
def namesOf (path : String) : List Text := Path.collapse true (Path.components (textOf path))

/-- Whether a scan never enters a folder with a name. -/
def isPassedOver (name : Text) : Bool := ({} : Scan.Policy).ignores name true

/-- The picture of a file. What a scan passes over is kept without its content. -/
def pictureOfFile (path : String) (passedOver : Bool) : IO Entry := do
  if passedOver then return .file [] true
  try return .file (← IO.FS.readBinFile path).toList true catch _ => return .file [] false

/-- A path with its links resolved, if there is something at it. -/
def resolved? (path : String) : IO (Option String) := do
  try return some (← IO.FS.realPath path).toString catch _ => return none

/-- The picture of what lies at a path with its links resolved. -/
partial def picture (path : String) (passedOver : Bool) : IO Entry := do
  let place ← IO.FS.realPath path
  if !(← place.isDir) then return ← pictureOfFile path passedOver
  match ← (try some <$> place.readDir catch _ => pure none) with
  | none => return .folder [] false
  | some children =>
    let mut entries : List (Text × Entry) := []
    for child in children do
      let name := textOf child.fileName
      let here := child.path.toString
      let entry ← match ← resolved? here with
        | none => pure (.link (textOf here ++ "/missing"))
        | some target =>
          if target ≠ here then pure (.link (textOf target))
          else picture here (passedOver || isPassedOver name)
      entries := Entry.setEntry name entry entries
    return .folder entries true

/-- Put the picture of a folder into a tree, if there is such a folder. -/
def addPicture (root : Entry) (path : String) : IO Entry := do
  match ← resolved? path with
  | none => return root
  | some place =>
    if ← (← IO.FS.realPath place).isDir then return root.put (namesOf place) (← picture place false) else return root

/-- The folder with the settings. -/
def settingsFolder : IO String := do
  match ← IO.getEnv "CODEFLOW_HOME" with
  | some folder => return folder
  | none => return ((← IO.getEnv "HOME").getD "") ++ "/.codeflow"

/-- Carry the changes of a run over to the disk. -/
def carryOver (before after : Disk) : IO Unit := do
  let (written, removed) := before.changes after "/"
  for (path, content) in written do
    let target := '/' :: path
    IO.FS.createDirAll (String.ofList (Path.parent target))
    IO.FS.writeBinFile (String.ofList target) ⟨content.toArray⟩
  for path in removed do
    IO.FS.removeFile (String.ofList ('/' :: path))

/-- The lines of a table. -/
def tableLines (t : Command.Table) : List Text :=
  t.title :: (t.columns :: t.rows).map (Text.joinWith "  ")

/-- What is said of a stop. -/
def stopMessage : Command.Stop → Text
  | .usage message => message.getD "wrong arguments"
  | .failed (.settings e) => e.message
  | .failed (.flow (.scan e)) => e.message
  | .failed (.exporting e) => e.message
  | .failed (.fault f) => f.message
  | .failed (.unwritable e) => e.message
  | .failed (.markup f) => f.message
  | _ => []

end ImportChart.Main

/-- Run the command that the arguments ask for. -/
def main (arguments : List String) : IO UInt32 := do
  let here := (← IO.currentDir).toString
  let home ← ImportChart.Main.settingsFolder
  let mut root ← ImportChart.Main.addPicture .emptyFolder here
  for path in home :: arguments do
    root ← ImportChart.Main.addPicture root path
  let before : Disk := ⟨root, ImportChart.Main.textOf here⟩
  let places : Command.Places := ⟨⟨ImportChart.Main.textOf home⟩, "/settings.json"⟩
  let machine : Machine := ⟨before, [], List.replicate 3 (.refused "no program is started"), []⟩
  let (response, after) := Command.run places (arguments.map ImportChart.Main.textOf) machine
  IO.print (String.ofList response.shown)
  for line in (response.table.map ImportChart.Main.tableLines).getD [] do
    IO.println (String.ofList line)
  if let some stop := response.stop then
    let message := ImportChart.Main.stopMessage stop
    if !message.isEmpty then IO.eprintln (String.ofList message)
  ImportChart.Main.carryOver before after.disk
  return UInt32.ofNat response.exitCode
