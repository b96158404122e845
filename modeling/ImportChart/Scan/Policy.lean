import ImportChart.Path.Basic
import ImportChart.Text.Case

/-!
# What a scan reads

A policy says which paths a scan leaves out and which file names it reads. Paths are relative to the folder that is
scanned. `ignores` looks at one path only; that leaving out a folder and leaving out the files in it agree is a fact
about `framed`, the form of a path in which patterns are looked for.
-/

namespace ImportChart.Scan

/-- Parts of paths that are left out always: version control, installed packages, editor settings, built files. -/
def builtinPatterns : List Text :=
  ["/.git/", "/node_modules/", "/.vscode/", "/.idea/", "/out/", "/dist/", "/build/", "/coverage/", "/__pycache__/",
    "/.venv/", ".DS_Store", "Thumbs.db", "package-lock.json", "yarn.lock", "pnpm-lock.yaml", "/.env."]

/-- The endings of text files, in order. -/
def textExtensions : List Text :=
  [".c", ".cpp", ".cs", ".css", ".go", ".html", ".java", ".js", ".json", ".jsx", ".kt", ".md", ".php", ".py", ".rb",
    ".rs", ".swift", ".ts", ".tsx", ".txt", ".xml", ".yaml", ".yml"]

/-- Names that are left out in every folder. -/
def secretNames : List Text := [".env"]

/-- The file that holds the diagram in a fence. -/
def flowFile : Text := "wholeflow.mmd"

/-- The file that holds the diagram alone, for the renderer. -/
def rawFlowFile : Text := "wholeflow_raw.mmd"

/-- The rendered diagram. -/
def svgFile : Text := "wholeflow.svg"

/-- The page that shows the diagram. -/
def pageFile : Text := "wholeflow.html"

/-- The files that are written into the scanned folder, left out there. -/
def outputFiles : List Text := [flowFile, rawFlowFile, svgFile, pageFile]

/-- Which paths are left out and which file names are read. -/
structure Policy where
  /-- Parts of paths that leave out what contains them. -/
  ignorePatterns : List Text := builtinPatterns
  /-- The endings of file names that are read. -/
  extensions : List Text := textExtensions
  /-- Whether files without an ending are read. -/
  includeExtensionless : Bool := true
  /-- Names that leave out the entry in every folder. -/
  ignoredNames : List Text := secretNames
  /-- Names of files that are left out in the scanned folder itself. -/
  rootFiles : List Text := outputFiles
  deriving DecidableEq, Repr

namespace Policy

/-- The patterns among `extra` that say something new. -/
def newPatterns (p : Policy) (extra : List Text) : List Text :=
  extra.filter fun e => e ≠ [] && !p.ignorePatterns.contains e

/-- The policy that leaves out more. -/
def withExtraIgnores (p : Policy) (extra : List Text) : Policy :=
  { p with ignorePatterns := p.ignorePatterns ++ p.newPatterns extra }

/-- The form of a path in which patterns are looked for: a slash before it, and one after it if it is a folder. -/
def framed (path : Text) (folder : Bool) : Text := '/' :: path ++ if folder then ['/'] else []

/-- Whether the path is left out by its name or its place. -/
def ignoresName (p : Policy) (path : Text) (folder : Bool) : Bool :=
  p.ignoredNames.contains (Path.baseName path) || (!folder && p.rootFiles.contains path)

/-- Whether the path of a file or folder is left out. -/
def ignores (p : Policy) (path : Text) (folder : Bool) : Bool :=
  p.ignoresName path folder || p.ignorePatterns.any fun pattern => Text.contains pattern (framed path folder)

/-- Whether a file name is read. -/
def reads (p : Policy) (name : Text) : Bool :=
  let ending := Text.lower (Path.suffix name)
  if ending.isEmpty then p.includeExtensionless else p.extensions.contains ending

end Policy

end ImportChart.Scan
