import ImportChart.Tree.Disk

/-!
# Resolving imports

A relative import is looked for beside the file that has it: at the path itself, then with each extension, then as
the index file of a folder. `candidates` lists these paths in order, and `resolve` takes the first that leads to a
file. An import that is not relative names a package and is never resolved.
-/

namespace ImportChart

/-- The endings that an import may leave out, in the order in which they are tried. -/
def sourceExtensions : List Text := [".ts", ".js", ".tsx", ".jsx"]

/-- Whether an import names a path. -/
def isRelativeImport (target : Text) : Bool := target.head? == some '.' || target.head? == some '/'

/-- The paths that an import may refer to, in the order in which they are tried. -/
def candidates (here origin target : Text) (extensions : List Text) : List Text :=
  let base := Path.absolute here (Path.join (Path.parent origin) target)
  base :: extensions.map (base ++ ·) ++ extensions.map fun e => Path.join base (("index" : Text) ++ e)

/-- The file that an import refers to. -/
def resolveImport (d : Disk) (origin target : Text) (extensions : List Text) : Option Text :=
  if isRelativeImport target then (candidates d.here origin target extensions).find? d.isFile else none

end ImportChart
