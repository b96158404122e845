import ImportChart.Text.Basic

/-!
# Paths

Paths are texts with `/` between their components. Two things are done with them, and they differ in `..`:

- `normalize` works on the text alone and lets `..` cancel the component before it; `absolute` and `join` belong to it;
- `plain` and `under` only remove empty components and `.`, so that a path with `..` keeps its meaning where links
  are followed.

Exactly two slashes at the beginning of a path are kept; any other number counts as one.
-/

namespace ImportChart.Path

/-- Whether a path begins at the root. -/
def isAbsolute (p : Text) : Bool := p.head? == some '/'

/-- The slashes that a path keeps at its beginning. -/
def rootOf : Text → Text
  | '/' :: '/' :: '/' :: _ => "/"
  | '/' :: '/' :: _ => "//"
  | '/' :: _ => "/"
  | _ => ""

/-- The components of a path that are neither empty nor `.`. -/
def components (p : Text) : List Text := (Text.splitOn '/' p).filter fun c => c ≠ [] && c ≠ ['.']

/-- The component that leads to the parent folder. -/
def up : Text := ['.', '.']

/-! ## Normal form -/

/-- Add a component to a path, given as its components with the last one first. Above the root there is the root;
above a relative path there is one more `..`. -/
def pushComponent (rooted : Bool) (stack : List Text) (c : Text) : List Text :=
  if c ≠ up then c :: stack
  else
    match stack with
    | [] => if rooted then [] else [up]
    | top :: below => if top = up then up :: stack else below

/-- The components that are left when every `..` has cancelled the component before it. -/
def collapse (rooted : Bool) (cs : List Text) : List Text := (cs.foldl (pushComponent rooted) []).reverse

/-- The shortest path with the same meaning where there are no links. -/
def normalize (p : Text) : Text :=
  let result := rootOf p ++ Text.joinWith "/" (collapse (isAbsolute p) (components p))
  if result.isEmpty then "." else result

/-- A path seen from another one: an absolute path stands for itself. -/
def join (base p : Text) : Text :=
  if isAbsolute p then p
  else if base.isEmpty || base.getLast? == some '/' then base ++ p
  else base ++ '/' :: p

/-- The normal form of a path seen from a folder. -/
def absolute (folder p : Text) : Text := normalize (join folder p)

/-! ## Parts of a path -/

/-- The text up to the last slash, without the slashes at its end unless it is the root. -/
def parent (p : Text) : Text :=
  let head := Text.dropEndWhile (· ≠ '/') p
  let stem := Text.dropEndWhile (· == '/') head
  if stem.isEmpty then head else stem

/-- The text after the last slash. -/
def baseName (p : Text) : Text := (p.reverse.takeWhile (· ≠ '/')).reverse

/-- The last component; empty for the root and for the current folder. -/
def lastComponent (p : Text) : Text := (components p).getLast?.getD []

/-- The ending of a file name with its point; a point at the very beginning or at the very end makes none. -/
def suffix (p : Text) : Text :=
  let name := lastComponent p
  let ending := (name.reverse.takeWhile (· ≠ '.')).reverse
  let before := name.length - ending.length
  if ending.isEmpty || before ≤ 1 then [] else '.' :: ending

/-! ## Plain form -/

/-- A path without empty components and `.`. -/
def plain (p : Text) : Text :=
  let result := rootOf p ++ Text.joinWith "/" (components p)
  if result.isEmpty then "." else result

/-- The plain form of a path seen from a folder. -/
def under (folder p : Text) : Text :=
  if isAbsolute p then plain p
  else
    let result := rootOf folder ++ Text.joinWith "/" (components folder ++ components p)
    if result.isEmpty then "." else result

end ImportChart.Path
