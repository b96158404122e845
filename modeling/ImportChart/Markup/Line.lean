import ImportChart.Markup.Emoji
import ImportChart.Markup.Literal
import ImportChart.Markup.Style
import ImportChart.Text.Width

/-!
# Lines with style tags

Lines are shown by the `rich` package, and the modules on markup carry out its language of tags: tags in square brackets
that set a style, as in `[green]✓[/green]`, styles, colours and the names of emoji. What the lines say is the matter of
the commands.

Showing a line without styles removes its tags; the parts between them have their emoji filled in, and in the end the
tabs are expanded.

- `pieces`: a line cut into plain parts and tags; a backslash before a tag makes it plain;
- `render`: the line without its tags, or the fault that a tag has;
- `escape`: a text in which nothing is a tag.
-/

namespace ImportChart.Markup

/-! ## Tags -/

/-- The characters that a tag may begin with. -/
def isTagStart (c : Char) : Bool := ('a' ≤ c && c ≤ 'z') || c == '#' || c == '/' || c == '@'

/-- The tag that a text begins with, without its brackets, and the text behind it. No bracket stands inside a tag. -/
def takeTag? : Text → Option (Text × Text)
  | '[' :: c :: rest =>
    if isTagStart c then
      let body := rest.takeWhile fun d => d != ']' && d != '['
      match rest.drop body.length with
      | ']' :: after => some (c :: body, after)
      | _ => none
    else none
  | _ => none

/-- What is behind a tag is shorter than the text that begins with it. -/
theorem length_lt_of_takeTag? {t tag after : Text} (h : takeTag? t = some (tag, after)) : after.length < t.length := by
  unfold takeTag? at h
  split at h
  · next c rest =>
    split at h
    · dsimp only at h
      split at h
      · next after' heq =>
        obtain ⟨-, rfl⟩ := Prod.mk.inj (Option.some.inj h)
        have := congrArg List.length heq
        simp only [List.length_drop, List.length_cons] at this ⊢
        omega
      · nomatch h
    · nomatch h
  · nomatch h

/-- A part of a line. -/
inductive Piece where
  | plain (t : Text)
  | tag (t : Text)
  deriving DecidableEq, Repr

/-- A tag with its brackets. -/
def bracketed (tag : Text) : Text := '[' :: tag ++ [']']

/-- The parts of a line. `plain` holds the characters of the plain part so far, the nearest first, and `slashes` counts
the backslashes behind them. -/
def piecesFrom (plain : Text) (slashes : Nat) (t : Text) : List Piece :=
  match _h : takeTag? t with
  | some (tag, after) =>
    let before : Text := (List.replicate (slashes / 2) '\\' ++ plain).reverse
    if slashes % 2 = 1 then .plain before :: .plain (bracketed tag) :: piecesFrom [] 0 after
    else .plain before :: .tag tag :: piecesFrom [] 0 after
  | none =>
    match t with
    | [] => [.plain (List.replicate slashes '\\' ++ plain).reverse]
    | c :: rest =>
      if c == '\\' then piecesFrom plain (slashes + 1) rest
      else piecesFrom (c :: (List.replicate slashes '\\' ++ plain)) 0 rest
termination_by t.length
decreasing_by
  · exact length_lt_of_takeTag? (by assumption)
  · exact length_lt_of_takeTag? (by assumption)
  · simp
  · simp

/-- The parts of a line. -/
def pieces (t : Text) : List Piece := piecesFrom [] 0 t

/-! ## Opening and closing -/

/-- Why a line is not shown. -/
inductive LineFault where
  /-- A closing tag has nothing to close. -/
  | unopened
  /-- The parameters of a handler cannot be read. -/
  | parameters
  /-- A component of a colour is not an integer. -/
  | component (raw : Text) (e : Text.NumeralError)
  deriving DecidableEq, Repr

/-- What is said of a fault that is named after the integer in it. -/
def LineFault.message : LineFault → Text
  | .unopened | .parameters => []
  | .component raw e => e.message raw

/-- A style that a tag opens: its normal form, and what stands behind the equals sign of the tag. -/
structure Opened where
  name : Text
  parameters : Option Text
  deriving DecidableEq, Repr

/-- The normal form of the name of a style. -/
def styleName (t : Text) : Except LineFault Text :=
  match normalForm t with
  | .ok name => .ok name
  | .error (.component raw e) => .error (.component raw e)
  | .error .malformed => .ok t

/-- The name of a tag, and what stands behind its equals sign. -/
def splitTag (tag : Text) : Text × Option Text :=
  let (name, parameters) := Text.splitOnce '=' tag
  (name, if '=' ∈ tag then some parameters else none)

/-- Close a style: the nearest one with the name, or the nearest one if there is no name. The answer is the style, and
those that stay open. -/
def close (name : Text) (opened : List Opened) : Except LineFault (Opened × List Opened) :=
  if name.isEmpty then
    match opened with
    | [] => .error .unopened
    | o :: rest => .ok (o, rest)
  else do
    let name ← styleName name
    match opened.find? fun o => o.name = name with
    | none => throw .unopened
    | some o => return (o, opened.erase o)

namespace Opened

/-- Whether a tag does not set a style but names a handler. -/
def isHandler (o : Opened) : Bool := o.name.head? == some '@'

/-- A handler that is closed has parameters that can be read, or none. -/
def checkHandler (o : Opened) : Except LineFault Unit :=
  match o.parameters with
  | none | some [] => .ok ()
  | some p => if o.isHandler && !Literal.isHandler p then .error .parameters else .ok ()

/-- A style is looked up with its parameters as more words. -/
def checkStyle (o : Opened) : Except LineFault Unit :=
  match o.parameters with
  | none => .ok ()
  | some p => if o.isHandler then .ok () else do let _ ← styleName (o.name ++ ' ' :: p)

end Opened

/-- The plain parts of a line, and the tags that were opened in it. `opened` holds those that are open, the nearest
first. -/
def renderPieces : (opened : List Opened) → List Piece → Except LineFault (Text × List Opened)
  | opened, [] => .ok ([], opened)
  | opened, .plain t :: rest => do
    let (shown, tags) ← renderPieces opened rest
    return (Emoji.replace (Text.replaceAll "\\[" "[" t) ++ shown, tags)
  | opened, .tag t :: rest =>
    match splitTag t with
    | ('/' :: name, _) => do
      let (closed, opened) ← close (Text.trim name) opened
      closed.checkHandler
      let (shown, tags) ← renderPieces opened rest
      return (shown, closed :: tags)
    | (name, parameters) => do renderPieces (⟨← styleName name, parameters⟩ :: opened) rest

/-- Whether a character rings, moves back or feeds, which a line does not. -/
def isControl (c : Char) : Bool := c == '\x07' || c == '\x08' || c == '\x0b' || c == '\x0c' || c == '\r'

/-- A text without its tags. -/
def render (t : Text) : Except LineFault Text := do
  let (shown, tags) ← renderPieces [] (pieces t)
  tags.forM Opened.checkStyle
  let lines := Text.splitOn '\n' (shown.filter fun c => !isControl c)
  return Text.joinWith "\n" (lines.map Text.expandTabs)

/-! ## Escaping -/

/-- A text with a backslash before each tag, and the backslashes before it doubled. -/
def escapeFrom (slashes : Nat) (t : Text) : Text :=
  match _h : takeTag? t with
  | some (tag, after) => List.replicate (2 * slashes + 1) '\\' ++ bracketed tag ++ escapeFrom 0 after
  | none =>
    match t with
    | [] => List.replicate slashes '\\'
    | c :: rest =>
      if c == '\\' then escapeFrom (slashes + 1) rest
      else List.replicate slashes '\\' ++ c :: escapeFrom 0 rest
termination_by t.length
decreasing_by
  · exact length_lt_of_takeTag? (by assumption)
  · simp
  · simp

/-- A text in which nothing is a tag. A single backslash at the end is doubled. -/
def escape (t : Text) : Text :=
  let escaped := escapeFrom 0 t
  if Text.endsWith "\\" escaped && !Text.endsWith "\\\\" escaped then escaped ++ ['\\'] else escaped

end ImportChart.Markup
