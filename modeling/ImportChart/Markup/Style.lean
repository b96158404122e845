import ImportChart.Markup.Colour

/-!
# Styles

A style of the `rich` package switches attributes on or off, and may set a colour, a background and a link. One style
has many texts: `red b`, `bold red` and `BOLD Red`.

- `Style.read`: the style that words describe;
- `Style.toText`: the text of a style, with its parts in a fixed order;
- `normalForm`: the text by which styles are compared.
-/

namespace ImportChart.Markup

/-- What a style switches. -/
inductive Attribute where
  | bold | dim | italic | underline | blink | fastBlink | reverse | conceal | strike | doubleUnderline | frame
  | encircle | overline
  deriving DecidableEq, Repr

namespace Attribute

/-- The attributes in the order in which they are written. -/
def all : List Attribute :=
  [.bold, .dim, .italic, .underline, .blink, .fastBlink, .reverse, .conceal, .strike, .doubleUnderline, .frame,
    .encircle, .overline]

/-- The name of an attribute. -/
def name : Attribute → Text
  | .bold => "bold"
  | .dim => "dim"
  | .italic => "italic"
  | .underline => "underline"
  | .blink => "blink"
  | .fastBlink => "blink2"
  | .reverse => "reverse"
  | .conceal => "conceal"
  | .strike => "strike"
  | .doubleUnderline => "underline2"
  | .frame => "frame"
  | .encircle => "encircle"
  | .overline => "overline"

/-- The short name of an attribute that has one. -/
def shortName? : Attribute → Option Text
  | .bold => some "b"
  | .dim => some "d"
  | .italic => some "i"
  | .underline => some "u"
  | .reverse => some "r"
  | .conceal => some "c"
  | .strike => some "s"
  | .doubleUnderline => some "uu"
  | .overline => some "o"
  | .blink | .fastBlink | .frame | .encircle => none

/-- The attribute with a name, long or short. -/
def ofName? (t : Text) : Option Attribute := all.find? fun a => a.name = t || a.shortName? = some t

end Attribute

/-- A style. -/
structure Style where
  /-- The attributes that are switched, and which way. -/
  switched : List (Attribute × Bool) := []
  colour : Option Text := none
  background : Option Text := none
  link : Option Text := none
  deriving DecidableEq, Repr

namespace Style

/-- Switch an attribute; what was said of it before no longer counts. -/
def switch (s : Style) (a : Attribute) (on : Bool) : Style :=
  { s with switched := (a, on) :: s.switched.filter (·.1 ≠ a) }

/-- The style that words add to a style. A later word wins over an earlier one. -/
def read : List Text → Style → Except StyleFault Style
  | [], s => .ok s
  | word :: rest, s =>
    let name := Text.lower word
    if name == ("on" : Text) then
      match rest with
      | [] => .error .malformed
      | colour :: rest => do read rest { s with background := some (← readColour colour) }
    else if name == ("not" : Text) then
      match rest with
      | [] => .error .malformed
      | switched :: rest =>
        match Attribute.ofName? switched with
        | some a => read rest (s.switch a false)
        | none => .error .malformed
    else if name == ("link" : Text) then
      match rest with
      | [] => .error .malformed
      | target :: rest => read rest { s with link := some target }
    else
      match Attribute.ofName? name with
      | some a => read rest (s.switch a true)
      | none => do read rest { s with colour := some (← readColour name) }

/-- The words for an attribute, if a style switches it. -/
def attributeWords? (s : Style) (a : Attribute) : Option Text :=
  (s.switched.lookup a).map fun on => if on then a.name else ("not " : Text) ++ a.name

/-- The parts of the text of a style. -/
def parts (s : Style) : List Text :=
  Attribute.all.filterMap s.attributeWords? ++ s.colour.toList ++
    (s.background.map fun c => ("on " : Text) ++ c).toList ++ (s.link.map fun t => ("link " : Text) ++ t).toList

/-- The text of a style. -/
def toText (s : Style) : Text :=
  match s.parts with
  | [] => "none"
  | parts => Text.joinWith " " parts

end Style

/-- The text by which a style is compared with others; a text that is no style stands for itself. -/
def normalForm (t : Text) : Except StyleFault Text :=
  if Text.trim t == ("none" : Text) then .ok "none"
  else
    match Style.read (Text.words t) {} with
    | .ok s => .ok s.toText
    | .error .malformed => .ok (Text.lower (Text.trim t))
    | .error e => .error e

end ImportChart.Markup
