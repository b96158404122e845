import ImportChart.Markup.Emoji.Flags
import ImportChart.Markup.Emoji.People
import ImportChart.Markup.Emoji.Things
import ImportChart.Text.Blank
import ImportChart.Text.Case

/-!
# Emoji by their names

To the `rich` package a name between colons stands for an emoji: `:warning:` is ⚠. Behind the name, `-text` asks for the
plain form and `-emoji` for the coloured one.

- `find?`: the emoji with a name;
- `replace`: a text with emoji in the place of their names. What stands between colons and is no name stays, together
  with both colons.
-/

namespace ImportChart.Markup.Emoji

/-! ## Names -/

/-- Neighbours taken as pairs. -/
def pairs : List Text → List (Text × Text)
  | a :: b :: rest => (a, b) :: pairs rest
  | _ => []

/-- The names of flags with the letters of the flags. -/
def flags : List (Text × Text) := pairs (Text.words flagNames)

/-- The names of people and of parts of the body. -/
def people : List (Text × Text) := pairs (Text.words peopleNames)

/-- All other names. -/
def things : List (Text × Text) := pairs (Text.words thingNamesToM ++ Text.words thingNamesFromN)

/-- The flag with two letters: each of them in its form for flags. -/
def flag (letters : Text) : Text := letters.map fun c => Char.ofNat (0x1F1E6 + (c.toNat - 'A'.toNat))

/-- The names of the skin tones. -/
def skinTones : List (Text × Char) :=
  [("light", '🏻'), ("medium-light", '🏼'), ("medium", '🏽'), ("medium-dark", '🏾'), ("dark", '🏿')]

/-- An emoji with a skin tone, which stands behind its first character and replaces the sign for the coloured form. -/
def withTone (tone : Char) : Text → Text
  | first :: '\ufe0f' :: rest => first :: tone :: rest
  | first :: rest => first :: tone :: rest
  | [] => []

/-- The emoji with a name that ends in a skin tone. -/
def toned? (name : Text) : Option Text :=
  skinTones.findSome? fun (tone, sign) =>
    let ending := '_' :: tone ++ ("_skin_tone" : Text)
    if Text.endsWith ending name then (people.lookup (name.take (name.length - ending.length))).map (withTone sign)
    else none

/-- The emoji with a name. -/
def find? (name : Text) : Option Text :=
  things.lookup name <|> people.lookup name <|> (flags.lookup name).map flag <|> toned? name

/-! ## Replacement -/

/-- The signs that ask for a form, with the endings of a name that stand for them. -/
def forms : List (Text × Char) := [("-text", '\ufe0e'), ("-emoji", '\ufe0f')]

/-- What a name between colons stands for. -/
def meaning? (written : Text) : Option Text :=
  let (name, sign) := match forms.find? fun (ending, _) => Text.endsWith ending written with
    | some (ending, sign) => (written.take (written.length - ending.length), [sign])
    | none => (written, [])
  (find? (Text.lower name)).map (· ++ sign)

/-- A text with emoji in the place of their names. -/
def replace : Text → Text
  | [] => []
  | c :: rest =>
    if c == ':' then
      let name := rest.takeWhile fun d => d != ':' && !Text.isBlank d
      match _h : rest.drop name.length with
      | ':' :: after => (meaning? name).getD (':' :: name ++ [':']) ++ replace after
      | _ => c :: replace rest
    else c :: replace rest
termination_by t => t.length
decreasing_by
  · have := congrArg List.length _h
    simp only [List.length_drop, List.length_cons] at this ⊢
    omega
  · simp
  · simp

end ImportChart.Markup.Emoji
