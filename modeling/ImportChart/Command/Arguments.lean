import ImportChart.Scan.Policy
import ImportChart.Text.Numeral

/-!
# The arguments of the program

The commands and their options are those of the program. How arguments are taken for options is the rule of the `typer`
package, which the program is built with.

- `OptionSpec` and `parseOptions`: options with and without values, between or before the other arguments;
- `Invocation`: what the program is asked to do, and `Invocation.ofArguments`.

By that rule a long option is given by its full name, with its value behind an equals sign or as the next argument.
Short options may be run together, and the value of the last one may follow at once. Two dashes end the options.
-/

namespace ImportChart.Command

/-! ## Options -/

/-- The names of an option, and whether it takes a value. -/
structure OptionSpec where
  long : List Text
  short : List Char
  takesValue : Bool

/-- An option as it was given: its first long name, and its value if it takes one. -/
structure GivenOption where
  name : Text
  value : Text
  deriving DecidableEq, Repr

/-- The options that were given, in order, and the other arguments. -/
structure Split where
  options : List GivenOption
  others : List Text
  deriving DecidableEq, Repr

/-- The name that an option is known by: its first long name. -/
def OptionSpec.name (s : OptionSpec) : Text := s.long.headD []

/-- Read a run of short options. The answer is the options, and the arguments that are left. -/
def parseShort (specs : List OptionSpec) : Text → List Text → Option (List GivenOption × List Text)
  | [], rest => some ([], rest)
  | c :: more, rest =>
    match specs.find? fun s => s.short.contains c with
    | none => none
    | some s =>
      if !s.takesValue then
        (parseShort specs more rest).map fun (given, rest) => (⟨s.name, []⟩ :: given, rest)
      else if !more.isEmpty then some ([⟨s.name, more⟩], rest)
      else
        match rest with
        | [] => none
        | value :: rest => some ([⟨s.name, value⟩], rest)

/-- Read an option. The answer is the options it stands for, and the arguments that are left. -/
def parseOption (specs : List OptionSpec) (argument : Text) (rest : List Text) :
    Option (List GivenOption × List Text) :=
  let (name, attached) := Text.splitOnce '=' argument
  let hasAttached := '=' ∈ argument
  match specs.find? fun s => s.long.contains name with
  | some s =>
    let given := if s.takesValue then s.name else name
    if !s.takesValue then if hasAttached then none else some ([⟨given, []⟩], rest)
    else if hasAttached then some ([⟨given, attached⟩], rest)
    else
      match rest with
      | [] => none
      | value :: rest => some ([⟨given, value⟩], rest)
  | none => if Text.startsWith "--" argument then none else parseShort specs (argument.drop 1) rest

/-- Whether an argument is an option: it begins with a dash and is not only a dash. -/
def isOption (argument : Text) : Bool := argument.head? == some '-' && 1 < argument.length

/-- Reading an option takes no arguments but those behind it. -/
theorem length_le_of_parseShort {specs : List OptionSpec} {t : Text} {rest left : List Text} {given : List GivenOption}
    (h : parseShort specs t rest = some (given, left)) : left.length ≤ rest.length := by
  induction t generalizing given left with
  | nil => simp [parseShort] at h; simp [h.2]
  | cons c more ih =>
    rw [parseShort] at h
    split at h
    · nomatch h
    · split at h
      · obtain ⟨⟨g, l⟩, hl, he⟩ := Option.map_eq_some_iff.1 h
        obtain ⟨-, rfl⟩ := Prod.mk.inj he
        exact ih hl
      · split at h
        · obtain ⟨-, rfl⟩ := Prod.mk.inj (Option.some.inj h); exact Nat.le_refl _
        · split at h
          · nomatch h
          · obtain ⟨-, rfl⟩ := Prod.mk.inj (Option.some.inj h); simp

/-- Reading an option takes no arguments but those behind it. -/
theorem length_le_of_parseOption {specs : List OptionSpec} {a : Text} {rest left : List Text}
    {given : List GivenOption} (h : parseOption specs a rest = some (given, left)) : left.length ≤ rest.length := by
  unfold parseOption at h
  dsimp only at h
  repeat' split at h
  all_goals first
    | exact length_le_of_parseShort h
    | (obtain ⟨-, rfl⟩ := Prod.mk.inj (Option.some.inj h); simp)
    | cases h

/-- Split arguments into options and others. Without `mixed`, the options end at the first other argument. -/
def parseOptions (specs : List OptionSpec) (mixed : Bool) : List Text → Option Split
  | [] => some ⟨[], []⟩
  | argument :: rest =>
    if argument == ("--" : Text) then some ⟨[], rest⟩
    else if isOption argument then
      match _h : parseOption specs argument rest with
      | none => none
      | some (given, left) =>
        (parseOptions specs mixed left).map fun s => { s with options := given ++ s.options }
    else if mixed then (parseOptions specs mixed rest).map fun s => { s with others := argument :: s.others }
    else some ⟨[], argument :: rest⟩
termination_by arguments => arguments.length
decreasing_by
  · have := length_le_of_parseOption (by assumption); simp; omega
  · simp

namespace Split

/-- The values of an option, in order. -/
def values (s : Split) (name : Text) : List Text := (s.options.filter fun o => o.name = name).map (·.value)

/-- The value of an option; the last one wins. -/
def value? (s : Split) (name : Text) : Option Text := (s.values name).getLast?

end Split

/-! ## Invocations -/

/-- What the program is asked to do. -/
inductive Invocation where
  | version
  | generate (path : Text) (output : Option Text) (ignores : List Text)
  | exportSvg (path input output : Text) (maxTextSize : Option Int)
  | view (path input output : Text) (opens : Bool)
  | showSettings
  | setSetting (key value : Text)
  | resetSettings
  deriving DecidableEq, Repr

namespace Invocation

/-- The options before the name of a command. -/
def globalOptions : List OptionSpec := [⟨["--version"], ['v'], false⟩, ⟨["--verbose"], [], false⟩]

/-- The option for the file that is written. -/
def outputOption : OptionSpec := ⟨["--output"], ['o'], true⟩

/-- The option for the file that is read. -/
def inputOption : OptionSpec := ⟨["--input"], ['i'], true⟩

/-- The folder that a command works on; the current one unless it is given. No other argument may follow. -/
def pathOf (others : List Text) : Option Text :=
  match others with
  | [] => some "."
  | [path] => some path
  | _ => none

/-- Read the arguments of `generate`. -/
def readGenerate (arguments : List Text) : Option Invocation := do
  let s ← parseOptions [outputOption, ⟨["--ignore"], ['x'], true⟩] true arguments
  return .generate (← pathOf s.others) (s.value? "--output") (s.values "--ignore")

/-- The greatest text size, which is positive. -/
def sizeOf? (given : Option Text) : Option (Option Int) :=
  match given with
  | none => some none
  | some t => (Text.readPositive? t).map fun n => some (n : Int)

/-- Read the arguments of `export-svg`. -/
def readExport (arguments : List Text) : Option Invocation := do
  let s ← parseOptions [inputOption, outputOption, ⟨["--max-text-size"], [], true⟩] true arguments
  return .exportSvg (← pathOf s.others) ((s.value? "--input").getD Scan.flowFile)
    ((s.value? "--output").getD Scan.svgFile) (← sizeOf? (s.value? "--max-text-size"))

/-- Read the arguments of `view`. -/
def readView (arguments : List Text) : Option Invocation := do
  let s ← parseOptions [inputOption, outputOption, ⟨["--open", "--no-open"], [], false⟩] true arguments
  let choices := s.options.filter fun o => o.name = ("--open" : Text) || o.name = ("--no-open" : Text)
  return .view (← pathOf s.others) ((s.value? "--input").getD Scan.flowFile)
    ((s.value? "--output").getD Scan.pageFile) ((choices.getLast?.map (·.name)) != some "--no-open")

/-- Read the arguments of `config`. -/
def readSettings (arguments : List Text) : Option Invocation := do
  match (← parseOptions [] false arguments).others with
  | [] => none
  | command :: rest =>
    let others := (← parseOptions [] true rest).others
    if command == ("show" : Text) then if others.isEmpty then return .showSettings else none
    else if command == ("reset" : Text) then if others.isEmpty then return .resetSettings else none
    else if command == ("set" : Text) then
      match others with
      | [key, value] => return .setSetting key value
      | _ => none
    else none

/-- Read the name of a command and its arguments. -/
def readCommand (command : Text) (arguments : List Text) : Option Invocation :=
  if command == ("generate" : Text) then readGenerate arguments
  else if command == ("export-svg" : Text) then readExport arguments
  else if command == ("view" : Text) then readView arguments
  else if command == ("config" : Text) then readSettings arguments
  else none

/-- The names of the commands. -/
def commands : List Text := ["generate", "export-svg", "view", "config"]

/-- What arguments ask for. The version is asked for before any command is looked at; where a command is expected, the
options before commands count once more. -/
def ofArguments (arguments : List Text) : Option Invocation := do
  let s ← parseOptions globalOptions false arguments
  if (s.value? "--version").isSome then return .version
  match s.others with
  | [] => none
  | command :: rest =>
    if commands.contains command then readCommand command rest
    else
      let again ← parseOptions globalOptions false s.others
      if (again.value? "--version").isSome then return .version else none

end Invocation

end ImportChart.Command
