import Gabarit.Disk.Path

/-!
# Arguments of the command line

* `Request`: what the command line asks for;
* `Request.parse`: the request of arguments; without one they are used wrongly.

Options come before or among the arguments of a command; two hyphens end them. A value stands after its
option, or is attached to it: with an equals sign to a long one, directly to a letter.
-/

namespace Gabarit

/-- Rendering a template. -/
structure RenderRequest where
  name : String
  data : Option Path
  assignments : List String
  config : Option Path
  output : Option Path

/-- What the command line asks for. -/
inductive Request where
  | version
  | help
  | render (request : RenderRequest)
  | compile (names : List String) (config : Option Path)

namespace Request

/-- The options. -/
inductive Flag where
  | version
  | help
  | verbose
  | data
  | assignment
  | config
  | output
  deriving DecidableEq, Repr

/-- The option has a value. -/
def Flag.takesValue : Flag → Bool
  | .version | .help | .verbose => false
  | _ => true

/-- Options by their names. -/
abbrev Flags := List (String × Flag)

/-- The options before a command. -/
def commonFlags : Flags := [("--version", .version), ("--help", .help)]

/-- The options of the command that compiles. -/
def compileFlags : Flags :=
  [("-c", .config), ("--config", .config), ("-v", .verbose), ("--verbose", .verbose), ("--help", .help)]

/-- The options of the command that renders. -/
def renderFlags : Flags :=
  compileFlags ++ [("-d", .data), ("--data", .data), ("--set", .assignment), ("-o", .output),
    ("--output", .output)]

/-- The options that were given, with their values, and the other arguments. -/
structure Given where
  flags : List (Flag × String) := []
  others : List String := []

/-- Adds an option to those that come after it. -/
def Given.withFlag (flag : Flag) (value : String) (g : Given) : Given :=
  { g with flags := (flag, value) :: g.flags }

/-- What an argument holds of options: these with their values, and an option that lacks its value. -/
structure Letters where
  flags : List (Flag × String) := []
  open? : Option Flag := none

/-- Reads options of one letter after a hyphen; the rest after one that has a value is its value. -/
def readLetters (known : Flags) : List Char → Option Letters
  | [] => some {}
  | c :: rest => do
    let flag ← known.lookup (String.ofList ['-', c])
    if flag.takesValue then
      if rest.isEmpty then return { open? := some flag }
      else return { flags := [(flag, String.ofList rest)] }
    else
      let more ← readLetters known rest
      return { more with flags := (flag, "") :: more.flags }

/-- Reads an argument that starts with a hyphen. -/
def readFlag (known : Flags) (arg : String) : Option Letters :=
  let cs := arg.toList
  let name := cs.takeWhile (· != '=')
  let isLong := name.length ≠ 2
  match if isLong then known.lookup (String.ofList name) else none with
  | some flag =>
    match flag.takesValue, cs.drop name.length with
    | true, [] => some { open? := some flag }
    | true, _ :: value => some { flags := [(flag, String.ofList value)] }
    | false, [] => some { flags := [(flag, "")] }
    | false, _ => none
  | none => if cs.take 2 = ['-', '-'] then none else readLetters known (cs.drop 1)

/-- Reads arguments. `mixed` tells whether options can follow other arguments. -/
def readArguments (known : Flags) (mixed : Bool) : List String → Option Given
  | [] => some {}
  | arg :: rest =>
    if arg = "--" then some { others := rest }
    else if arg.toList.head? = some '-' ∧ arg ≠ "-" then do
      let letters ← readFlag known arg
      let add (g : Given) : Given := { g with flags := letters.flags ++ g.flags }
      match letters.open?, rest with
      | none, rest => return add (← readArguments known mixed rest)
      | some _, [] => none
      | some flag, value :: rest =>
        return add ((← readArguments known mixed rest).withFlag flag value)
    else if mixed then
      (readArguments known mixed rest).map fun g => { g with others := arg :: g.others }
    else some { others := arg :: rest }

/-- The values of an option, in order. -/
def Given.values (g : Given) (flag : Flag) : List String :=
  (g.flags.filter (·.1 = flag)).map (·.2)

/-- The path that an option gives; the last one counts. -/
def Given.path? (g : Given) (flag : Flag) : Option Path := (g.values flag).getLast?.map .ofText

/-- The option was given. -/
def Given.has (g : Given) (flag : Flag) : Bool := !(g.values flag).isEmpty

/-- The request of the arguments of the command that renders. -/
def parseRender (args : List String) : Option Request := do
  let g ← readArguments renderFlags true args
  if g.has .help then return .help
  let [name] := g.others | none
  return .render ⟨name, g.path? .data, g.values .assignment, g.path? .config, g.path? .output⟩

/-- The request of the arguments of the command that compiles. -/
def parseCompile (args : List String) : Option Request := do
  let g ← readArguments compileFlags true args
  if g.has .help then return .help
  return .compile g.others (g.path? .config)

/-- The request of arguments. -/
def parse (args : List String) : Option Request := do
  let g ← readArguments commonFlags false args
  match g.flags, g.others with
  | (.version, _) :: _, _ => return .version
  | (.help, _) :: _, _ => return .help
  | _, "render" :: rest => parseRender rest
  | _, "compile" :: rest => parseCompile rest
  | _, _ => none

end Request

end Gabarit
