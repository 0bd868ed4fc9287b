import Gabarit.Disk.Path
import Gabarit.Value.Lookup

/-!
# Errors

The errors that the engine reports, with their causes and their texts.

* `TagError`: what is wrong with a tag;
* `CompileError`: a tag error with the tag and its place;
* `Error`: all errors of the engine;
* `Failure`: an error of the engine, or a fault that is not caught by it;
* `Error.message`: the text of an error.
-/

namespace Gabarit

/-- Why the arguments of a filter call do not fit its signature. -/
inductive BindFault where
  | tooMany
  | missing (name : String)
  deriving DecidableEq

/-- What is wrong with a tag. -/
inductive TagError where
  | invalidPath
  | expectedLiteral
  | manyComparisons
  | manyPlaceholders
  | invalidFilter
  | quotedPlaceholder
  | argumentNotLiteral
  | missingArgument
  | badArguments (cause : BindFault)
  | unknownBlock
  | unknownFilter
  | unexpectedEnd
  | unclosedBlock
  deriving DecidableEq

/-- The classes of compile errors. -/
inductive CompileKind where
  | malformedTag
  | unknownBlock
  | unknownFilter
  | unbalancedBlock
  deriving DecidableEq

/-- The class of a tag error. -/
def TagError.kind : TagError → CompileKind
  | .unknownBlock => .unknownBlock
  | .unknownFilter => .unknownFilter
  | .unexpectedEnd | .unclosedBlock => .unbalancedBlock
  | _ => .malformedTag

/-- The text of a failed call shape. -/
def BindFault.message : BindFault → String
  | .tooMany => "too many positional arguments"
  | .missing name => "missing a required argument: " ++ Text.quoted name

/-- The text of a tag error. -/
def TagError.message : TagError → String
  | .invalidPath => "Invalid field path"
  | .expectedLiteral => "Expected a literal"
  | .manyComparisons => "Only one comparison is allowed"
  | .manyPlaceholders => "Only one %s placeholder is allowed"
  | .invalidFilter => "Invalid filter"
  | .quotedPlaceholder => "Placeholder must be a bare argument"
  | .argumentNotLiteral => "Filter arguments must be literals"
  | .missingArgument => "Missing block argument"
  | .badArguments cause => "Bad arguments for filter (" ++ cause.message ++ ")"
  | .unknownBlock => "Invalid template block"
  | .unknownFilter => "Unknown filter"
  | .unexpectedEnd => "Unexpected end"
  | .unclosedBlock => "Unclosed block"

/-- An error in a template: its cause, the text it is about, and where it stands. -/
structure CompileError where
  cause : TagError
  token : String
  line : Option Nat := none
  template : Option String := none
  deriving DecidableEq

/-- The text of a compile error: the place, what is wrong and the text it is about. A template without
a name stands for a text that was given as it is. -/
def CompileError.message (e : CompileError) : String :=
  let name := match e.template with
    | some t => if t = "" then "<string>" else t
    | none => "<string>"
  let place := match e.line with
    | some n => name ++ ":" ++ Text.numeral n
    | none => name
  place ++ ": " ++ e.cause.message ++ ": " ++ Text.quoted e.token

/-- Fills in the place of an error where it has none. -/
def CompileError.locate (line : Nat) (template : Option String) (e : CompileError) : CompileError :=
  { e with line := e.line.or (some line), template := e.template.or template }

/-- Why an artifact is not used. -/
inductive ArtifactProblem where
  /-- The file cannot be read. -/
  | file (cause : FileFault)
  /-- The content is no program. -/
  | content
  /-- The content is of another version. -/
  | version (found expected : Int)
  /-- A block opens at `node` and jumps to `target`, which is not after it. -/
  | jump (node : Nat) (target : Int)
  /-- The node that a block jumps to does not close it. -/
  | notClosed (node : Nat) (target : Int)
  /-- A closing node names an opener that is not before it. -/
  | closer (node : Nat) (opener : Int)
  /-- The node that a closing node names does not open its block. -/
  | notOpened (node : Nat) (opener : Int)
  deriving DecidableEq

/-- The text of a problem with an artifact. -/
def ArtifactProblem.message : ArtifactProblem → String
  | .file cause => cause.message
  | .content => "not a program"
  | .version found expected =>
    "format version " ++ Text.intNumeral found ++ " != " ++ Text.intNumeral expected
  | .jump n t => "node " ++ Text.numeral n ++ " jumps to " ++ Text.intNumeral t
  | .notClosed n t => "node " ++ Text.numeral n ++ " is not closed by node " ++ Text.intNumeral t
  | .closer n t => "end node " ++ Text.numeral n ++ " points at " ++ Text.intNumeral t
  | .notOpened n t => "end node " ++ Text.numeral n ++ " is not opened by node " ++ Text.intNumeral t

/-- An error of the engine. -/
inductive Error where
  | compile (e : CompileError)
  /-- Neither the template nor its fallback exists; `searched` is empty for a name that is refused. -/
  | notFound (name : String) (searched : List Path)
  | unreadable (path : Path) (reason : String)
  | unwritable (path : Path) (reason : String)
  | badArtifact (path : Path) (problem : ArtifactProblem)
  | undefined (expr : String) (part : PathPart)
  | notIterable (expr typeName : String)
  | filter (name reason : String)
  /-- An error that a filter reports itself. -/
  | render (text : String)
  deriving DecidableEq

/-- The text of an error. -/
def Error.message : Error → String
  | .compile e => e.message
  | .notFound name searched =>
    "Template not found: " ++ name ++
      (if searched.isEmpty then ""
        else " (searched: " ++ ", ".intercalate (searched.map Path.text) ++ ")")
  | .unreadable path reason => "Could not read template " ++ path.text ++ ": " ++ reason
  | .unwritable path reason => "Could not write compiled template " ++ path.text ++ ": " ++ reason
  | .badArtifact path problem =>
    "Unreadable compiled template " ++ path.text ++ ": " ++ problem.message
  | .undefined expr part => "Undefined field " ++ part.written ++ " in " ++ Text.quoted expr
  | .notIterable expr typeName =>
    "Cannot iterate over " ++ Text.quoted expr ++ " (got " ++ typeName ++ ")"
  | .filter name reason => "Filter " ++ Text.quoted name ++ " failed: " ++ reason
  | .render text => text

/-- What ends a compilation or a rendering: an error of the engine, or a fault that it does not turn
into one. -/
inductive Failure where
  | error (e : Error)
  | fault (f : Fault)
  deriving DecidableEq

namespace Failure

/-- The failure of a tag. -/
def tag (token : String) (cause : TagError) : Failure := .error (.compile { cause, token })

/-- Fills in the place of a compile error. -/
def locate (line : Nat) (template : Option String) : Failure → Failure
  | .error (.compile e) => .error (.compile (e.locate line template))
  | f => f

end Failure

end Gabarit
