import Gabarit.Fault
import Gabarit.Yaml.Load

/-!
# Assignments

* `Assignment`: a name with its value, as it is given on a command line;
* `Assignment.parse`: the assignment of a text, or what is wrong with it.
-/

namespace Gabarit

/-- A name with its value. -/
structure Assignment where
  key : String
  value : Value

namespace Assignment

/-- Why a text is no assignment. -/
inductive Refusal where
  /-- The text has no equals sign. -/
  | noSign (text : String)
  /-- The equals sign has no name before it. -/
  | noKey (text : String)
  /-- The value fails in a way that makes the document no malformed one. -/
  | value (cause : Fault)
  deriving DecidableEq

/-- The text of a refusal that is the fault of the command line. -/
def Refusal.message? : Refusal → Option String
  | .noSign text => some ("Must be KEY=VALUE, got: " ++ Text.quoted text)
  | .noKey text => some ("Empty key in: " ++ Text.quoted text)
  | .value _ => none

/-- The value of a text: a YAML document, or the text itself if it is malformed as such. -/
def valueOf (text : String) : Except Refusal Value :=
  if text = "" then .ok (.str "")
  else match Yaml.load text with
    | .ok v => .ok v
    | .error f => if f.isMalformed then .ok (.str text) else .error (.value (.document f))

/-- The assignment of a text: the name ends at the first equals sign. -/
def parse (text : String) : Except Refusal Assignment :=
  let cs := text.toList
  let key := String.ofList (cs.takeWhile (· != '='))
  match cs.dropWhile (· != '=') with
  | [] => .error (.noSign text)
  | _ :: rest =>
    if key = "" then .error (.noKey text)
    else (valueOf (String.ofList rest)).map (⟨key, ·⟩)

end Assignment

end Gabarit
