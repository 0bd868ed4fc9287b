import Gabarit.Fault
import Gabarit.Number.Shortest

/-!
# Reading JSON piece by piece

An artifact is read from left to right, and each piece is checked when it is met. So of two faults the
first one is told.

* `Input`: what is left to be read; what reads a piece gives back the input after it;
* `Head`, `readHead`: a primitive value, or the bracket that opens a compound one;
* `readNumeral`: a numeral with its point and its exponent;
* `readString`: a text with its escapes;
* `readArray`, `readObject`: members in brackets;
* `skipValue`: passes over a value.
-/

namespace Gabarit.Artifact

/-- Characters, with nothing in the place of bytes that are none. -/
abbrev Input := List (Option Char)

/-- A blank between the pieces of JSON. -/
def isSpace (s : Option Char) : Bool :=
  s == some ' ' || s == some '\n' || s == some '\t' || s == some '\r'

/-- The input after blanks. -/
def skipSpace (input : Input) : Input := input.dropWhile isSpace

/-- The value of four hexadecimal digits at the start of the input. -/
def readUnit : Input → Option (Nat × Input)
  | some a :: some b :: some c :: some d :: rest =>
    match Text.hexDigit? a, Text.hexDigit? b, Text.hexDigit? c, Text.hexDigit? d with
    | some w, some x, some y, some z => some (((w * 16 + x) * 16 + y) * 16 + z, rest)
    | _, _, _, _ => none
  | _ => none

/-- The character that an escape of one letter stands for. -/
def letterEscape? (c : Char) : Option Char :=
  match c with
  | '"' | '\\' | '/' => some c
  | 'b' => some '\x08'
  | 'f' => some '\x0c'
  | 'n' => some '\n'
  | 'r' => some '\r'
  | 't' => some '\t'
  | _ => none

/-- The character of an escape with digits, which may be a pair of units, after its letter. -/
def readCoded (input : Input) : Option (Char × Input) :=
  match readUnit input with
  | none => none
  | some (n, rest) =>
    if 0xDC00 ≤ n ∧ n ≤ 0xDFFF then none
    else if 0xD800 ≤ n ∧ n ≤ 0xDBFF then
      match rest with
      | some '\\' :: some 'u' :: rest =>
        match readUnit rest with
        | some (m, rest) =>
          if 0xDC00 ≤ m ∧ m ≤ 0xDFFF then
            some (Char.ofNat (0x10000 + (n - 0xD800) * 0x400 + (m - 0xDC00)), rest)
          else none
        | none => none
      | _ => none
    else some (Char.ofNat n, rest)

/-- Reads a text after its opening quote, with more fuel than there is input. -/
def readString : Nat → Input → Except ArtifactFault (Input × Input)
  | 0, _ => .error .notJson
  | _, [] => .error .notJson
  | fuel + 1, s :: rest =>
    if s = some '"' then .ok ([], rest)
    else if s = some '\\' then
      let escaped : Option (Char × Input) := match rest with
        | some 'u' :: rest => readCoded rest
        | some c :: rest => (letterEscape? c).map (·, rest)
        | _ => none
      match escaped with
      | none => .error .notJson
      | some (c, rest) => (readString fuel rest).map fun (cs, after) => (some c :: cs, after)
    else if (s.map fun c => decide (c.toNat < 32)).getD false then .error .notJson
    else (readString fuel rest).map fun (cs, after) => (s :: cs, after)

/-- A numeral: its sign, its digits before and after the point, and its exponent. -/
structure Numeral where
  negative : Bool
  whole : List Char
  frac : Option (List Char)
  exponent : Option (Bool × List Char)

namespace Numeral

/-- The digits before and after the point. -/
def digits (n : Numeral) : List Char := n.whole ++ n.frac.getD []

/-- The value of an exponent. -/
def exponentValue : Option (Bool × List Char) → Int
  | none => 0
  | some (negative, es) => if negative then -(Text.numeralValue es : Int) else Text.numeralValue es

/-- The power of ten that goes with the digits. -/
def scale (n : Numeral) : Int := exponentValue n.exponent - (n.frac.getD []).length

/-- The numeral has neither a point nor an exponent. -/
def isInteger (n : Numeral) : Bool := n.frac.isNone && n.exponent.isNone

/-- The number of characters of the sign and the digits before the point. -/
def width (n : Numeral) : Nat := (if n.negative then 1 else 0) + n.whole.length

end Numeral

/-- The digits at the start of the input. -/
def takeDigits : Input → List Char × Input
  | some c :: rest =>
    if (Text.asciiDigit? c).isSome then
      let (ds, after) := takeDigits rest
      (c :: ds, after)
    else ([], some c :: rest)
  | rest => ([], rest)

/-- Reads the minus of a numeral. -/
def readMinus : Input → Bool × Input
  | some '-' :: rest => (true, rest)
  | rest => (false, rest)

/-- Reads the sign of an exponent. -/
def readSign : Input → Bool × Input
  | some '+' :: rest => (false, rest)
  | rest => readMinus rest

/-- Reads at least one digit. -/
def readDigits (input : Input) : Except ArtifactFault (List Char × Input) :=
  match takeDigits input with
  | ([], _) => .error .notJson
  | (ds, rest) => .ok (ds, rest)

/-- Reads a point with the digits after it, if one stands here. -/
def readFraction : Input → Except ArtifactFault (Option (List Char) × Input)
  | some '.' :: rest => (readDigits rest).map fun (ds, rest) => (some ds, rest)
  | rest => .ok (none, rest)

/-- Reads an exponent, if one stands here. -/
def readExponent : Input → Except ArtifactFault (Option (Bool × List Char) × Input)
  | some 'e' :: rest | some 'E' :: rest =>
    let (negative, rest) := readSign rest
    (readDigits rest).map fun (ds, rest) => (some (negative, ds), rest)
  | rest => .ok (none, rest)

/-- Reads a numeral. Only a zero starts with a zero, and digits follow a point or an exponent. -/
def readNumeral (input : Input) : Except ArtifactFault (Numeral × Input) := do
  let (negative, rest) := readMinus input
  let (whole, rest) ← readDigits rest
  if whole.head? = some '0' ∧ whole.length ≠ 1 then throw .notJson
  let (frac, rest) ← readFraction rest
  let (exponent, rest) ← readExponent rest
  return (⟨negative, whole, frac, exponent⟩, rest)

/-- A primitive value, or the bracket that opens a compound one. -/
inductive Head where
  | null
  | bool (b : Bool)
  | number (n : Numeral)
  | text (s : Input)
  | array
  | object

/-- Reads a word after its first letter. -/
def readWord (word : String) (head : Head) (input : Input) : Except ArtifactFault (Head × Input) :=
  let rest := word.toList.map some
  if rest.isPrefixOf input then .ok (head, input.drop rest.length) else .error .notJson

/-- Reads the head of a value. -/
def readHead (input : Input) : Except ArtifactFault (Head × Input) :=
  match skipSpace input with
  | some '"' :: rest => (readString (rest.length + 1) rest).map fun (s, after) => (.text s, after)
  | some '[' :: rest => .ok (.array, rest)
  | some '\x7b' :: rest => .ok (.object, rest)
  | some 'n' :: rest => readWord "ull" .null rest
  | some 't' :: rest => readWord "rue" (.bool true) rest
  | some 'f' :: rest => readWord "alse" (.bool false) rest
  | some c :: rest =>
    if c = '-' ∨ (Text.asciiDigit? c).isSome then
      (readNumeral (some c :: rest)).map fun (n, after) => (.number n, after)
    else .error .notJson
  | _ => .error .notJson

variable {α σ : Type}

/-- What stands before the next member of brackets that `close` closes: nothing more, or a member. A
comma divides members and does not end them. -/
def nextMember (close : Char) (first : Bool) (input : Input) : Except ArtifactFault (Bool × Input) :=
  match skipSpace input with
  | some c :: rest =>
    if c = close then .ok (false, rest)
    else if first then .ok (true, some c :: rest)
    else if c = ',' then
      match skipSpace rest with
      | some d :: after => if d = close then .error .notJson else .ok (true, some d :: after)
      | after => .ok (true, after)
    else .error .notJson
  | _ => .error .notJson

/-- Reads the members of an array after its bracket. -/
def readArray (item : Input → Except ArtifactFault (α × Input)) :
    Nat → Bool → Input → Except ArtifactFault (List α × Input)
  | 0, _, _ => .error .notJson
  | fuel + 1, first, input => do
    let (more, rest) ← nextMember ']' first input
    if more then
      let (a, rest) ← item rest
      let (as, rest) ← readArray item fuel false rest
      return (a :: as, rest)
    else return ([], rest)

/-- Reads a key and the colon after it. -/
def readKey (input : Input) : Except ArtifactFault (Input × Input) := do
  match input with
  | some '"' :: rest =>
    let (key, rest) ← readString (rest.length + 1) rest
    match skipSpace rest with
    | some ':' :: rest => return (key, rest)
    | _ => throw .notJson
  | _ => throw .notJson

/-- Reads the fields of an object after its bracket; each one changes what is known. -/
def readObject (field : Input → σ → Input → Except ArtifactFault (σ × Input)) :
    Nat → Bool → σ → Input → Except ArtifactFault (σ × Input)
  | 0, _, _, _ => .error .notJson
  | fuel + 1, first, state, input => do
    let (more, rest) ← nextMember '\x7d' first input
    if more then
      let (key, rest) ← readKey rest
      let (state, rest) ← field key state rest
      readObject field fuel false state rest
    else return (state, rest)

/-- Values nest no deeper than this. How deep they may nest depends on where the reader is called, and on settings
of the platform: this is the limit for the usual ones. -/
def nestingLimit : Nat := 980

/-- Passes over a value; `depth` is how deep it may nest. -/
def skipValue (fuel : Nat) : Nat → Input → Except ArtifactFault (Unit × Input)
  | 0, _ => .error .tooDeep
  | depth + 1, input => do
    let (head, rest) ← readHead input
    match head with
    | .array => (readArray (skipValue fuel depth) fuel true rest).map fun (_, after) => ((), after)
    | .object => readObject (fun _ _ rest => skipValue fuel depth rest) fuel true () rest
    | _ => return ((), rest)

end Gabarit.Artifact
