import Gabarit.Text.CharName
import Gabarit.Text.Quoted

/-!
# Reading escapes

The inverse of writing quoted text, for everything that may stand between quotes.

* `unescape`: the code points that a body with escapes stands for, if every escape is well formed;
* `unescapeBytes`: whether a body stands for bytes.

A backslash before a character that starts no escape stands for itself.
-/

namespace Gabarit.Text

/-- The value of an octal digit. -/
def octalDigit? (c : Char) : Option Nat :=
  if 48 ≤ c.toNat ∧ c.toNat ≤ 55 then some (c.toNat - 48) else none

/-- Reads up to `count` octal digits after the value `v`. -/
def readOctal : Nat → Nat → List Char → Nat × List Char
  | 0, v, cs => (v, cs)
  | _, v, [] => (v, [])
  | count + 1, v, c :: rest =>
    match octalDigit? c with
    | some d => readOctal count (8 * v + d) rest
    | none => (v, c :: rest)

/-- Reads exactly `count` hexadecimal digits. -/
def readHex : Nat → Nat → List Char → Option (Nat × List Char)
  | 0, v, cs => some (v, cs)
  | _, _, [] => none
  | count + 1, v, c :: rest =>
    match hexDigit? c with
    | some d => readHex count (16 * v + d) rest
    | none => none

/-- The character that a one-letter escape stands for. -/
def shortEscape? (c : Char) : Option Char :=
  match c with
  | '\\' | '\'' | '"' => some c
  | 'a' => some '\x07'
  | 'b' => some '\x08'
  | 'f' => some '\x0c'
  | 'n' => some '\n'
  | 'r' => some '\r'
  | 't' => some '\t'
  | 'v' => some '\x0b'
  | _ => none

/-- What an escape stands for, from the character after its backslash, and the text after it. -/
def readEscape (c : Char) (rest : List Char) : Option (List Point × List Char) :=
  if c = '\n' then some ([], rest)
  else if let some d := shortEscape? c then some ([.char d], rest)
  else if (octalDigit? c).isSome then
    let (v, r) := readOctal 3 0 (c :: rest)
    some ([.char (Char.ofNat v)], r)
  else
    let coded (count : Nat) : Option (List Point × List Char) :=
      (readHex count 0 rest).bind fun (v, r) => (Point.ofCode? v).map fun p => ([p], r)
    if c = 'x' then coded 2
    else if c = 'u' then coded 4
    else if c = 'U' then coded 8
    else if c = 'N' then
      match rest with
      | '\x7b' :: r =>
        match r.dropWhile (· != '\x7d') with
        | _ :: after => (charNamed? (r.takeWhile (· != '\x7d'))).map fun d => ([.char d], after)
        | [] => none
      | _ => none
    else some ([.char '\\', .char c], rest)

/-- `unescape`, with more fuel than there are characters. -/
def unescapeFrom : Nat → List Char → Option (List Point)
  | 0, _ => none
  | _, [] => some []
  | fuel + 1, c :: rest =>
    if c = '\\' then
      match rest with
      | [] => none
      | e :: r =>
        match readEscape e r with
        | some (out, after) => (unescapeFrom fuel after).map (out ++ ·)
        | none => none
    else (unescapeFrom fuel rest).map (.char c :: ·)

/-- The code points that a body with escapes stands for. -/
def unescape (cs : List Char) : Option (List Point) := unescapeFrom (cs.length + 1) cs

/-- Every `\x` of a body is followed by two hexadecimal digits. -/
def hexEscapesComplete : List Char → Bool
  | '\\' :: 'x' :: a :: b :: rest =>
    (hexDigit? a).isSome && (hexDigit? b).isSome && hexEscapesComplete rest
  | '\\' :: 'x' :: _ => false
  | '\\' :: _ :: rest => hexEscapesComplete rest
  | _ :: rest => hexEscapesComplete rest
  | [] => true

/-- A body stands for bytes: it is ASCII, and its escapes, if it has any, are well formed. -/
def isBytesBody (raw : Bool) (cs : List Char) : Bool :=
  cs.all (·.toNat < 128) && (raw || hexEscapesComplete cs)

end Gabarit.Text
