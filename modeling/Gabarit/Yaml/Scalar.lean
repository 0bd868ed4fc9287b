import Gabarit.Text.Span
import Gabarit.Yaml.Basic
import Gabarit.Yaml.Position

/-!
# Scalars

The texts of a document are written plain, between quotes, or as indented blocks. Lines of plain and
quoted texts and of folded blocks are joined by spaces; an empty line stands for a line end.

* `readPlain`: a plain text;
* `readQuoted`: a text between quotes;
* `readBlock`: a block.

Each is given a position and tells the text and the position after it.
-/

namespace Gabarit.Yaml

/-- A text with the position after it. -/
abbrev Piece := List Char × Position

/-- A text in which escapes may have put surrogates, with the position after it. -/
abbrev QuotedPiece := List Text.Point × Position

/-- What stands between two lines of a text that are joined: a space, or the line ends after the first
one. -/
def joinLines (first : List Char) (more : List Char) : List Char :=
  if first != ['\n'] then first ++ more
  else if more.isEmpty then [' '] else more

/-! ## Plain texts -/

/-- A character that ends a plain text in brackets. -/
def isFlowMark (c : Char) : Bool :=
  c == ',' || c == '[' || c == ']' || c == '\x7b' || c == '\x7d'

/-- The characters of a plain text that stand together. -/
def plainWord (flow : Bool) : List Char → List Char
  | [] => []
  | c :: rest =>
    let next := rest.headD '\x00'
    if isGap c || (c == ':' && (isGap next || (flow && isFlowMark next))) ||
        (flow && (isFlowMark c || c == '?')) then []
    else c :: plainWord flow rest

/-- The line ends and the spaces around them, unless a divider of documents stands among them. -/
def plainBreaks : Nat → List Char → Position → Option (List Char) × Position
  | 0, found, p => (some found, p)
  | fuel + 1, found, p =>
    if p.head == ' ' then plainBreaks fuel found p.next
    else if isBreak p.head then
      let (ends, p) := p.takeBreak
      if p.atDivider then (none, p) else plainBreaks fuel (found ++ ends) p
    else (some found, p)

/-- What stands between two words of a plain text, whether it holds a line end, and the position after
it. Nothing ends the text. -/
def plainSpaces (p : Position) : List Char × Bool × Position :=
  let (blanks, p) := p.span (· == ' ')
  if isBreak p.head then
    let (first, p) := p.takeBreak
    if p.atDivider then ([], true, p)
    else match plainBreaks (p.rest.length + 1) [] p with
      | (some more, p) => (joinLines first more, true, p)
      | (none, p) => ([], true, p)
  else (blanks, false, p)

/-- Reads a plain text after the words that were read; `spaces` is what stands after these, and `broken`
tells whether a line end is in it. -/
def plainFrom (flow : Bool) (indent : Int) : Nat → List Char → List Char → Bool → Position →
    List Char × Bool × Position
  | 0, found, _, broken, p => (found, broken, p)
  | fuel + 1, found, spaces, broken, p =>
    if p.head == '#' then (found, broken, p)
    else
      let word := plainWord flow p.rest
      if word.isEmpty then (found, broken, p)
      else
        let found := found ++ spaces ++ word
        let (spaces, broken, p) := plainSpaces (p.skip word.length)
        if spaces.isEmpty || p.head == '#' || (!flow && (p.column : Int) < indent) then
          (found, broken, p)
        else plainFrom flow indent fuel found spaces broken p

/-- Reads a plain text, whose lines are indented to `indent` unless they stand in brackets, and tells
whether it ends at a line end. -/
def readPlain (flow : Bool) (indent : Int) (p : Position) : List Char × Bool × Position :=
  plainFrom flow indent (p.rest.length + 1) [] [] false p

/-! ## Quoted texts -/

/-- The line ends between lines of a quoted text, where no divider of documents can stand. -/
def quotedBreaks : Nat → List Char → Position → Except Fault Piece
  | 0, found, p => .ok (found, p)
  | fuel + 1, found, p =>
    if p.atDivider then .error .badToken
    else
      let p := p.skipWhile fun c => c == ' ' || c == '\t'
      if isBreak p.head then
        let (ends, p) := p.takeBreak
        quotedBreaks fuel (found ++ ends) p
      else .ok (found, p)

/-- The blanks of a quoted text, with the line ends among them. -/
def quotedSpaces (p : Position) : Except Fault Piece :=
  let (blanks, p) := p.span fun c => c == ' ' || c == '\t'
  if p.head == '\x00' then .error .badToken
  else if isBreak p.head then do
    let (first, p) := p.takeBreak
    let (more, p) ← quotedBreaks (p.rest.length + 1) [] p
    return (joinLines first more, p)
  else .ok (blanks, p)

/-- The character that an escape of one letter stands for. -/
def letterEscape? (c : Char) : Option Char :=
  match c with
  | '0' => some '\x00'
  | 'a' => some '\x07'
  | 'b' => some '\x08'
  | 't' | '\t' => some '\t'
  | 'n' => some '\n'
  | 'v' => some '\x0b'
  | 'f' => some '\x0c'
  | 'r' => some '\r'
  | 'e' => some '\x1b'
  | ' ' | '"' | '\\' | '/' => some c
  | 'N' => some '\u0085'
  | '_' => some '\u00a0'
  | 'L' => some '\u2028'
  | 'P' => some '\u2029'
  | _ => none

/-- The number of digits in an escape of a character code. -/
def codeEscape? (c : Char) : Option Nat :=
  if c = 'x' then some 2 else if c = 'u' then some 4 else if c = 'U' then some 8 else none

/-- The code point of a number. -/
def pointOfCode (n : Nat) : Except Fault Text.Point :=
  if Nat.pow 2 31 ≤ n then .error .codeRange
  else match Text.Point.ofCode? n with
    | some point => .ok point
    | none => .error .badNumber

/-- Reads an escape after its backslash. -/
def readEscape (p : Position) : Except Fault QuotedPiece :=
  let c := p.head
  match letterEscape? c, codeEscape? c with
  | some d, _ => .ok ([.char d], p.next)
  | none, some count =>
    let digits := p.next.rest.take count
    if digits.length = count ∧ digits.all (Text.hexDigit? · |>.isSome) then do
      return ([← pointOfCode (Text.hexValue digits)], p.skip (count + 1))
    else .error .badToken
  | none, none =>
    if isBreak c then do
      let (ends, p) ← quotedBreaks (p.rest.length + 1) [] p.takeBreak.2
      return (ends.map .char, p)
    else .error .badToken

/-- Reads a quoted text after the code points that were read, backwards, up to its closing quote. -/
def quotedFrom (double : Bool) : Nat → List Text.Point → Position → Except Fault QuotedPiece
  | 0, _, _ => .error .badToken
  | fuel + 1, found, p =>
    let c := p.head
    if c == '\'' && !double then
      if p.peek 1 == '\'' then quotedFrom double fuel (.char '\'' :: found) (p.skip 2)
      else .ok (found.reverse, p.next)
    else if c == '"' && double then .ok (found.reverse, p.next)
    else if c == '\\' && double then do
      let (points, p) ← readEscape p.next
      quotedFrom double fuel (points.reverse ++ found) p
    else if isGap c then do
      let (cs, p) ← quotedSpaces p
      quotedFrom double fuel ((cs.map .char).reverse ++ found) p
    else quotedFrom double fuel (.char c :: found) p.next

/-- Reads a quoted text after its opening quote. -/
def readQuoted (double : Bool) (p : Position) : Except Fault QuotedPiece :=
  quotedFrom double (p.rest.length + 1) [] p

/-! ## Blocks -/

/-- What is done with the line ends after a block. -/
inductive Chomping where
  /-- One is kept. -/
  | clip
  /-- None is kept. -/
  | strip
  /-- All are kept. -/
  | keep
  deriving DecidableEq

/-- The sign of a chomping. -/
def chomping? (c : Char) : Option Chomping :=
  if c == '+' then some .keep else if c == '-' then some .strip else none

/-- Reads the digit of an indentation, which is not zero. -/
def readIncrement (p : Position) : Except Fault (Option Nat × Position) :=
  if '0' ≤ p.head ∧ p.head ≤ '9' then
    if p.head == '0' then .error .badToken else .ok (some (p.head.toNat - 48), p.next)
  else .ok (none, p)

/-- Reads the signs after the first character of a block: a chomping and an indentation, in any order. -/
def readBlockSigns (p : Position) : Except Fault (Chomping × Option Nat × Position) := do
  let (chomping, increment, p) ← match chomping? p.head with
    | some c => do
      let (increment, p) ← readIncrement p.next
      pure (c, increment, p)
    | none => do
      match ← readIncrement p with
      | (none, p) => pure (Chomping.clip, none, p)
      | (some n, p) =>
        match chomping? p.head with
        | some c => pure (c, some n, p.next)
        | none => pure (Chomping.clip, some n, p)
  if isEnd p.head || p.head == ' ' then return (chomping, increment, p) else throw .badToken

/-- Passes over the rest of a line that holds at most a comment. -/
def skipLine (p : Position) : Except Fault Position :=
  let p := p.skipSpaces.skipComment
  if isEnd p.head then .ok p.takeBreak.2 else .error .badToken

/-- The empty lines at the start of a block, and the widest of the indentations there. -/
def leadingLines : Nat → List Char → Nat → Position → List Char × Nat × Position
  | 0, found, widest, p => (found, widest, p)
  | fuel + 1, found, widest, p =>
    if p.head == ' ' then
      let p := p.next
      leadingLines fuel found (max widest p.column) p
    else if isBreak p.head then
      let (ends, p) := p.takeBreak
      leadingLines fuel (found ++ ends) widest p
    else (found, widest, p)

/-- Passes over spaces up to a column. -/
def skipIndent (indent : Nat) : Nat → Position → Position
  | 0, p => p
  | fuel + 1, p => if p.column < indent && p.head == ' ' then skipIndent indent fuel p.next else p

/-- The empty lines of a block, and the position in the next line after its indentation. -/
def emptyLines (indent : Nat) : Nat → List Char → Position → Piece
  | 0, found, p => (found, p)
  | fuel + 1, found, p =>
    let p := skipIndent indent (p.rest.length + 1) p
    if isBreak p.head then
      let (ends, p) := p.takeBreak
      emptyLines indent fuel (found ++ ends) p
    else (found, p)

/-- Reads the lines of a block after those that were read; `breaks` are the empty lines before the next
one. The text without the line ends after it is told, with the first of these and the others. -/
def blockLines (folded : Bool) (indent : Nat) : Nat → List Char → List Char → Position →
    List Char × List Char × List Char × Position
  | 0, found, breaks, p => (found, [], breaks, p)
  | fuel + 1, found, breaks, p =>
    let indented := p.head == ' ' || p.head == '\t'
    let (line, p) := p.span (!isEnd ·)
    let found := found ++ breaks ++ line
    let (first, p) := p.takeBreak
    let (breaks, p) := emptyLines indent (p.rest.length + 1) [] p
    if p.column = indent ∧ p.head ≠ '\x00' then
      let join :=
        if folded && first == ['\n'] && !indented && p.head != ' ' && p.head != '\t' then
          if breaks.isEmpty then [' '] else []
        else first
      blockLines folded indent fuel (found ++ join) breaks p
    else (found, first, breaks, p)

/-- Reads a block after its first character; `outer` is the indentation around it. -/
def readBlock (folded : Bool) (outer : Int) (p : Position) : Except Fault Piece := do
  let (chomping, increment, p) ← readBlockSigns p
  let p ← skipLine p
  let least := (max (outer + 1) 1).toNat
  let fuel := p.rest.length + 1
  let (indent, breaks, p) := match increment with
    | none =>
      let (breaks, widest, p) := leadingLines fuel [] 0 p
      (max least widest, breaks, p)
    | some n =>
      let indent := least + n - 1
      let (breaks, p) := emptyLines indent fuel [] p
      (indent, breaks, p)
  let (text, first, breaks, p) :=
    if p.column = indent ∧ p.head ≠ '\x00' then blockLines folded indent fuel [] breaks p
    else ([], [], breaks, p)
  return (text ++ (if chomping = .strip then [] else first) ++
    (if chomping = .keep then breaks else []), p)

end Gabarit.Yaml
