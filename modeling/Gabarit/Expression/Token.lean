import Gabarit.Number.Shortest
import Gabarit.Text.Basic
import Gabarit.Text.Escape
import Gabarit.Text.Identifier

/-!
# Tokens of tag expressions

Filter calls and literals are written in a language of expressions. Here its tokens are read.

* `Token`: the tokens;
* `readNumber`, `readName`, `readQuoted`: the tokens that are longer than one operator;
* `lex`: the tokens of a text, if it has only well-formed ones and its brackets match.
-/

namespace Gabarit.Expression

/-- How a quoted text is marked by the letters before it. -/
structure QuoteMarks where
  raw : Bool := false
  bytes : Bool := false
  formatted : Bool := false

/-- A token. -/
inductive Token where
  /-- An identifier in its normal form. -/
  | name (s : String)
  | keyword (s : String)
  | int (n : Nat)
  | float (x : Binary64)
  | imaginary
  | text (ps : List Text.Point)
  | bytes
  /-- A text with expressions in it: whether it is raw, and its body. -/
  | formatted (raw : Bool) (body : List Char)
  | op (s : String)
  | newline
  deriving DecidableEq

/-- The words that are no names. -/
def keywords : List String :=
  ["False", "None", "True", "and", "as", "assert", "async", "await", "break", "class", "continue",
    "def", "del", "elif", "else", "except", "finally", "for", "from", "global", "if", "import", "in",
    "is", "lambda", "nonlocal", "not", "or", "pass", "raise", "return", "try", "while", "with",
    "yield"]

/-- The operators, longer ones before those that they start with. -/
def operators : List String :=
  ["**=", "//=", ">>=", "<<=", "...", "!=", "%=", "&=", "**", "*=", "+=", "-=", "->", "//", "/=",
    ":=", "<<", "<=", "==", ">=", ">>", "@=", "^=", "|=", "%", "&", "(", ")", "*", "+", ",", "-", ".",
    "/", ":", ";", "<", "=", ">", "@", "[", "]", "^", "\x7b", "|", "\x7d", "~"]

/-- An ASCII digit. -/
def isDigit (c : Char) : Bool := (Text.asciiDigit? c).isSome

/-- A character that continues a word, or may do so in some script. -/
def isWordChar (c : Char) : Bool := Text.isAsciiContinue c || 128 ≤ c.toNat

/-- Reads digits that single underscores may divide: the digits, and the text after them. The first
character has to be a digit. -/
def readDigits (isDigit : Char → Bool) : Nat → List Char → Option (List Char × List Char)
  | 0, _ => none
  | fuel + 1, cs =>
    let ds := cs.takeWhile isDigit
    let rest := cs.dropWhile isDigit
    if ds.isEmpty then none
    else match rest with
      | '_' :: r => (readDigits isDigit fuel r).map fun (more, after) => (ds ++ more, after)
      | r => some (ds, r)

/-- The words that may follow a number without a blank. -/
def wordsAfterNumber : List String := ["and", "else", "for", "if", "in", "is", "not", "or"]

/-- What may follow a number: no word, unless it starts with one that can follow. -/
def numberEnds (rest : List Char) : Bool :=
  match rest with
  | [] => true
  | c :: _ => !isWordChar c || wordsAfterNumber.any fun w => w.toList.isPrefixOf rest

/-- Reads a number in a base other than ten, after its letter. -/
def readBased (base : Nat) (cs : List Char) : Option (Token × List Char) :=
  let isDigit (c : Char) : Bool := ((Text.hexDigit? c).map fun d => decide (d < base)).getD false
  let cs := match cs with
    | '_' :: r => r
    | r => r
  (readDigits isDigit (cs.length + 1) cs).bind fun (ds, rest) =>
    if numberEnds rest then
      some (.int (ds.foldl (fun v c => base * v + (Text.hexDigit? c).getD 0) 0), rest)
    else none

/-- Reads the exponent after a mantissa: its digits with their sign, or nothing when there is none. -/
def readExponent (cs : List Char) : Option (Option (Bool × List Char) × List Char) :=
  match cs with
  | c :: rest =>
    if c = 'e' ∨ c = 'E' then
      let digits (neg : Bool) (r : List Char) :=
        (readDigits isDigit (r.length + 1) r).map fun (ds, after) => (some (neg, ds), after)
      match rest with
      | '+' :: r => digits false r
      | '-' :: r => digits true r
      | d :: _ => if isDigit d then digits false rest else some (none, cs)
      | [] => some (none, cs)
    else some (none, cs)
  | [] => some (none, [])

/-- The number that digits before and after the point and an exponent write. -/
def decimalFloat (whole frac : List Char) (exponent : Option (Bool × List Char)) : Binary64 :=
  let e : Int := match exponent with
    | some (neg, ds) => if neg then -(Text.numeralValue ds : Int) else Text.numeralValue ds
    | none => 0
  .ofDecimal false (Text.numeralValue (whole ++ frac)) (e - frac.length)

/-- Reads what follows the digits before the point of a decimal number. -/
def readDecimal (whole rest : List Char) : Option (Token × List Char) := do
  let (point, frac, rest) ← match rest with
    | '.' :: r =>
      if (r.head?.map isDigit).getD false then
        (readDigits isDigit (r.length + 1) r).map fun (ds, after) => (true, ds, after)
      else some (true, [], r)
    | r => some (false, [], r)
  let (exponent, rest) ← readExponent rest
  match rest with
  | c :: r =>
    if c = 'j' ∨ c = 'J' then if numberEnds r then some (.imaginary, r) else none
    else if !numberEnds rest then none
    else finish point frac exponent rest
  | [] => finish point frac exponent []
where
  /-- An integer has neither point nor exponent, and no superfluous zeros in front. -/
  finish (point : Bool) (frac : List Char) (exponent : Option (Bool × List Char))
      (rest : List Char) : Option (Token × List Char) :=
    if point || exponent.isSome then some (.float (decimalFloat whole frac exponent), rest)
    else if whole.head? = some '0' then
      if whole.all (· = '0') then some (.int 0, rest) else none
    else if whole.length > Text.digitLimit then none
    else some (.int (Text.numeralValue whole), rest)

/-- Reads a number, which starts with a digit or with a point and a digit. -/
def readNumber (cs : List Char) : Option (Token × List Char) :=
  match cs with
  | '.' :: _ => readDecimal [] cs
  | '0' :: c :: rest =>
    if c = 'x' ∨ c = 'X' then readBased 16 rest
    else if c = 'o' ∨ c = 'O' then readBased 8 rest
    else if c = 'b' ∨ c = 'B' then readBased 2 rest
    else decimal cs
  | _ => decimal cs
where
  /-- A number in base ten. -/
  decimal (cs : List Char) : Option (Token × List Char) :=
    (readDigits isDigit (cs.length + 1) cs).bind fun (ds, rest) => readDecimal ds rest

/-- The marks that letters before a quote stand for, in either case and order. -/
def quoteMarks? (letters : List Char) : Option QuoteMarks :=
  match letters.map Char.toLower with
  | [] | ['u'] => some {}
  | ['b'] => some { bytes := true }
  | ['r'] => some { raw := true }
  | ['f'] => some { formatted := true }
  | ['b', 'r'] | ['r', 'b'] => some { bytes := true, raw := true }
  | ['f', 'r'] | ['r', 'f'] => some { formatted := true, raw := true }
  | _ => none

/-- Reads the body of a text between single quotes, which stays on its line, and the text after it. A
backslash takes the next character with it. -/
def readLineBody (q : Char) : List Char → Option (List Char × List Char)
  | [] => none
  | '\\' :: c :: rest => (readLineBody q rest).map fun (body, after) => ('\\' :: c :: body, after)
  | c :: rest =>
    if c = q then some ([], rest)
    else if c = '\n' ∨ c = '\\' then none
    else (readLineBody q rest).map fun (body, after) => (c :: body, after)

/-- Reads the body of a text between triple quotes, and the text after it. -/
def readBlockBody (q : Char) : List Char → Option (List Char × List Char)
  | [] => none
  | '\\' :: c :: rest => (readBlockBody q rest).map fun (body, after) => ('\\' :: c :: body, after)
  | c :: rest =>
    if c = q ∧ rest.take 2 = [q, q] then some ([], rest.drop 2)
    else if c = '\\' then none
    else (readBlockBody q rest).map fun (body, after) => (c :: body, after)

/-- The token of a quoted text. -/
def quotedToken? (marks : QuoteMarks) (body : List Char) : Option Token :=
  if marks.formatted then some (.formatted marks.raw body)
  else if marks.bytes then if Text.isBytesBody marks.raw body then some .bytes else none
  else if marks.raw then some (.text (body.map .char))
  else (Text.unescape body).map .text

/-- Reads a quoted text after its opening quote. -/
def readQuoted (marks : QuoteMarks) (q : Char) (cs : List Char) : Option (Token × List Char) :=
  match cs with
  | a :: b :: rest =>
    if a = q ∧ b = q then
      (readBlockBody q rest).bind fun (body, after) => (quotedToken? marks body).map (·, after)
    else line cs
  | _ => line cs
where
  /-- A text on one line. -/
  line (cs : List Char) : Option (Token × List Char) :=
    (readLineBody q cs).bind fun (body, after) => (quotedToken? marks body).map (·, after)

/-- The token of a word. -/
def wordToken? (cs : List Char) : Option Token :=
  let s := String.ofList cs
  if keywords.contains s then some (.keyword s)
  else if Text.isIdentifier cs then some (.name (Text.normalize s))
  else none

/-- Reads a word, or a quoted text that letters stand before. -/
def readWord (cs : List Char) : Option (Token × List Char) :=
  let word := cs.takeWhile isWordChar
  let rest := cs.dropWhile isWordChar
  let plain := (wordToken? word).map (·, rest)
  match rest with
  | q :: r =>
    if q = '\'' ∨ q = '"' then
      match quoteMarks? word with
      | some marks => readQuoted marks q r
      | none => plain
    else plain
  | [] => plain

/-- The closing bracket for an opening one. -/
def closing? (s : String) : Option String :=
  if s = "(" then some ")" else if s = "[" then some "]" else if s = "\x7b" then some "\x7d" else none

/-- Brackets nest no deeper than this. -/
def bracketLimit : Nat := 200

/-- The brackets still to be closed after an operator, if it may stand there. -/
def track? (pending : List String) (s : String) : Option (List String) :=
  match closing? s with
  | some c => if pending.length < bracketLimit then some (c :: pending) else none
  | none =>
    if s = ")" ∨ s = "]" ∨ s = "\x7d" then
      match pending with
      | c :: rest => if c = s then some rest else none
      | [] => none
    else some pending

/-- A line may start here: it is blank, holds a comment only, or is not indented. A form feed takes
the indentation before it back. -/
def lineStarts (indented : Bool) : List Char → Bool
  | [] => true
  | '\\' :: '\n' :: rest => !indented && lineStarts false rest
  | c :: rest =>
    if c = ' ' ∨ c = '\t' then lineStarts true rest
    else if c = '\x0c' then lineStarts false rest
    else c = '#' || c = '\n' || !indented

/-- `lex` with the brackets still to be closed and more fuel than there are characters. -/
def lexFrom : Nat → List String → List Char → Option (List Token)
  | 0, _, _ => none
  | _, pending, [] => if pending.isEmpty then some [] else none
  | fuel + 1, pending, c :: rest =>
    let token (r : Option (Token × List Char)) : Option (List Token) :=
      match r with
      | some (t, after) => (lexFrom fuel pending after).map (t :: ·)
      | none => none
    if c = ' ' ∨ c = '\t' ∨ c = '\x0c' then lexFrom fuel pending rest
    else if c = '\n' then
      if !pending.isEmpty then lexFrom fuel pending rest
      else if lineStarts false rest then (lexFrom fuel pending rest).map (Token.newline :: ·)
      else none
    else if c = '#' then lexFrom fuel pending (rest.dropWhile (· ≠ '\n'))
    else if c = '\\' then
      match rest with
      | '\n' :: r => if r.isEmpty then none else lexFrom fuel pending r
      | _ => none
    else if isDigit c ∨ (c = '.' ∧ (rest.head?.map isDigit).getD false) then
      token (readNumber (c :: rest))
    else if c = '\'' ∨ c = '"' then token (readQuoted {} c rest)
    else if isWordChar c then token (readWord (c :: rest))
    else
      match operators.find? fun s => s.toList.isPrefixOf (c :: rest) with
      | none => none
      | some s =>
        match track? pending s with
        | none => none
        | some pending' => (lexFrom fuel pending' ((c :: rest).drop s.length)).map (Token.op s :: ·)

/-- The tokens of a text. -/
def lex (cs : List Char) : Option (List Token) :=
  let cs := Text.unifyLines cs
  if lineStarts false cs then lexFrom (cs.length + 1) [] cs else none

end Gabarit.Expression
