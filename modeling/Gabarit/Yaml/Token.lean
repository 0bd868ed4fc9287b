import Gabarit.Charset.Utf8
import Gabarit.Yaml.Scalar

/-!
# Tokens of a document

A key of a mapping is known by the colon after it. So a token that may start a key is held back until the
colon is met, or can be met no more; then the tokens that open the key and its mapping are put before it.

* `Token`: the tokens;
* `PendingKey`, `Scan`: a place where a key may start, and the state of reading;
* `Scan.fetch`: reading a token;
* `tokens`: the tokens of a document, and the fault that ends them, if there is one.
-/

namespace Gabarit.Yaml

/-- A token. -/
inductive Token where
  /-- The version of the language, by its first number. -/
  | version (major : Nat)
  /-- A handle of tags and what it stands for. -/
  | handle (name start : String)
  /-- Another directive, which means nothing. -/
  | directive
  | documentStart
  | documentEnd
  | blockSequence
  | blockMapping
  | blockEnd
  | flowSequence
  | flowSequenceEnd
  | flowMapping
  | flowMappingEnd
  | blockEntry
  | flowEntry
  | key
  | value
  | alias (name : String)
  | anchor (name : String)
  | tag (handle : Option String) (suffix : String)
  | scalar (plain : Bool) (text : List Text.Point)
  | streamEnd
  deriving DecidableEq

/-- A place where a key may start: the number of its token. A required key has to be one. -/
structure PendingKey where
  number : Nat
  required : Bool
  index : Nat
  line : Nat
  column : Nat

/-- The state of reading. -/
structure Scan where
  pos : Position
  /-- The tokens, the last one first, and how many they are. -/
  tokens : List Token := []
  count : Nat := 0
  /-- The number of open brackets. -/
  flow : Nat := 0
  /-- The column of the innermost open block, and those of the others. -/
  indent : Int := -1
  indents : List Int := []
  /-- A key may start here. -/
  allowKey : Bool := true
  /-- The places where keys may start, by the number of brackets open there. -/
  keys : List (Nat × PendingKey) := []
  done : Bool := false

namespace Scan

/-- Adds a token. -/
def push (s : Scan) (t : Token) : Scan := { s with tokens := t :: s.tokens, count := s.count + 1 }

/-- Adds a token of some characters. -/
def pushSkip (s : Scan) (n : Nat) (t : Token) : Scan := { s.push t with pos := s.pos.skip n }

/-- Puts a token before the token of a number. -/
def insertToken (s : Scan) (number : Nat) (t : Token) : Scan :=
  let after := s.count - number
  { s with tokens := s.tokens.take after ++ t :: s.tokens.drop after, count := s.count + 1 }

/-- The column of the next character. -/
def column (s : Scan) : Int := s.pos.column

/-- Keys stand on one line, and are no longer than this. -/
def keyLimit : Nat := 1024

/-- Gives up the places of keys that can be none any more. -/
def dropStale (s : Scan) : Except Fault Scan :=
  let stale (k : PendingKey) : Bool := k.line != s.pos.line || keyLimit < s.pos.index - k.index
  if s.keys.any fun (_, k) => stale k && k.required then .error .badToken
  else .ok { s with keys := s.keys.filter fun (_, k) => !stale k }

/-- Gives up the place of a key between the innermost brackets. -/
def dropKey (s : Scan) : Except Fault Scan :=
  match s.keys.lookup s.flow with
  | some k =>
    if k.required then .error .badToken
    else .ok { s with keys := s.keys.filter (·.1 != s.flow) }
  | none => .ok s

/-- Notes that a key may start here. -/
def saveKey (s : Scan) : Except Fault Scan :=
  if s.allowKey then do
    let required := s.flow == 0 && s.indent == s.column
    let s ← s.dropKey
    let key : PendingKey := ⟨s.count, required, s.pos.index, s.pos.line, s.pos.column⟩
    return { s with keys := (s.flow, key) :: s.keys }
  else .ok s

/-- Closes the blocks right of a column. -/
def unwind (column : Int) (s : Scan) : Scan :=
  if s.flow = 0 then close s.indents s else s
where
  /-- Closes blocks; the list holds the columns around the innermost one. -/
  close : List Int → Scan → Scan
    | [], s => s
    | outer :: rest, s =>
      if column < s.indent then close rest ({ s with indent := outer, indents := rest }.push .blockEnd)
      else s

/-- Opens a block at a column, if it is right of the innermost one; the token that opens it is put before
the token of a number. -/
def openBlock (s : Scan) (column : Int) (number : Nat) (t : Token) : Scan :=
  if s.indent < column then
    { s.insertToken number t with indents := s.indent :: s.indents, indent := column }
  else s

/-- Passes over blanks, line ends and comments. Outside brackets a key may start on a new line. -/
def skipBlanks : Nat → Scan → Scan
  | 0, s => s
  | fuel + 1, s =>
    let p := s.pos.skipSpaces.skipComment
    if isBreak p.head then
      skipBlanks fuel { s with pos := p.takeBreak.2, allowKey := s.allowKey || s.flow == 0 }
    else { s with pos := p }

/-! ## Directives, anchors and tags -/

/-- A letter, a digit, a hyphen or an underscore. -/
def isWordChar (c : Char) : Bool := c.isAlphanum || c == '-' || c == '_'

/-- A character of a tag. -/
def isTagChar (c : Char) : Bool := c.isAlphanum || "-;/?:@&=+$,_.!~*'()[]%".toList.contains c

/-- Reads the bytes of escapes. -/
def readEscapes : Nat → Position → Except Fault (List UInt8 × Position)
  | 0, p => .ok ([], p)
  | fuel + 1, p =>
    if p.head == '%' then
      match Text.hexDigit? (p.peek 1), Text.hexDigit? (p.peek 2) with
      | some a, some b => do
        let (bs, p) ← readEscapes fuel (p.skip 3)
        return (UInt8.ofNat (a * 16 + b) :: bs, p)
      | _, _ => .error .badToken
    else .ok ([], p)

/-- Reads the characters of a tag with its escapes. -/
def readTagChars : Nat → Position → Except Fault Piece
  | 0, p => .ok ([], p)
  | fuel + 1, p =>
    if p.head == '%' then do
      let (bs, p) ← readEscapes (p.rest.length + 1) p
      match Utf8.decode bs with
      | .error _ => throw .badToken
      | .ok cs => return (← readTagChars fuel p).map (cs ++ ·) id
    else if isTagChar p.head then do
      let c := p.head
      return (← readTagChars fuel p.next).map (c :: ·) id
    else .ok ([], p)

/-- Reads a tag, which has at least one character. -/
def readTagText (p : Position) : Except Fault (String × Position) := do
  if isTagChar p.head then
    let (cs, p) ← readTagChars (p.rest.length + 1) p
    return (String.ofList cs, p)
  else throw .badToken

/-- Reads a handle: an exclamation mark, or a word between two of them. -/
def readHandle (p : Position) : Except Fault (String × Position) :=
  if p.head == '!' then
    if p.peek 1 == ' ' then .ok ("!", p.next)
    else
      let (word, q) := p.next.span isWordChar
      if q.head == '!' then .ok (String.ofList ('!' :: word ++ ['!']), q.next) else .error .badToken
  else .error .badToken

/-- An end or a space stands here. -/
def atSpace (p : Position) : Bool := isEnd p.head || p.head == ' '

/-- Reads a number of a version. -/
def readVersionNumber (p : Position) : Except Fault (Nat × Position) :=
  match p.span Char.isDigit with
  | ([], _) => .error .badToken
  | (ds, p) => .ok (ds.foldl (fun n c => n * 10 + (c.toNat - 48)) 0, p)

/-- Reads a directive after its percent sign. -/
def readDirective (p : Position) : Except Fault (Token × Position) := do
  let (name, p) := p.span isWordChar
  if name.isEmpty || !atSpace p then throw .badToken
  let word := String.ofList name
  let (token, p) ← show Except Fault (Token × Position) from
    if word = "YAML" then do
      let (major, p) ← readVersionNumber p.skipSpaces
      if p.head != '.' then throw .badToken
      let (_, p) ← readVersionNumber p.next
      if !atSpace p then throw .badToken
      return (.version major, p)
    else if word = "TAG" then do
      let (handle, p) ← readHandle p.skipSpaces
      if p.head != ' ' then throw .badToken
      let (start, p) ← readTagText p.skipSpaces
      if !atSpace p then throw .badToken
      return (.handle handle start, p)
    else return (.directive, p.skipWhile (!isEnd ·))
  return (token, ← skipLine p)

/-- Reads the name of an anchor or an alias after its sign. -/
def readAnchor (p : Position) : Except Fault (String × Position) :=
  let (name, p) := p.span isWordChar
  let c := p.head
  if name.isEmpty then .error .badToken
  else if isGap c || "?:,]\x7d%@`".toList.contains c then .ok (String.ofList name, p)
  else .error .badToken

/-- The text up to the next space has another exclamation mark. -/
def hasHandle (p : Position) : Bool :=
  (p.rest.takeWhile fun c => !isEnd c && c != ' ').contains '!'

/-- Reads a tag. -/
def readTag (p : Position) : Except Fault (Token × Position) := do
  let c := p.peek 1
  let (token, p) ← show Except Fault (Token × Position) from
    if c == '<' then do
      let (text, p) ← readTagText (p.skip 2)
      if p.head != '>' then throw .badToken
      return (.tag none text, p.next)
    else if isGap c then return (.tag none "!", p.next)
    else if hasHandle p.next then do
      let (handle, p) ← readHandle p
      let (text, p) ← readTagText p
      return (.tag (some handle) text, p)
    else do
      let (text, p) ← readTagText p.next
      return (.tag (some "!") text, p)
  if atSpace p then return (token, p) else throw .badToken

/-! ## Reading a token -/

/-- Adds the token that ends the document and closes its blocks. -/
def fetchEnd (s : Scan) : Except Fault Scan := do
  let s ← (s.unwind (-1)).dropKey
  return { s.push .streamEnd with allowKey := false, keys := [], done := true }

/-- Adds a token that divides documents. -/
def fetchDivider (s : Scan) (t : Token) : Except Fault Scan := do
  let s ← (s.unwind (-1)).dropKey
  return { s.pushSkip 3 t with allowKey := false }

/-- Adds a directive. -/
def fetchDirective (s : Scan) : Except Fault Scan := do
  let s ← (s.unwind (-1)).dropKey
  let (token, pos) ← readDirective s.pos.next
  return { s.push token with allowKey := false, pos }

/-- Adds an opening bracket, which may start a key. -/
def fetchOpening (s : Scan) (t : Token) : Except Fault Scan := do
  let s ← s.saveKey
  return { s.pushSkip 1 t with flow := s.flow + 1, allowKey := true }

/-- Adds a closing bracket. -/
def fetchClosing (s : Scan) (t : Token) : Except Fault Scan := do
  let s ← s.dropKey
  return { s.pushSkip 1 t with flow := s.flow - 1, allowKey := false }

/-- Adds a comma. -/
def fetchComma (s : Scan) : Except Fault Scan := do
  let s ← s.dropKey
  return { s.pushSkip 1 .flowEntry with allowKey := true }

/-- Adds the hyphen of an entry. -/
def fetchEntry (s : Scan) : Except Fault Scan := do
  if s.flow = 0 ∧ !s.allowKey then throw .badToken
  let s := if s.flow = 0 then s.openBlock s.column s.count .blockSequence else s
  let s ← s.dropKey
  return { s.pushSkip 1 .blockEntry with allowKey := true }

/-- Adds the question mark of a key. -/
def fetchKey (s : Scan) : Except Fault Scan := do
  if s.flow = 0 ∧ !s.allowKey then throw .badToken
  let s := if s.flow = 0 then s.openBlock s.column s.count .blockMapping else s
  let s ← s.dropKey
  return { s.pushSkip 1 .key with allowKey := s.flow == 0 }

/-- Adds the colon of a value. A key that was held back is known to be one now. -/
def fetchValue (s : Scan) : Except Fault Scan := do
  match s.keys.lookup s.flow with
  | some k =>
    let s := { s with keys := s.keys.filter (·.1 != s.flow) }.insertToken k.number .key
    let s := if s.flow = 0 then s.openBlock k.column k.number .blockMapping else s
    return { s.pushSkip 1 .value with allowKey := false }
  | none =>
    if s.flow = 0 ∧ !s.allowKey then throw .badToken
    let s := if s.flow = 0 then s.openBlock s.column s.count .blockMapping else s
    return { s.pushSkip 1 .value with allowKey := s.flow == 0 }

/-- Adds an alias or an anchor. -/
def fetchAnchor (s : Scan) (token : String → Token) : Except Fault Scan := do
  let s ← s.saveKey
  let (name, pos) ← readAnchor s.pos.next
  return { s.push (token name) with allowKey := false, pos }

/-- Adds a tag. -/
def fetchTag (s : Scan) : Except Fault Scan := do
  let s ← s.saveKey
  let (token, pos) ← readTag s.pos
  return { s.push token with allowKey := false, pos }

/-- Adds a block. -/
def fetchBlock (s : Scan) (folded : Bool) : Except Fault Scan := do
  let s ← s.dropKey
  let (text, pos) ← readBlock folded s.indent s.pos.next
  return { s.push (.scalar false (text.map .char)) with allowKey := true, pos }

/-- Adds a quoted text. -/
def fetchQuoted (s : Scan) (double : Bool) : Except Fault Scan := do
  let s ← s.saveKey
  let (text, pos) ← readQuoted double s.pos.next
  return { s.push (.scalar false text) with allowKey := false, pos }

/-- Adds a plain text. -/
def fetchPlain (s : Scan) : Except Fault Scan := do
  let s ← s.saveKey
  let (text, broken, pos) := readPlain (s.flow != 0) (s.indent + 1) s.pos
  return { s.push (.scalar true (text.map .char)) with allowKey := broken, pos }

/-- A plain text can start with the character. -/
def startsPlain (s : Scan) (c next : Char) : Bool :=
  !(isGap c || "-?:,[]\x7b\x7d#&*!|>'\"%@`".toList.contains c) ||
    (!isGap next && (c == '-' || (s.flow == 0 && (c == '?' || c == ':'))))

/-- Reads a token. -/
def fetch (s : Scan) : Except Fault Scan := do
  let s := if s.pos.index = 0 ∧ s.pos.head = '\uFEFF' then { s with pos := s.pos.next } else s
  let s ← (s.skipBlanks (s.pos.rest.length + 1)).dropStale
  let s := s.unwind s.column
  let c := s.pos.head
  let next := s.pos.peek 1
  let atStart := s.pos.column = 0 ∧ s.pos.atDivider
  if c == '\x00' then s.fetchEnd
  else if c == '%' && s.pos.column == 0 then s.fetchDirective
  else if atStart ∧ c = '-' then s.fetchDivider .documentStart
  else if atStart ∧ c = '.' then s.fetchDivider .documentEnd
  else if c == '[' then s.fetchOpening .flowSequence
  else if c == '\x7b' then s.fetchOpening .flowMapping
  else if c == ']' then s.fetchClosing .flowSequenceEnd
  else if c == '\x7d' then s.fetchClosing .flowMappingEnd
  else if c == ',' then s.fetchComma
  else if c == '-' && isGap next then s.fetchEntry
  else if c == '?' && (s.flow != 0 || isGap next) then s.fetchKey
  else if c == ':' && (s.flow != 0 || isGap next) then s.fetchValue
  else if c == '*' then s.fetchAnchor .alias
  else if c == '&' then s.fetchAnchor .anchor
  else if c == '!' then s.fetchTag
  else if c == '|' && s.flow == 0 then s.fetchBlock false
  else if c == '>' && s.flow == 0 then s.fetchBlock true
  else if c == '\'' then s.fetchQuoted false
  else if c == '"' then s.fetchQuoted true
  else if s.startsPlain c next then s.fetchPlain
  else throw .badToken

/-- How many tokens are not held back. -/
def ready (s : Scan) : Nat := (s.keys.map (·.2.number)).foldl min s.count

/-- Reads all tokens; a fault leaves those that were not held back before the last one. -/
def run : Nat → Nat → Scan → List Token × Option Fault
  | 0, _, s => (s.tokens.reverse, some .tooDeep)
  | fuel + 1, ready, s =>
    if s.done then (s.tokens.reverse, none)
    else match s.dropStale with
      | .error f => (s.tokens.reverse.take ready, some f)
      | .ok s =>
        match s.fetch with
        | .error f => (s.tokens.reverse.take s.ready, some f)
        | .ok after => run fuel s.ready after

end Scan

/-- The tokens of a document, and the fault that ends them. -/
def tokens (cs : List Char) : List Token × Option Fault :=
  Scan.run (cs.length + 2) 0 { pos := { rest := cs } }

end Gabarit.Yaml
