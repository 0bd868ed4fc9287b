import Gabarit.Charset.ByteTable
import Gabarit.Charset.NameTable
import Gabarit.Charset.Utf8
import Gabarit.Charset.Wide
import Gabarit.Text.Basic
import Gabarit.Text.Span

/-!
# Charsets

* `Charset`: how a text is held in bytes;
* `Charset.ofName?`: the charset of a name, whatever its case and punctuation;
* `Charset.decode`: the text of bytes;
* `Charset.decodeFile`: the text of a file, which may have to start with a byte order mark.
-/

namespace Gabarit

/-- How a text is held in bytes. -/
inductive Charset where
  /-- UTF-8, perhaps with a byte order mark that is no part of the text. -/
  | utf8 (marked : Bool)
  /-- UTF-16; without an order the byte order mark tells it. -/
  | utf16 (order : Option ByteOrder)
  /-- UTF-32; without an order the byte order mark tells it. -/
  | utf32 (order : Option ByteOrder)
  | ascii
  | latin1
  /-- Single bytes, by a table. -/
  | table (name : String)
  /-- A charset that is known by its name. Its characters are not listed here, but for bytes that stand for
  the same in all such charsets. -/
  | named (name : String)
  /-- An encoding of bytes and not of text. -/
  | transform
  deriving DecidableEq, Repr

namespace Charset

/-- A name in lower case, with one underscore for each run of punctuation between letters, digits and
points. -/
def plainName (started gap : Bool) : List Char → List Char
  | [] => []
  | c :: rest =>
    if c.isAlphanum || c == '.' then
      (if gap && started then ['_', c.toLower] else [c.toLower]) ++ plainName true false rest
    else plainName started true rest

/-- The first name of the charset that is known by a name. Points may stand for underscores, but not in
first names. -/
def firstName? (name : String) : Option String :=
  let dotless := String.ofList (name.toList.map fun c => if c = '.' then '_' else c)
  let aliased (n : String) := (charsetNames.find? fun e => e.2.contains n).map (·.1)
  (aliased name).or ((aliased dotless).or ((charsetNames.find? fun e => e.1 == name).map (·.1)))

/-- The charset of a first name. -/
def ofFirstName (name : String) : Charset :=
  if name = "utf_8" then .utf8 false
  else if name = "utf_8_sig" then .utf8 true
  else if name = "utf_16" then .utf16 none
  else if name = "utf_16_le" then .utf16 (some .little)
  else if name = "utf_16_be" then .utf16 (some .big)
  else if name = "utf_32" then .utf32 none
  else if name = "utf_32_le" then .utf32 (some .little)
  else if name = "utf_32_be" then .utf32 (some .big)
  else if name = "ascii" then .ascii
  else if name = "latin_1" then .latin1
  else if (byteTables.lookup name).isSome then .table name
  else if ["base64_codec", "bz2_codec", "hex_codec", "quopri_codec", "rot_13", "uu_codec",
      "zlib_codec"].contains name then .transform
  else .named name

/-- The charset of a name. -/
def ofName? (name : String) : Option Charset :=
  (firstName? (String.ofList (plainName false false name.toList))).map ofFirstName

/-- A run of bytes with the character of the first one. -/
def readRun (entry : String) : Text.Span × Nat :=
  match entry.splitOn ":" with
  | run :: first :: _ => (Text.Span.ofText run, Text.hexValue first.toList)
  | _ => (⟨1, 0⟩, 0)

/-- The runs of a table. -/
def runsOf (name : String) : List (Text.Span × Nat) :=
  (Text.entries " " ((byteTables.lookup name).getD "")).map readRun

/-- The character of a byte by a table. -/
def byteChar? (runs : List (Text.Span × Nat)) (b : UInt8) : Option Char :=
  (runs.find? fun r => r.1.first ≤ b.toNat && b.toNat ≤ r.1.last).map fun r =>
    Char.ofNat (r.2 + (b.toNat - r.1.first))

/-- The text of single bytes, the first of which is at `place`. -/
def decodeBytes (char? : UInt8 → Option Char) (codec reason : String) (place : Nat) :
    List UInt8 → Except Fault (List Char)
  | [] => .ok []
  | b :: rest =>
    match char? b with
    | some c => (decodeBytes char? codec reason (place + 1) rest).map (c :: ·)
    | none => .error (undecodable codec place 1 b reason)

/-- The character of an ASCII byte. -/
def asciiChar? (b : UInt8) : Option Char := if b < 128 then some (Char.ofNat b.toNat) else none

/-- The byte stands for its ASCII character in every charset that is only known by name: none of them
starts an escape or a run of other characters with it. -/
def isPlainByte (b : UInt8) : Bool :=
  (32 ≤ b && b < 126 && b != '+'.toUInt8 && b != '\\'.toUInt8) || (9 ≤ b && b ≤ 13)

/-- The charsets in which even plain letters stand for something else. -/
def scrambled : List String := ["idna", "punycode", "undefined"]

/-- The text of UTF-8 bytes. -/
def decodeUtf8 (bs : List UInt8) : Except Fault (List Char) :=
  (Utf8.decode bs).mapError fun s => undecodable "utf-8" s.place s.length s.byte s.flaw.message

/-- The order that a byte order mark of two bytes tells, and the bytes after it. -/
def pairMark? : List UInt8 → Option (ByteOrder × List UInt8)
  | 0xFF :: 0xFE :: rest => some (.little, rest)
  | 0xFE :: 0xFF :: rest => some (.big, rest)
  | _ => none

/-- The order that a byte order mark of four bytes tells, and the bytes after it. -/
def quadMark? : List UInt8 → Option (ByteOrder × List UInt8)
  | 0xFF :: 0xFE :: 0 :: 0 :: rest => some (.little, rest)
  | 0 :: 0 :: 0xFE :: 0xFF :: rest => some (.big, rest)
  | _ => none

/-- The text of bytes. -/
def decode (charset : Charset) (bs : List UInt8) : Except Fault (List Char) :=
  match charset with
  | .utf8 false => decodeUtf8 bs
  | .utf8 true =>
    match bs with
    | 0xEF :: 0xBB :: 0xBF :: rest => decodeUtf8 rest
    | bs => decodeUtf8 bs
  | .utf16 (some order) => decodePairs order 0 bs
  | .utf16 none =>
    match pairMark? bs with
    | some (order, rest) => decodePairs order 2 rest
    | none => decodePairs .little 0 bs
  | .utf32 (some order) => decodeQuads order 0 bs
  | .utf32 none =>
    match quadMark? bs with
    | some (order, rest) => decodeQuads order 4 rest
    | none => decodeQuads .little 0 bs
  | .ascii => decodeBytes asciiChar? "ascii" "ordinal not in range(128)" 0 bs
  | .latin1 => .ok (bs.map fun b => Char.ofNat b.toNat)
  | .table name =>
    decodeBytes (byteChar? (runsOf name)) "charmap" "character maps to <undefined>" 0 bs
  | .named name =>
    if bs.all isPlainByte && !scrambled.contains name then .ok (bs.map fun b => Char.ofNat b.toNat)
    else .error (.unlisted name)
  | .transform => .error (.unknownCharset "transform")

/-- The length of the byte order mark that bytes lack. -/
def markLength (charset : Charset) (bs : List UInt8) : Nat :=
  match charset with
  | .utf16 none => if (pairMark? bs).isSome then 0 else 2
  | .utf32 none => if (quadMark? bs).isSome then 0 else 4
  | _ => 0

/-- The text of a file: its lines end in line feeds, and a byte order mark has to tell the order of bytes
where the charset does not. A file that is only the start of a mark is empty. -/
def decodeFile (charset : Charset) (bs : List UInt8) : Except Fault (List Char) :=
  if charset = .utf8 true ∧ bs.length < 3 ∧ bs.isPrefixOf [0xEF, 0xBB, 0xBF] then .ok []
  else do
    let cs ← charset.decode bs
    let n := charset.markLength bs
    if 0 < n ∧ n ≤ bs.length then throw .missingMark
    return Text.unifyLines cs

end Charset

end Gabarit
