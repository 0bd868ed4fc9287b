/-!
# UTF-8

* `encodeChar`, `encode`: characters as bytes;
* `Utf8.Step`, `step`: what stands at the start of a sequence of bytes;
* `symbols`: characters and stray bytes;
* `Utf8.decode`: the text of bytes, or the place and the reason of the first stray byte.
-/

namespace Gabarit.Utf8

/-- The bytes of a character. -/
def encodeChar (c : Char) : List UInt8 :=
  let n := c.toNat
  let low (k : Nat) : UInt8 := .ofNat (0x80 + n / k % 64)
  if n < 0x80 then [.ofNat n]
  else if n < 0x800 then [.ofNat (0xC0 + n / 64), low 1]
  else if n < 0x10000 then [.ofNat (0xE0 + n / 4096), low 64, low 1]
  else [.ofNat (0xF0 + n / 262144), low 4096, low 64, low 1]

/-- The bytes of a text. -/
def encode (cs : List Char) : List UInt8 := cs.flatMap encodeChar

/-- Why a byte is stray. -/
inductive Flaw where
  | start
  | continuation
  | ending
  deriving DecidableEq

/-- The text of a flaw. -/
def Flaw.message : Flaw → String
  | .start => "invalid start byte"
  | .continuation => "invalid continuation byte"
  | .ending => "unexpected end of data"

/-- What stands at the start of bytes: a character, or `length` stray ones. -/
inductive Step where
  | char (c : Char) (rest : List UInt8)
  | stray (length : Nat) (flaw : Flaw) (rest : List UInt8)

/-- The bytes of continuation that may follow the first byte of a character, by its value: the least and
the greatest second byte, and how many follow. -/
def shape? (b : Nat) : Option (Nat × Nat × Nat) :=
  if 0xC2 ≤ b ∧ b ≤ 0xDF then some (0x80, 0xBF, 1)
  else if b = 0xE0 then some (0xA0, 0xBF, 2)
  else if b = 0xED then some (0x80, 0x9F, 2)
  else if 0xE1 ≤ b ∧ b ≤ 0xEF then some (0x80, 0xBF, 2)
  else if b = 0xF0 then some (0x90, 0xBF, 3)
  else if 0xF1 ≤ b ∧ b ≤ 0xF3 then some (0x80, 0xBF, 3)
  else if b = 0xF4 then some (0x80, 0x8F, 3)
  else none

/-- The bits that the first byte of a character of `count` further bytes gives. -/
def leadBits (count b : Nat) : Nat :=
  if count = 1 then b - 0xC0 else if count = 2 then b - 0xE0 else b - 0xF0

/-- Reads the bytes after the first one of a character; `read` counts those that were read. -/
def continueChar : Nat → Nat → Nat → Nat → Nat → List UInt8 → Step
  | 0, _, _, value, _, rest => .char (Char.ofNat value) rest
  | _ + 1, _, _, _, read, [] => .stray read .ending []
  | count + 1, low, high, value, read, b :: rest =>
    let n := b.toNat
    if low ≤ n ∧ n ≤ high then continueChar count 0x80 0xBF (value * 64 + (n - 0x80)) (read + 1) rest
    else .stray read .continuation (b :: rest)

/-- What starts with a byte. -/
def step (b : UInt8) (rest : List UInt8) : Step :=
  let n := b.toNat
  if n < 0x80 then .char (Char.ofNat n) rest
  else
    match shape? n with
    | none => .stray 1 .start rest
    | some (low, high, count) => continueChar count low high (leadBits count n) 1 rest

/-- `symbols` with more fuel than there are bytes. -/
def symbolsFrom : Nat → List UInt8 → List (Option Char)
  | 0, _ => []
  | _, [] => []
  | fuel + 1, b :: rest =>
    match step b rest with
    | .char c after => some c :: symbolsFrom fuel after
    | .stray _ _ after => none :: symbolsFrom fuel after

/-- The characters of bytes, with nothing in the place of stray bytes. -/
def symbols (bs : List UInt8) : List (Option Char) := symbolsFrom (bs.length + 1) bs

/-- A stray byte: its place, how many bytes are stray together, and why. -/
structure Stray where
  place : Nat
  length : Nat
  byte : UInt8
  flaw : Flaw

/-- `decode` with the number of bytes already read and more fuel than there are bytes. -/
def decodeFrom : Nat → Nat → List UInt8 → Except Stray (List Char)
  | 0, _, _ => .ok []
  | _, _, [] => .ok []
  | fuel + 1, place, b :: rest =>
    match step b rest with
    | .char c after => (decodeFrom fuel (place + (rest.length + 1 - after.length)) after).map (c :: ·)
    | .stray length flaw _ => .error ⟨place, length, b, flaw⟩

/-- The text of bytes. -/
def decode (bs : List UInt8) : Except Stray (List Char) := decodeFrom (bs.length + 1) 0 bs

end Gabarit.Utf8
