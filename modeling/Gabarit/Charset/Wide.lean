import Gabarit.Fault

/-!
# Wide units

Charsets whose units are two or four bytes, in either order.

* `ByteOrder`: which byte of a unit comes first;
* `decodePairs`: UTF-16, where two units can stand for one character;
* `decodeQuads`: UTF-32.
-/

namespace Gabarit

/-- Bytes that a charset does not decode: their place, how many they are, and the first of them. -/
def undecodable (codec : String) (place length : Nat) (byte : UInt8) (reason : String) : Fault :=
  let which :=
    if length = 1 then
      "byte 0x" ++ String.ofList (Text.hexPadded 2 byte.toNat) ++ " in position " ++ Text.numeral place
    else
      "bytes in position " ++ Text.numeral place ++ "-" ++ Text.numeral (place + length - 1)
  .undecodable ("'" ++ codec ++ "' codec can't decode " ++ which ++ ": " ++ reason)

/-- Which byte of a unit comes first. -/
inductive ByteOrder where
  | little
  | big
  deriving DecidableEq, Repr

namespace ByteOrder

/-- The part of a charset's name that tells the order. -/
def suffix : ByteOrder → String
  | .little => "le"
  | .big => "be"

/-- The value of bytes. -/
def value (order : ByteOrder) (bs : List UInt8) : Nat :=
  match order with
  | .little => bs.foldr (fun b n => n * 256 + b.toNat) 0
  | .big => bs.foldl (fun n b => n * 256 + b.toNat) 0

end ByteOrder

/-- The unit is the first one of a pair. -/
def isLeading (n : Nat) : Bool := 0xD800 ≤ n && n ≤ 0xDBFF

/-- The unit is the second one of a pair. -/
def isTrailing (n : Nat) : Bool := 0xDC00 ≤ n && n ≤ 0xDFFF

/-- The text of units of two bytes, the first of which is at `place`. -/
def decodePairs (order : ByteOrder) (place : Nat) : List UInt8 → Except Fault (List Char)
  | [] => .ok []
  | [b] => .error (stray 1 b "truncated data")
  | [a, b] =>
    let n := order.value [a, b]
    if isLeading n then .error (stray 2 a "unexpected end of data")
    else if isTrailing n then .error (stray 2 a "illegal encoding")
    else .ok [Char.ofNat n]
  | [a, b, c] =>
    let n := order.value [a, b]
    if isLeading n then .error (stray 3 a "unexpected end of data")
    else if isTrailing n then .error (stray 2 a "illegal encoding")
    else (decodePairs order (place + 2) [c]).map (Char.ofNat n :: ·)
  | a :: b :: c :: d :: rest =>
    let n := order.value [a, b]
    let m := order.value [c, d]
    if isLeading n then
      if isTrailing m then
        (decodePairs order (place + 4) rest).map
          (Char.ofNat (0x10000 + (n - 0xD800) * 0x400 + (m - 0xDC00)) :: ·)
      else .error (stray 2 a "illegal UTF-16 surrogate")
    else if isTrailing n then .error (stray 2 a "illegal encoding")
    else (decodePairs order (place + 2) (c :: d :: rest)).map (Char.ofNat n :: ·)
where
  /-- Stray bytes at the place. -/
  stray (length : Nat) (byte : UInt8) (reason : String) : Fault :=
    undecodable ("utf-16-" ++ order.suffix) place length byte reason

/-- The text of units of four bytes, the first of which is at `place`. -/
def decodeQuads (order : ByteOrder) (place : Nat) : List UInt8 → Except Fault (List Char)
  | [] => .ok []
  | a :: b :: c :: d :: rest =>
    let n := order.value [a, b, c, d]
    if isLeading n || isTrailing n then
      .error (stray 4 a "code point in surrogate code point range(0xd800, 0xe000)")
    else if 0x110000 ≤ n then .error (stray 4 a "code point not in range(0x110000)")
    else (decodeQuads order (place + 4) rest).map (Char.ofNat n :: ·)
  | a :: rest => .error (stray (rest.length + 1) a "truncated data")
where
  /-- Stray bytes at the place. -/
  stray (length : Nat) (byte : UInt8) (reason : String) : Fault :=
    undecodable ("utf-32-" ++ order.suffix) place length byte reason

end Gabarit
