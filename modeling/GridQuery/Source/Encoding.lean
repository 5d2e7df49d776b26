-- The encodings of delimited text, by the number of their code page.

namespace GridQuery

/-- How the bytes of a text are read. -/
inductive Encoding
  | utf8
  /-- Two bytes a unit, the low one first. -/
  | utf16
  /-- One byte a character. -/
  | latin1
  deriving DecidableEq, Repr

namespace Encoding

/-- The encoding of a code page, if it is supported. -/
def ofCodePage? (codePage : Nat) : Option Encoding :=
  if codePage = 0 ∨ codePage = 65001 then some utf8
  else if codePage = 1200 then some utf16
  else if codePage = 1252 ∨ codePage = 28591 then some latin1
  else none

/-- The units of bytes taken in pairs; a byte that is left over makes none. -/
def units : List UInt8 → Option (List Nat)
  | [] => some []
  | [_] => none
  | low :: high :: rest => (units rest).map ((low.toNat + 256 * high.toNat) :: ·)

/-- The unit is the first half of a pair. -/
def isHighHalf (unit : Nat) : Bool := 0xD800 ≤ unit && unit < 0xDC00

/-- The unit is the second half of a pair. -/
def isLowHalf (unit : Nat) : Bool := 0xDC00 ≤ unit && unit < 0xE000

/-- The characters of 16-bit units. A half without its other half makes none. -/
def ofUnits : List Nat → Option (List Char)
  | [] => some []
  | [unit] => if isHighHalf unit || isLowHalf unit then none else some [Char.ofNat unit]
  | unit :: next :: rest =>
    if isHighHalf unit then
      if isLowHalf next then
        (ofUnits rest).map (Char.ofNat (0x10000 + (unit - 0xD800) * 1024 + (next - 0xDC00)) :: ·)
      else none
    else if isLowHalf unit then none
    else (ofUnits (next :: rest)).map (Char.ofNat unit :: ·)

/-- The text without the mark that may stand before text in UTF-8. -/
def dropMark : List Char → List Char
  | c :: cs => if c.toNat = 0xFEFF then cs else c :: cs
  | [] => []

/-- The characters of a text, unless its bytes are not in the encoding. -/
def decode (encoding : Encoding) (bytes : ByteArray) : Option (List Char) :=
  match encoding with
  | utf8 => (String.fromUTF8? bytes).map fun s => dropMark s.toList
  | utf16 => (units bytes.toList).bind ofUnits
  | latin1 => some (bytes.toList.map fun b => Char.ofNat b.toNat)

end Encoding

end GridQuery
