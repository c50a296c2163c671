import ChatDisplay.Charset.SingleByte

namespace ChatDisplay.Charset.Utf16

def isHigh (u : Nat) : Bool := 0xd800 ≤ u && u < 0xdc00

def isLow (u : Nat) : Bool := 0xdc00 ≤ u && u < 0xe000

def pair (high low : Nat) : Char :=
  Char.ofNat (0x10000 + (high - 0xd800) * 0x400 + (low - 0xdc00))

/-- The units of the bytes, and whether a byte is left over. -/
def units (bigEndian : Bool) : List UInt8 → List Nat × Bool
  | [] => ([], false)
  | [_] => ([], true)
  | a :: b :: rest =>
    let unit := if bigEndian then a.toNat * 256 + b.toNat else b.toNat * 256 + a.toNat
    let (us, odd) := units bigEndian rest
    (unit :: us, odd)

/-- Reads units; `odd` tells that a byte follows the last one. -/
def ofUnits (odd : Bool) : List Nat → List Char
  | [] => if odd then [replacement] else []
  | [u] =>
    if isHigh u then [replacement]
    else (if isLow u then replacement else Char.ofNat u) :: ofUnits odd []
  | u :: v :: rest =>
    if isHigh u then
      if isLow v then pair u v :: ofUnits odd rest else replacement :: ofUnits odd (v :: rest)
    else (if isLow u then replacement else Char.ofNat u) :: ofUnits odd (v :: rest)

def decode (bigEndian : Bool) (bytes : List UInt8) : List Char :=
  let (us, odd) := units bigEndian bytes
  ofUnits odd us

end ChatDisplay.Charset.Utf16
