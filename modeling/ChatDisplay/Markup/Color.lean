import ChatDisplay.Text.Digit

namespace ChatDisplay

structure Color where
  red : UInt8
  green : UInt8
  blue : UInt8
  deriving DecidableEq, Repr, Inhabited

namespace Color

def hexByte? (high low : Char) : Option UInt8 :=
  match Text.hexDigit? high, Text.hexDigit? low with
  | some h, some l => some (UInt8.ofNat (h * 16 + l))
  | _, _ => none

def hexByte (b : UInt8) : List Char := [Text.hexDigit (b.toNat / 16), Text.hexDigit (b.toNat % 16)]

def dropSign : List Char → List Char
  | '#' :: cs => cs
  | cs => cs

def ofDigits? : List Char → Option Color
  | [r₁, r₀, g₁, g₀, b₁, b₀] =>
    match hexByte? r₁ r₀, hexByte? g₁ g₀, hexByte? b₁ b₀ with
    | some r, some g, some b => some ⟨r, g, b⟩
    | _, _, _ => none
  | _ => none

def parse? (s : String) : Option Color := ofDigits? (dropSign s.toList)

def hex (c : Color) : String :=
  String.ofList ('#' :: (hexByte c.red ++ hexByte c.green ++ hexByte c.blue))

end Color

end ChatDisplay
