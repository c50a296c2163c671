import ChatDisplay.Markup.Style

/-! A code is one control character; a color code takes the numbers after it along, at most two digits for
the foreground and, after a comma, at most two for the background. Codes are read from bytes. -/
namespace ChatDisplay

/-- The bytes that end a span of visible text. -/
def isControlByte (b : UInt8) : Bool :=
  (b < 0x20 && b != 0x09 && b != 0x0a && b != 0x0d) || b == 0x7f

def hasControl (s : String) : Bool := s.toUTF8.data.toList.any isControlByte

inductive Code where
  | bold
  | italic
  | underline
  | strikethrough
  | reverse
  | reset
  /-- A color code without a number. -/
  | noColor
  /-- A color code with one number; the background stays. -/
  | foreground (fg : Nat)
  | colors (fg bg : Nat)
  /-- A control character without a meaning of its own. -/
  | inert
  deriving DecidableEq, Repr

namespace Code

def apply (k : Code) (s : Style) : Style :=
  match k with
  | .bold => { s with bold := !s.bold }
  | .italic => { s with italic := !s.italic }
  | .underline => { s with underline := !s.underline }
  | .strikethrough => { s with strikethrough := !s.strikethrough }
  | .reverse => { s with reverse := !s.reverse }
  | .reset => .plain
  | .noColor => s.clearColors
  | .foreground fg => s.setForeground (UInt8.ofNat fg)
  | .colors fg bg => (s.setForeground (UInt8.ofNat fg)).setBackground (UInt8.ofNat bg)
  | .inert => s

def digit? (b : UInt8) : Option Nat :=
  if 0x30 ≤ b ∧ b ≤ 0x39 then some (b.toNat - 0x30) else none

def readNumber : List UInt8 → Option (Nat × Nat)
  | [] => none
  | a :: rest =>
    match digit? a with
    | none => none
    | some tens =>
      match rest.head?.bind digit? with
      | none => some (tens, 1)
      | some ones => some (tens * 10 + ones, 2)

/-- The numbers of a color code, and how many bytes they take. A comma that no digit follows belongs
to the visible text. -/
def readColor (bytes : List UInt8) : Code × Nat :=
  match readNumber bytes with
  | none => (.noColor, 0)
  | some (fg, used) =>
    if bytes[used]? = some 0x2c then
      match readNumber (bytes.drop (used + 1)) with
      | none => (.foreground fg, used)
      | some (bg, more) => (.colors fg bg, used + 1 + more)
    else (.foreground fg, used)

/-- The code of a control byte, and how many of the bytes after it belong to the code. -/
def read (b : UInt8) (rest : List UInt8) : Code × Nat :=
  match b with
  | 0x02 => (.bold, 0)
  | 0x03 => readColor rest
  | 0x0f => (.reset, 0)
  | 0x16 => (.reverse, 0)
  | 0x1d => (.italic, 0)
  | 0x1e => (.strikethrough, 0)
  | 0x1f => (.underline, 0)
  | _ => (.inert, 0)

end Code

end ChatDisplay
