import ChatDisplay.Markup.Palette

namespace ChatDisplay

/-- The formatting in effect at some point of a message. The default is plain text. -/
structure Style where
  fg : Option UInt8 := none
  bg : Option UInt8 := none
  bold : Bool := false
  italic : Bool := false
  underline : Bool := false
  strikethrough : Bool := false
  /-- Foreground and background change places. -/
  reverse : Bool := false
  deriving DecidableEq, Repr, Inhabited

inductive Font where
  | regular
  | bold
  | italic
  | boldItalic
  deriving DecidableEq, Repr, Inhabited

structure Appearance where
  fg : Color
  /-- No color means no background. -/
  bg : Option Color
  font : Font
  underline : Bool
  strikethrough : Bool
  deriving DecidableEq, Repr, Inhabited

namespace Font

def ofFlags : Bool → Bool → Font
  | false, false => .regular
  | true, false => .bold
  | false, true => .italic
  | true, true => .boldItalic

def isBold : Font → Bool
  | .bold | .boldItalic => true
  | .regular | .italic => false

def isItalic : Font → Bool
  | .italic | .boldItalic => true
  | .regular | .bold => false

end Font

namespace Style

def plain : Style := {}

def isPlain (s : Style) : Bool := s == plain

def setForeground (s : Style) (index : UInt8) : Style := { s with fg := some (index % 16) }

def setBackground (s : Style) (index : UInt8) : Style := { s with bg := some (index % 16) }

def clearColors (s : Style) : Style := { s with fg := none, bg := none }

def resolve (s : Style) (p : Palette) : Appearance :=
  let fg := s.fg.map fun i => p.get i.toNat
  let bg := s.bg.map fun i => p.get i.toNat
  { fg := if s.reverse then bg.getD p.inverted else fg.getD p.foreground
    bg := if s.reverse then some (fg.getD p.foreground) else bg
    font := Font.ofFlags s.bold s.italic
    underline := s.underline
    strikethrough := s.strikethrough }

end Style

end ChatDisplay
