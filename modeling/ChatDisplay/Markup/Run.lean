import ChatDisplay.Markup.Style

namespace ChatDisplay

structure Run where
  text : String
  style : Style
  appearance : Appearance
  deriving DecidableEq, Repr

namespace Run

def styled (text : String) (style : Style) (p : Palette) : Run :=
  ⟨text, style, style.resolve p⟩

def plain (text : String) : Run := styled text .plain .standard

end Run

end ChatDisplay
