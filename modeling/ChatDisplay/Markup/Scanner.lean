import ChatDisplay.Charset.Fallback
import ChatDisplay.Markup.Code
import ChatDisplay.Markup.Run

/-! The bytes of a text are read once from left to right, and two places are remembered: where the span of
visible text begins, and how far it goes. A control byte ends the span, which becomes a run in the style
that held before the byte. -/
namespace ChatDisplay

structure Scanner where
  palette : Palette := .standard
  fallback : Fallback := .latin1
  /-- Codes are read but change no style. -/
  stripped : Bool := false

/-- A span of a text in one style: the bytes from `start` up to `stop`. -/
structure Span where
  start : Nat
  stop : Nat
  style : Style
  deriving DecidableEq, Repr

/-- The text of the bytes from `start` up to `stop`, both of which are between characters. -/
def Text.slice (text : String) (start stop : Nat) : String :=
  String.Pos.Raw.extract text ⟨start⟩ ⟨stop⟩

namespace Scanner

/-- The spans of a text from byte `start` on, with `style` in effect there, where the bytes are those
from place `i` on and no code is between `start` and `i`. -/
def spans (style : Style) (start i : Nat) : List UInt8 → List Span
  | [] => [⟨start, i, style⟩]
  | b :: rest =>
    if isControlByte b then
      let (code, used) := Code.read b rest
      ⟨start, i, style⟩ :: spans (code.apply style) (i + 1 + used) (i + 1 + used) (rest.drop used)
    else spans style start (i + 1) rest
  termination_by bytes => bytes.length
  decreasing_by
    · simp only [List.length_drop, List.length_cons]
      omega
    · simp

def run? (s : Scanner) (text : String) (span : Span) : Option Run :=
  let visible := Text.slice text span.start span.stop
  if visible.isEmpty then none
  else some (Run.styled visible (if s.stripped then .plain else span.style) s.palette)

def readText (s : Scanner) (text : String) : List Run :=
  (spans .plain 0 0 text.toUTF8.data.toList).filterMap (s.run? text)

def read (s : Scanner) (raw : ByteArray) : List Run := s.readText (s.fallback.decode raw)

def visibleText (s : Scanner) (raw : ByteArray) : String :=
  String.join (({ s with stripped := true }.read raw).map Run.text)

end Scanner

def Scanner.standard : Scanner := {}

end ChatDisplay
