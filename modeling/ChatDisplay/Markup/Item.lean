import ChatDisplay.Markup.Code
import ChatDisplay.Markup.Run

/-! The grammar of messages: visible characters and controls, where a color control takes along the longest
color argument that follows it. The runs are the spans of visible characters that no control interrupts,
each in the style that the controls before it add up to. -/
namespace ChatDisplay

/-- The characters up to U+001F are controls, but for TAB, LF and CR, and so is U+007F. -/
def isControl (c : Char) : Bool :=
  (c ≤ '\x1f' && c != '\t' && c != '\n' && c != '\r') || c == '\x7f'

/-- A control character, with the argument it takes along if it is the color control. -/
structure Control where
  char : Char
  argument : List Char := []
  deriving DecidableEq, Repr

inductive Item where
  | visible (c : Char)
  | control (k : Control)
  deriving DecidableEq, Repr

namespace Control

def color : Char := '\x03'

def isNumber (cs : List Char) : Bool :=
  (cs.length == 1 || cs.length == 2) && cs.all Text.isDigit

def isArgument (cs : List Char) : Bool :=
  isNumber cs ||
    (isNumber (cs.takeWhile (· != ',')) && isNumber ((cs.dropWhile (· != ',')).drop 1))

/-- The longest beginning of at most `n` characters that is an argument, nothing if none is. -/
def longestArgument (cs : List Char) : Nat → List Char
  | 0 => []
  | n + 1 => if isArgument (cs.take (n + 1)) then cs.take (n + 1) else longestArgument cs n

def ofChar (c : Char) (cs : List Char) : Control :=
  if c = color then ⟨c, longestArgument cs cs.length⟩ else ⟨c, []⟩

def number? (cs : List Char) : Option Nat :=
  if cs.isEmpty then none else some (Text.natOf 10 cs)

def foreground? (k : Control) : Option Nat := number? (k.argument.takeWhile (· != ','))

def background? (k : Control) : Option Nat := number? ((k.argument.dropWhile (· != ',')).drop 1)

def colorIndex (n : Nat) : UInt8 := UInt8.ofNat (n % 16)

/-- The style after a control. Controls without a meaning of their own change nothing. -/
def apply (k : Control) (s : Style) : Style :=
  match k.char with
  | '\x02' => { s with bold := !s.bold }
  | '\x1d' => { s with italic := !s.italic }
  | '\x1f' => { s with underline := !s.underline }
  | '\x1e' => { s with strikethrough := !s.strikethrough }
  | '\x16' => { s with reverse := !s.reverse }
  | '\x0f' => {}
  | '\x03' =>
    match k.foreground?, k.background? with
    | none, _ => { s with fg := none, bg := none }
    | some fg, none => { s with fg := some (colorIndex fg) }
    | some fg, some bg => { s with fg := some (colorIndex fg), bg := some (colorIndex bg) }
  | _ => s

end Control

namespace Item

def ofChars : List Char → List Item
  | [] => []
  | c :: cs =>
    if isControl c then
      let k := Control.ofChar c cs
      .control k :: ofChars (cs.drop k.argument.length)
    else .visible c :: ofChars cs
  termination_by cs => cs.length
  decreasing_by
    · simp only [List.length_drop, List.length_cons]
      omega
    · simp

/-- The visible characters before, between and after the controls, each span with the controls before
it. Of the span that is being read, `controls` are before it and `visible` is its beginning. -/
def spans (controls : List Control) (visible : List Char) :
    List Item → List (List Control × List Char)
  | [] => [(controls, visible)]
  | .visible c :: items => spans controls (visible ++ [c]) items
  | .control k :: items => (controls, visible) :: spans (controls ++ [k]) [] items

def styleAfter (controls : List Control) : Style := controls.foldl (fun s k => k.apply s) {}

/-- The runs of a sequence of items: its spans with at least one character. -/
def runs (p : Palette) (items : List Item) : List Run :=
  ((spans [] [] items).filter fun span => !span.2.isEmpty).map fun span =>
    Run.styled (String.ofList span.2) (styleAfter span.1) p

end Item

end ChatDisplay
