import ChatDisplay.Markup.Run

namespace ChatDisplay

structure Document where
  runs : List Run := []
  /-- The number of runs before the marker. -/
  marker : Nat := 0
  deriving DecidableEq, Repr, Inhabited

namespace Document

def append (d : Document) (runs : List Run) : Document := { d with runs := d.runs ++ runs }

def clear (_ : Document) : Document := {}

def setMarker (d : Document) : Document := { d with marker := d.runs.length }

def afterMarker (d : Document) : List Run := d.runs.drop d.marker

def size (d : Document) : Nat := d.runs.length

def isEmpty (d : Document) : Bool := d.runs.isEmpty

end Document

end ChatDisplay
