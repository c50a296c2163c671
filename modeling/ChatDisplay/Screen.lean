import ChatDisplay.Roster.Entry
import ChatDisplay.Markup.Run

namespace ChatDisplay

inductive Update where
  | append (runs : List Run)
  | replace (runs : List Run)
  | topic (text : String)
  | roster (entries : List Entry) (counts : Counts)
  | input (text : String)
  deriving DecidableEq, Repr

/-- What is to be seen. A new display is blank. -/
structure Screen where
  runs : List Run := []
  topic : String := ""
  entries : List Entry := []
  counts : Counts := {}
  input : String := ""
  deriving DecidableEq, Repr, Inhabited

namespace Screen

def apply (s : Screen) : Update → Screen
  | .append runs => { s with runs := s.runs ++ runs }
  | .replace runs => { s with runs }
  | .topic topic => { s with topic }
  | .roster entries counts => { s with entries, counts }
  | .input input => { s with input }

def applyAll (s : Screen) (updates : List Update) : Screen := updates.foldl apply s

end Screen

end ChatDisplay
