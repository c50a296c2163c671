import ChatDisplay.Conversation.Basic

/-! Every operation names its conversation and touches no other one. A conversation that is not open is left
alone, since events may come in while it is being closed. -/
namespace ChatDisplay

structure Store where
  table : Table ConversationId Conversation := {}
  deriving Repr, Inhabited

namespace Store

def conversations (s : Store) : List Conversation := s.table.values

def get? (s : Store) (id : ConversationId) : Option Conversation := s.table.get? id

def contains (s : Store) (id : ConversationId) : Bool := s.table.contains id

def ids (s : Store) : List ConversationId := s.table.keys

def size (s : Store) : Nat := s.table.size

def isEmpty (s : Store) : Bool := s.table.isEmpty

def add (s : Store) (id : ConversationId) (kind : ConversationKind) (name : String) :
    Bool × Store :=
  if s.contains id then (false, s)
  else (true, ⟨s.table.push id { id := id, kind := kind, name := name }⟩)

def remove (s : Store) (id : ConversationId) : Option Conversation × Store :=
  (s.get? id, ⟨s.table.erase id⟩)

def modify (s : Store) (id : ConversationId) (f : Conversation → Conversation) : Store :=
  ⟨s.table.modify id f⟩

/-- Adds runs to a document, and gives the runs added to an open conversation. -/
def append (s : Store) (id : ConversationId) (runs : List Run) : Option (List Run) × Store :=
  match s.get? id with
  | none => (none, s)
  | some before =>
    let after := before.document.append runs
    (some (after.runs.drop before.document.size),
      s.modify id fun c => { c with document := c.document.append runs })

def clear (s : Store) (id : ConversationId) : Store :=
  s.modify id fun c => { c with document := c.document.clear }

def setTopic (s : Store) (id : ConversationId) (topic : String) : Store :=
  s.modify id fun c => { c with topic }

def setMarker (s : Store) (id : ConversationId) : Store :=
  s.modify id fun c => { c with document := c.document.setMarker }

def setDraft (s : Store) (id : ConversationId) (draft : String) : Store :=
  s.modify id fun c => { c with draft }

def attach (s : Store) (id : ConversationId) : Store :=
  s.modify id fun c => { c with attached := true }

def modifyRoster (s : Store) (id : ConversationId) (f : Roster → Roster) : Store :=
  s.modify id fun c => { c with roster := f c.roster }

def runs? (s : Store) (id : ConversationId) : Option (List Run) :=
  (s.get? id).map fun c => c.document.runs

end Store

end ChatDisplay
