import ChatDisplay.Error
import ChatDisplay.Session.Basic

/-! Events come out in the order in which they went in. When the reader goes away, the events not yet read
are lost and no more are taken. -/
namespace ChatDisplay

structure Queue where
  pending : List Event := []
  isOpen : Bool := true

namespace Queue

def send (q : Queue) (e : Event) : Except QueueError Queue :=
  if q.isOpen then .ok { q with pending := q.pending ++ [e] } else .error .closed

def next (q : Queue) : Option Event × Queue :=
  match q.pending with
  | [] => (none, q)
  | e :: rest => (some e, { q with pending := rest })

theorem next_shorter {q left : Queue} {e : Event} (taken : q.next = (some e, left)) :
    left.pending.length < q.pending.length := by
  unfold next at taken
  split at taken
  · cases taken
  · rename_i pending
    cases taken
    simp [pending]

def close (_ : Queue) : Queue := ⟨[], false⟩

end Queue

/-- What a sender can be asked to do: to send an event as it is, or to make one of an action. The
marker and the status symbols have no way of their own. -/
inductive Posting where
  | sent (e : Event)
  | opening (id : ConversationId) (kind : ConversationKind) (name server : String) (focus : Bool)
  | closing (id : ConversationId)
  | text (id : ConversationId) (raw : ByteArray)
  | clearing (id : ConversationId)
  | topic (id : ConversationId) (text : String)
  | joining (id : ConversationId) (nick : String) (status : Option Char)
  | leaving (id : ConversationId) (nick : String)
  | renaming (id : ConversationId) (old new : String)
  | listing (id : ConversationId) (members : List (String × Option Char))
  | dispersal (id : ConversationId)
  | activation (id : ConversationId)

def Posting.event : Posting → Event
  | .sent e => e
  | .opening id kind name server focus => ⟨id, .opened kind name server focus⟩
  | .closing id => ⟨id, .closed⟩
  | .text id raw => ⟨id, .text raw⟩
  | .clearing id => ⟨id, .cleared⟩
  | .topic id words => ⟨id, .topic words⟩
  | .joining id nick status => ⟨id, .joined nick status⟩
  | .leaving id nick => ⟨id, .left nick⟩
  | .renaming id old new => ⟨id, .renamed old new⟩
  | .listing id members => ⟨id, .listed members⟩
  | .dispersal id => ⟨id, .dispersed⟩
  | .activation id => ⟨id, .activated⟩

def Queue.post (q : Queue) (p : Posting) : Except QueueError Queue := q.send p.event

structure Drained where
  applied : Nat
  step : Step
  queue : Queue

namespace Session

def handleAll (s : Session) : List Event → Step
  | [] => ⟨s, []⟩
  | e :: rest => (s.handle e).andThen fun s => s.handleAll rest

/-- Takes events out of the queue and applies each before it takes the next, until none is ready. -/
def drain (s : Session) (q : Queue) : Drained :=
  match _ : q.next with
  | (none, left) => ⟨0, ⟨s, []⟩, left⟩
  | (some e, left) =>
    let step := s.handle e
    let rest := step.session.drain left
    ⟨rest.applied + 1, ⟨rest.step.session, step.updates ++ rest.step.updates⟩, rest.queue⟩
  termination_by q.pending.length
  decreasing_by exact Queue.next_shorter ‹_›

end Session

end ChatDisplay
