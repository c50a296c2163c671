import ChatDisplay.Conversation.Store
import ChatDisplay.Screen

/-! The backend may call a conversation current while it sets it up; only activating it brings it on
screen. -/
namespace ChatDisplay

structure Viewport where
  bound : Option ConversationId := none
  current : Option ConversationId := none
  deriving DecidableEq, Repr, Inhabited

inductive Activation where
  /-- The conversation was on screen already. -/
  | unchanged
  | bound (previous : Option ConversationId)
  | unknown
  deriving DecidableEq, Repr

structure Activated where
  outcome : Activation
  viewport : Viewport
  store : Store
  updates : List Update

def Conversation.present (c : Conversation) : List Update :=
  [.replace c.document.runs, .topic c.topic, .roster c.roster.entries c.roster.counts,
    .input c.draft]

namespace Viewport

def shows (v : Viewport) (id : ConversationId) : Bool := v.bound == some id

def setCurrent (v : Viewport) (id : ConversationId) : Viewport := { v with current := some id }

def forget (v : Viewport) (id : ConversationId) : Viewport :=
  { bound := if v.bound = some id then none else v.bound
    current := if v.current = some id then none else v.current }

/-- Saves the input line as the draft of the conversation on screen, if it is still open. -/
def saveDraft (v : Viewport) (store : Store) (input : String) : Store :=
  match v.bound with
  | some id => store.setDraft id input
  | none => store

/-- Brings a conversation on screen, where `input` is the input line at the moment. -/
def activate (v : Viewport) (id : ConversationId) (store : Store) (input : String) : Activated :=
  if store.contains id then
    let current := v.setCurrent id
    if v.shows id then ⟨.unchanged, current, store, []⟩
    else
      let store := (v.saveDraft store input).attach id
      { outcome := .bound v.bound
        viewport := { current with bound := some id }
        store
        updates := ((store.get? id).map Conversation.present).getD [] }
  else ⟨.unknown, v, store, []⟩

end Viewport

end ChatDisplay
