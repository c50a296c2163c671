import ChatDisplay.Conversation.Document
import ChatDisplay.Roster.Basic

namespace ChatDisplay

structure ConversationId where
  value : UInt64
  deriving DecidableEq, Repr, Inhabited

def ConversationId.label (id : ConversationId) : String := "#" ++ toString id.value.toNat

inductive ConversationKind where
  | server
  | channel
  | query
  deriving DecidableEq, Repr, Inhabited

def ConversationKind.name : ConversationKind → String
  | .server => "Server"
  | .channel => "Channel"
  | .query => "Query"

structure Conversation where
  id : ConversationId
  kind : ConversationKind
  name : String
  document : Document := {}
  roster : Roster := {}
  /-- The input line when the conversation was last left. -/
  draft : String := ""
  topic : String := ""
  /-- It has been on screen. -/
  attached : Bool := false
  deriving DecidableEq, Repr

end ChatDisplay
