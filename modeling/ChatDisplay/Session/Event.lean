import ChatDisplay.Conversation.Basic

namespace ChatDisplay

inductive Action where
  | opened (kind : ConversationKind) (name server : String) (focus : Bool)
  | closed
  | text (raw : ByteArray)
  | cleared
  | topic (text : String)
  /-- A member came or changed status. -/
  | joined (nick : String) (status : Option Char)
  | left (nick : String)
  | renamed (old new : String)
  /-- The members are exactly these. -/
  | listed (members : List (String × Option Char))
  | dispersed
  | announced (symbols : String)
  | activated
  /-- The marker goes to the end of the document. -/
  | marked

structure Event where
  id : ConversationId
  action : Action

inductive Input where
  | event (e : Event)
  /-- The backend calls a conversation current without showing it. -/
  | setCurrent (id : ConversationId)
  | edited (text : String)
  | complete (id : ConversationId) (line : String) (cursor : Nat)

end ChatDisplay
