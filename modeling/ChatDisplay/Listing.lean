import ChatDisplay.Conversation.Basic

namespace ChatDisplay

structure Tab where
  id : ConversationId
  kind : ConversationKind
  name : String
  deriving DecidableEq, Repr

structure Server where
  name : String
  tabs : List Tab
  deriving DecidableEq, Repr

structure Listing where
  servers : List Server := []
  deriving DecidableEq, Repr, Inhabited

/-- A line of the listing, a server or a conversation under its server. -/
inductive Listing.Line where
  | server (s : Server)
  | tab (s : Server) (t : Tab)
  deriving DecidableEq, Repr

namespace Server

def find? (s : Server) (id : ConversationId) : Option Tab := s.tabs.find? fun t => t.id == id

def erase (s : Server) (id : ConversationId) : Server :=
  { s with tabs := s.tabs.eraseP fun t => t.id == id }

end Server

namespace Listing

def addServer (l : Listing) (name : String) : Listing :=
  if l.servers.any fun s => s.name == name then l else ⟨l.servers ++ [⟨name, []⟩]⟩

def push (name : String) (t : Tab) : List Server → List Server
  | [] => []
  | s :: rest =>
    if s.name = name then { s with tabs := s.tabs ++ [t] } :: rest else s :: push name t rest

/-- Takes the first tab of a conversation out of the first server that has one. -/
def takeTab (id : ConversationId) : List Server → Option Tab × List Server
  | [] => (none, [])
  | s :: rest =>
    match s.find? id with
    | some t => (some t, s.erase id :: rest)
    | none =>
      let (found, rest) := takeTab id rest
      (found, s :: rest)

def removeTab (l : Listing) (id : ConversationId) : Option Tab × Listing :=
  let (found, servers) := takeTab id l.servers
  (found, ⟨servers⟩)

/-- Puts a conversation at the end of a server, which is added if need be. A conversation that is in
the listing already moves. -/
def addTab (l : Listing) (server : String) (t : Tab) : Listing :=
  ⟨push server t ((l.removeTab t.id).2.addServer server).servers⟩

def removeServer (l : Listing) (name : String) : Option Server × Listing :=
  (l.servers.find? fun s => s.name == name, ⟨l.servers.eraseP fun s => s.name == name⟩)

def find? (l : Listing) (id : ConversationId) : Option (Server × Tab) :=
  l.servers.findSome? fun s => (s.find? id).map fun t => (s, t)

/-- Visits every server, and after it the conversations under it. -/
def walk {σ : Type} (l : Listing) (onServer : σ → Server → σ) (onTab : σ → Server → Tab → σ)
    (start : σ) : σ :=
  l.servers.foldl (fun state s => s.tabs.foldl (fun state t => onTab state s t) (onServer state s))
    start

/-- Every line from top to bottom. -/
def lines (l : Listing) : List Line :=
  l.servers.flatMap fun s => .server s :: s.tabs.map fun t => .tab s t

def Line.isServer : Line → Bool
  | .server _ => true
  | .tab _ _ => false

def Line.name : Line → String
  | .server s => s.name
  | .tab _ t => t.name

def Line.depth : Line → Nat
  | .server _ => 0
  | .tab _ _ => 1

end Listing

end ChatDisplay
