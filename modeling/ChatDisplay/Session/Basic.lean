import ChatDisplay.Completion
import ChatDisplay.Listing
import ChatDisplay.Session.Event
import ChatDisplay.Settings.Basic
import ChatDisplay.Viewport

/-! A session owns the open conversations, the listing, the viewport, the input line and the completion in
progress. An input yields updates for the display, which concern the conversation on screen only. -/
namespace ChatDisplay

structure Session where
  settings : Settings := {}
  scanner : Scanner := {}
  store : Store := {}
  viewport : Viewport := {}
  listing : Listing := {}
  completion : Option Completion := none
  /-- The input line as it was last set or reported. -/
  inputLine : String := ""

/-- A session after an input, and the updates that the input caused, in order. -/
structure Step where
  session : Session
  updates : List Update := []

def Step.andThen (s : Step) (f : Session → Step) : Step :=
  let t := f s.session
  ⟨t.session, s.updates ++ t.updates⟩

namespace Session

def idle (settings : Settings) (scanner : Scanner) : Session :=
  { settings := settings, scanner := scanner }

/-- Starts a session with the scanner that its settings describe. -/
def start (decoders : Decoders) (settings : Settings) : Except SettingsError Session := do
  let scanner ← settings.scanner decoders
  return idle settings scanner

def active (s : Session) : Option ConversationId := s.viewport.bound

def current (s : Session) : Option ConversationId := s.viewport.current

def blank : List Update := [.replace [], .topic "", .roster [] {}]

/-- Opens a conversation under a server. One that is open already stays as it is. -/
def openUnder (s : Session) (server : String) (t : Tab) : Step :=
  match s.store.add t.id t.kind t.name with
  | (false, _) => ⟨s, []⟩
  | (true, store) => ⟨{ s with store, listing := s.listing.addTab server t }, []⟩

/-- Drops a conversation and all that it owns. The display goes blank if it was on screen, except
for the input line. -/
def close (s : Session) (id : ConversationId) : Step :=
  match s.store.remove id with
  | (none, _) => ⟨s, []⟩
  | (some _, store) =>
    let shown := s.viewport.shows id
    { session := { s with
        store
        listing := (s.listing.removeTab id).2
        viewport := s.viewport.forget id
        completion := if shown then none else s.completion }
      updates := if shown then blank else [] }

def setCurrent (s : Session) (id : ConversationId) : Step :=
  ⟨{ s with viewport := s.viewport.setCurrent id }, []⟩

/-- Adds a message to a document. A message without visible text adds nothing. -/
def text (s : Session) (id : ConversationId) (raw : ByteArray) : Step :=
  let runs := s.scanner.read raw
  if runs.isEmpty then ⟨s, []⟩
  else
    match s.store.append id runs with
    | (none, _) => ⟨s, []⟩
    | (some added, store) =>
      ⟨{ s with store }, if s.viewport.shows id then [.append added] else []⟩

def clear (s : Session) (id : ConversationId) : Step :=
  ⟨{ s with store := s.store.clear id },
    if s.store.contains id && s.viewport.shows id then [.replace []] else []⟩

def topic (s : Session) (id : ConversationId) (topic : String) : Step :=
  ⟨{ s with store := s.store.setTopic id topic },
    if s.store.contains id && s.viewport.shows id then [.topic topic] else []⟩

def setMarker (s : Session) (id : ConversationId) : Step :=
  ⟨{ s with store := s.store.setMarker id }, []⟩

def updateRoster (s : Session) (id : ConversationId) (f : Roster → Roster) : Step :=
  match s.store.get? id with
  | none => ⟨s, []⟩
  | some c =>
    let roster := f c.roster
    ⟨{ s with store := s.store.modifyRoster id f },
      if s.viewport.shows id then [.roster roster.entries roster.counts] else []⟩

/-- Shows a conversation. The input line becomes the draft of the one that was shown, and the
draft of the new one becomes the input line. -/
def activate (s : Session) (id : ConversationId) : Step :=
  let a := s.viewport.activate id s.store s.inputLine
  let s := { s with viewport := a.viewport, store := a.store }
  match a.outcome with
  | .bound _ =>
    let inputLine := ((a.store.get? id).map Conversation.draft).getD s.inputLine
    ⟨{ s with completion := none, inputLine }, a.updates⟩
  | .unchanged | .unknown => ⟨s, a.updates⟩

def edit (s : Session) (text : String) : Step :=
  ⟨{ s with inputLine := text, completion := none }, []⟩

def complete (s : Session) (id : ConversationId) (line : String) (cursor : Nat) :
    Option Completed × Step :=
  match (s.store.get? id).filter fun _ => s.viewport.shows id with
  | none => (none, ⟨s, []⟩)
  | some c =>
    match Completion.request s.completion line cursor c.roster s.settings.completionSuffix with
    | (none, _) => (none, ⟨s, []⟩)
    | (some done, completion) =>
      (some done, ⟨{ s with completion, inputLine := done.line }, [.input done.line]⟩)

def act (s : Session) (id : ConversationId) : Action → Step
  | .opened kind name server focus =>
    let opened := s.openUnder server ⟨id, kind, name⟩
    if focus then opened.andThen fun s => s.activate id else opened
  | .closed => s.close id
  | .text raw => s.text id raw
  | .cleared => s.clear id
  | .topic text => s.topic id text
  | .joined nick status => s.updateRoster id fun r => r.insert nick status
  | .left nick => s.updateRoster id fun r => (r.remove nick).2
  | .renamed old new => s.updateRoster id fun r => (r.rename old new).2
  | .listed members => s.updateRoster id fun r => r.setMembers members
  | .dispersed => s.updateRoster id Roster.clear
  | .announced symbols => s.updateRoster id fun r => r.setSymbols (SymbolMap.ofText symbols)
  | .activated => s.activate id
  | .marked => s.setMarker id

def handle (s : Session) (e : Event) : Step := s.act e.id e.action

def step (s : Session) : Input → Step
  | .event e => s.handle e
  | .setCurrent id => s.setCurrent id
  | .edited text => s.edit text
  | .complete id line cursor => (s.complete id line cursor).2

def run (s : Session) (inputs : List Input) : Step :=
  inputs.foldl (fun st i => st.andThen fun s => s.step i) ⟨s, []⟩

end Session

end ChatDisplay
