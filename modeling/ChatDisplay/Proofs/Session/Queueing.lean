import ChatDisplay.Proofs.Session.Runs
import ChatDisplay.Session.Queue

/-! The exchange with its queue and a ledger of the calls that it amounts to are kept side by side. -/
namespace ChatDisplay

/-- A call of one of the methods of a session. -/
inductive Call where
  | openUnder (server : String) (t : Tab)
  | close (id : ConversationId)
  | setCurrent (id : ConversationId)
  | text (id : ConversationId) (raw : ByteArray)
  | clear (id : ConversationId)
  | topic (id : ConversationId) (words : String)
  | insert (id : ConversationId) (nick : String) (status : Option Char)
  | remove (id : ConversationId) (nick : String)
  | rename (id : ConversationId) (old new : String)
  | setMembers (id : ConversationId) (members : List (String × Option Char))
  | clearMembers (id : ConversationId)
  | setSymbols (id : ConversationId) (symbols : String)
  | activate (id : ConversationId)
  | edit (words : String)
  | complete (id : ConversationId) (line : String) (cursor : Nat)
  | setMarker (id : ConversationId)

namespace Session

def call (s : Session) : Call → Step
  | .openUnder server t => s.openUnder server t
  | .close id => s.close id
  | .setCurrent id => s.setCurrent id
  | .text id raw => s.text id raw
  | .clear id => s.clear id
  | .topic id words => s.topic id words
  | .insert id nick status => s.updateRoster id fun r => r.insert nick status
  | .remove id nick => s.updateRoster id fun r => (r.remove nick).2
  | .rename id old new => s.updateRoster id fun r => (r.rename old new).2
  | .setMembers id members => s.updateRoster id fun r => r.setMembers members
  | .clearMembers id => s.updateRoster id Roster.clear
  | .setSymbols id symbols => s.updateRoster id fun r => r.setSymbols (SymbolMap.ofText symbols)
  | .activate id => s.activate id
  | .edit words => s.edit words
  | .complete id line cursor => (s.complete id line cursor).2
  | .setMarker id => s.setMarker id

def callAll (s : Session) : List Call → Step
  | [] => ⟨s, []⟩
  | c :: rest => (s.call c).andThen fun s => s.callAll rest

end Session

section Mirroring

def Call.opening (server : String) (t : Tab) (focus : Bool) : List Call :=
  if focus then [.openUnder server t, .activate t.id] else [.openUnder server t]

/-- The calls that an event stands for. -/
def Event.calls (e : Event) : List Call :=
  match e.action with
  | .opened kind name server focus => Call.opening server ⟨e.id, kind, name⟩ focus
  | .closed => [.close e.id]
  | .text raw => [.text e.id raw]
  | .cleared => [.clear e.id]
  | .topic words => [.topic e.id words]
  | .joined nick status => [.insert e.id nick status]
  | .left nick => [.remove e.id nick]
  | .renamed old new => [.rename e.id old new]
  | .listed members => [.setMembers e.id members]
  | .dispersed => [.clearMembers e.id]
  | .announced symbols => [.setSymbols e.id symbols]
  | .activated => [.activate e.id]
  | .marked => [.setMarker e.id]

/-- The calls that are made without a queue for what a sender is asked to do. -/
def Posting.calls : Posting → List Call
  | .sent e => e.calls
  | .opening id kind name server focus => Call.opening server ⟨id, kind, name⟩ focus
  | .closing id => [.close id]
  | .text id raw => [.text id raw]
  | .clearing id => [.clear id]
  | .topic id words => [.topic id words]
  | .joining id nick status => [.insert id nick status]
  | .leaving id nick => [.remove id nick]
  | .renaming id old new => [.rename id old new]
  | .listing id members => [.setMembers id members]
  | .dispersal id => [.clearMembers id]
  | .activation id => [.activate id]

theorem Posting.calls_event (p : Posting) : p.event.calls = p.calls := by
  cases p <;> rfl

namespace Session

theorem callAll_single (s : Session) (c : Call) : s.callAll [c] = s.call c := by
  simp [callAll, Step.andThen]

theorem callAll_append (s : Session) (before after : List Call) :
    s.callAll (before ++ after) = (s.callAll before).andThen fun s => s.callAll after := by
  induction before generalizing s with
  | nil => simp [callAll, Step.andThen]
  | cons c rest ih =>
    simp only [List.cons_append, callAll, ih, Step.andThen_assoc]

theorem handle_eq_callAll (s : Session) (e : Event) : s.handle e = s.callAll e.calls := by
  obtain ⟨id, a⟩ := e
  cases a
  case opened kind name server focus =>
    cases focus
    · exact (s.callAll_single (.openUnder server ⟨id, kind, name⟩)).symm
    · have both := s.callAll_append [.openUnder server ⟨id, kind, name⟩] [.activate id]
      simp only [callAll_single] at both
      exact both.symm
  all_goals
    simp only [Event.calls, callAll_single]
    rfl

theorem handleAll_eq_callAll (s : Session) (posted : List Posting) :
    s.handleAll (posted.map Posting.event) = s.callAll (posted.flatMap Posting.calls) := by
  induction posted generalizing s with
  | nil => rfl
  | cons p rest ih =>
    simp only [List.map_cons, handleAll, List.flatMap_cons, callAll_append, handle_eq_callAll,
      Posting.calls_event, ih]

theorem drain_eq (s : Session) (q : Queue) :
    s.drain q = ⟨q.pending.length, s.handleAll q.pending, { q with pending := [] }⟩ := by
  obtain ⟨pending, isOpen⟩ := q
  -- The session has moved on when the loop comes to the next event.
  induction pending generalizing s with
  | nil =>
    rw [drain]
    rfl
  | cons e rest ih =>
    rw [drain]
    simp only [Queue.next, ih]
    rfl

end Session

end Mirroring

/-- What is done with a session and its queue. Any number of senders post to the one queue. -/
inductive Move where
  | post (sender : Nat) (p : Posting)
  | call (c : Call)
  | drain

/-- What a move gives back. -/
inductive Answer where
  | accepted
  | refused (e : QueueError)
  | applied (events : Nat)
  | done

def Answer.events : Answer → Nat
  | .applied events => events
  | .accepted | .refused _ | .done => 0

/-- A session with its queue, and all that the display was told and that the moves gave back. -/
structure Exchange where
  session : Session
  queue : Queue := {}
  updates : List Update := []
  answers : List Answer := []

namespace Exchange

def after (x : Exchange) : Move → Exchange
  | .post _ p =>
    match x.queue.post p with
    | .ok queue => { x with queue, answers := x.answers ++ [.accepted] }
    | .error e => { x with answers := x.answers ++ [.refused e] }
  | .call c =>
    let step := x.session.call c
    { x with
      session := step.session
      updates := x.updates ++ step.updates
      answers := x.answers ++ [.done] }
  | .drain =>
    let d := x.session.drain x.queue
    ⟨d.step.session, d.queue, x.updates ++ d.step.updates, x.answers ++ [.applied d.applied]⟩

def run (x : Exchange) (moves : List Move) : Exchange := moves.foldl after x

def closed (x : Exchange) : Exchange := { x with queue := x.queue.close }

def drained (x : Exchange) : Nat := x.answers.foldl (fun sum a => sum + a.events) 0

theorem drained_concat {x y : Exchange} {a : Answer} (answered : y.answers = x.answers ++ [a]) :
    y.drained = x.drained + a.events := by
  rw [drained, answered, List.foldl_append, drained]
  rfl

end Exchange

/-- The moves without a queue. A drain stands for the calls of what was posted since the last one. -/
structure Ledger where
  calls : List Call := []
  /-- What the drains have taken. -/
  applied : List Posting := []
  /-- What was posted since the last drain. -/
  waiting : List Posting := []

namespace Ledger

def after (l : Ledger) : Move → Ledger
  | .post _ p => { l with waiting := l.waiting ++ [p] }
  | .call c => { l with calls := l.calls ++ [c] }
  | .drain => ⟨l.calls ++ l.waiting.flatMap Posting.calls, l.applied ++ l.waiting, []⟩

def of (moves : List Move) : Ledger := moves.foldl after {}

end Ledger

namespace Move

def posting? : Move → Option Posting
  | .post _ p => some p
  | .call _ | .drain => none

def call? : Move → Option Call
  | .call c => some c
  | .post .. | .drain => none

/-- What a move gives back when nobody reads the queue any more. -/
def unread : Move → Answer
  | .post .. => .refused .closed
  | .call _ => .done
  | .drain => .applied 0

end Move

section Settling
variable {s : Session} {x : Exchange} {l : Ledger}

/-- The exchange is where the calls of the ledger bring the session, and its queue holds what the ledger
has waiting. -/
structure Exchange.Settles (x : Exchange) (s : Session) (l : Ledger) : Prop where
  session : x.session = (s.callAll l.calls).session
  updates : x.updates = (s.callAll l.calls).updates
  queue : x.queue = ⟨l.waiting.map Posting.event, true⟩
  accepted : ∀ e, .refused e ∉ x.answers
  drained : x.drained = l.applied.length

theorem Exchange.Settles.answer (settles : x.Settles s l) {a : Answer} (fine : ∀ e, a ≠ .refused e)
    (e : QueueError) : .refused e ∉ x.answers ++ [a] := by
  simp only [List.mem_append, List.mem_singleton, not_or]
  exact ⟨settles.accepted e, (fine e).symm⟩

theorem Exchange.Settles.after (settles : x.Settles s l) (m : Move) :
    (x.after m).Settles s (l.after m) := by
  cases m with
  | post sender p =>
    have sent : x.queue.post p = .ok ⟨(l.waiting ++ [p]).map Posting.event, true⟩ := by
      rw [settles.queue, List.map_append]
      rfl
    have after : x.after (.post sender p) = { x with
        queue := ⟨(l.waiting ++ [p]).map Posting.event, true⟩
        answers := x.answers ++ [.accepted] } := by
      simp only [Exchange.after, sent]
    rw [after]
    refine ⟨settles.session, settles.updates, rfl, settles.answer nofun, ?_⟩
    rw [drained_concat rfl, settles.drained]
    rfl
  | call c =>
    constructor
    · simp only [Exchange.after, Ledger.after, Session.callAll_append, Session.callAll_single,
        Step.andThen_session, settles.session]
    · simp only [Exchange.after, Ledger.after, Session.callAll_append, Session.callAll_single,
        Step.andThen_updates, settles.session, settles.updates]
    · exact settles.queue
    · exact settles.answer nofun
    · rw [drained_concat rfl, settles.drained]
      rfl
  | drain =>
    have taken : x.session.drain x.queue = ⟨l.waiting.length,
        (s.callAll l.calls).session.callAll (l.waiting.flatMap Posting.calls), ⟨[], true⟩⟩ := by
      rw [Session.drain_eq, settles.queue, settles.session, Session.handleAll_eq_callAll,
        List.length_map]
    constructor
    · simp only [Exchange.after, taken, Ledger.after, Session.callAll_append,
        Step.andThen_session]
    · simp only [Exchange.after, taken, Ledger.after, Session.callAll_append,
        Step.andThen_updates, settles.updates]
    · simp only [Exchange.after, taken]
      rfl
    · exact settles.answer nofun
    · have sum : (x.after .drain).drained = x.drained + l.waiting.length := by
        rw [drained_concat rfl, taken]
        rfl
      rw [sum, settles.drained]
      exact (List.length_append).symm

theorem Exchange.Settles.run (settles : x.Settles s l) (moves : List Move) :
    (x.run moves).Settles s (moves.foldl Ledger.after l) := by
  induction moves generalizing x l with
  | nil => exact settles
  | cons m rest ih => exact ih (settles.after m)

/-- Nothing that was posted is lost, repeated or moved ahead of anything. -/
theorem Ledger.postings (l : Ledger) (moves : List Move) :
    (moves.foldl Ledger.after l).applied ++ (moves.foldl Ledger.after l).waiting =
      l.applied ++ l.waiting ++ moves.filterMap Move.posting? := by
  induction moves generalizing l with
  | nil => simp
  | cons m rest ih =>
    rw [List.foldl_cons, ih]
    cases m <;> simp [Ledger.after, Move.posting?, List.filterMap_cons]

theorem Exchange.drain_nothing (nothing : x.queue.pending = []) :
    x.after .drain = { x with answers := x.answers ++ [.applied 0] } := by
  have same : { x.queue with pending := [] } = x.queue := by rw [← nothing]
  simp only [Exchange.after, Session.drain_eq, nothing, same, List.length_nil, Session.handleAll,
    List.append_nil]

theorem Exchange.after_unread (unread : x.queue = ⟨[], false⟩) (m : Move) :
    x.after m = ⟨(x.session.callAll m.call?.toList).session, ⟨[], false⟩,
      x.updates ++ (x.session.callAll m.call?.toList).updates, x.answers ++ [m.unread]⟩ := by
  cases m with
  | post sender p =>
    simp [Exchange.after, Queue.post, Queue.send, unread, Move.call?, Move.unread, Session.callAll]
  | call c =>
    simp [Exchange.after, unread, Move.call?, Move.unread, Session.callAll_single]
  | drain =>
    rw [drain_nothing (by rw [unread])]
    simp [unread, Move.call?, Move.unread, Session.callAll]

theorem Exchange.run_unread (unread : x.queue = ⟨[], false⟩) (moves : List Move) :
    x.run moves = ⟨(x.session.callAll (moves.filterMap Move.call?)).session, ⟨[], false⟩,
      x.updates ++ (x.session.callAll (moves.filterMap Move.call?)).updates,
      x.answers ++ moves.map Move.unread⟩ := by
  induction moves generalizing x with
  | nil => simp [Exchange.run, Session.callAll, ← unread]
  | cons m rest ih =>
    have calls : (m :: rest).filterMap Move.call? = m.call?.toList ++ rest.filterMap Move.call? := by
      cases m <;> simp [Move.call?, List.filterMap_cons]
    change (x.after m).run rest = _
    rw [after_unread unread m]
    refine (ih rfl).trans ?_
    simp only [calls, Session.callAll_append, Step.andThen_session, Step.andThen_updates,
      List.map_cons, List.append_assoc, List.singleton_append]

end Settling

/-- Session and display are where the calls of the ledger bring them, in which each drain is replaced by the
calls of what was posted since the last one. Every posting is in the ledger once, in the order of posting,
either as applied or as still in the queue. Once the reader of the queue is gone, every posting is refused. -/
theorem queueing_transparent (s : Session) (moves : List Move) :
    let x := ({ session := s } : Exchange).run moves
    let l := Ledger.of moves
    let posted := moves.filterMap Move.posting?
    (x.session = (s.callAll l.calls).session ∧ x.updates = (s.callAll l.calls).updates) ∧
    (posted = l.applied ++ l.waiting ∧ x.queue = ⟨l.waiting.map Posting.event, true⟩) ∧
    (∀ e, .refused e ∉ x.answers) ∧
    x.drained + x.queue.pending.length = posted.length ∧
    (x.queue.pending = [] → x.after .drain = { x with answers := x.answers ++ [.applied 0] }) ∧
    (∀ later, x.closed.run later =
      ⟨(x.session.callAll (later.filterMap Move.call?)).session, x.queue.close,
        x.updates ++ (x.session.callAll (later.filterMap Move.call?)).updates,
        x.answers ++ later.map Move.unread⟩) := by
  intro x l posted
  have start : Exchange.Settles { session := s } s {} := ⟨rfl, rfl, rfl, nofun, rfl⟩
  have settles : x.Settles s l := start.run moves
  have order : l.applied ++ l.waiting = posted := Ledger.postings {} moves
  refine ⟨⟨settles.session, settles.updates⟩, ⟨order.symm, settles.queue⟩, settles.accepted, ?_,
    Exchange.drain_nothing, ?_⟩
  · rw [settles.drained, settles.queue, ← order, List.length_map, List.length_append]
  · intro later
    exact Exchange.run_unread (x := x.closed) rfl later

end ChatDisplay
