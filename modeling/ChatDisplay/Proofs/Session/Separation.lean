import ChatDisplay.Proofs.Session.Runs
import ChatDisplay.Session.Queue
import Mathlib.Data.List.Induction

/-! Showing a conversation writes to two of them, the one that comes and the one that goes, but only drafts
and the note that a conversation has been on screen. What else there is to a conversation is its record. -/
namespace ChatDisplay

/-- All of a conversation but its draft and whether it has been on screen. -/
def Conversation.lasting (c : Conversation) : Conversation :=
  { c with draft := "", attached := false }

/-- What is kept under an id, if it is open. -/
def Session.record (s : Session) (id : ConversationId) : Option Conversation :=
  (s.store.get? id).map Conversation.lasting

namespace Action

/-- The record of a conversation after an action on it. -/
def after (scanner : Scanner) (id : ConversationId) (record : Option Conversation) :
    Action → Option Conversation
  | .opened kind name _ _ => some (record.getD { id, kind, name })
  | .closed => none
  | a =>
    match a.inside? scanner with
    | some f => record.map f
    | none => record

theorem after_inside {scanner : Scanner} {a : Action} {f : Conversation → Conversation}
    (inside : a.inside? scanner = some f) (id : ConversationId) (record : Option Conversation) :
    a.after scanner id record = record.map f := by
  cases a <;> cases inside <;> rfl

theorem inside_lasting {scanner : Scanner} {a : Action} {f : Conversation → Conversation}
    (inside : a.inside? scanner = some f) (c : Conversation) : (f c).lasting = f c.lasting := by
  cases a <;> cases inside <;> rfl

theorem after_eq_some {scanner : Scanner} {id : ConversationId} {a : Action}
    {record : Option Conversation} {c : Conversation}
    (present : a.after scanner id record = some c) :
    a ≠ .closed ∧
      (record.isSome ∨ ∃ kind name server focus, a = .opened kind name server focus) := by
  rcases a.sorts scanner with ⟨kind, name, server, focus, rfl⟩ | rfl | rfl | ⟨f, inside⟩
  · exact ⟨nofun, .inr ⟨kind, name, server, focus, rfl⟩⟩
  · cases present
  · have kept : record = some c := present
    exact ⟨nofun, .inl (by rw [kept]; rfl)⟩
  · rw [after_inside inside] at present
    constructor
    · rintro rfl
      contradiction
    · left
      obtain ⟨d, there, -⟩ := Option.map_eq_some_iff.mp present
      rw [there]
      rfl

end Action

namespace Event

/-- The record of a conversation after events of its own. -/
def recordAfter (scanner : Scanner) (id : ConversationId) (record : Option Conversation)
    (events : List Event) : Option Conversation :=
  events.foldl (fun record e => e.action.after scanner id record) record

theorem recordAfter_append (scanner : Scanner) (id : ConversationId)
    (record : Option Conversation) (before rest : List Event) :
    recordAfter scanner id record (before ++ rest) =
      recordAfter scanner id (recordAfter scanner id record before) rest :=
  List.foldl_append

/-- A record has grown from an opening of a conversation that was not open, with no closing since. -/
theorem recordAfter_eq_some {scanner : Scanner} {id : ConversationId} {events : List Event}
    {c : Conversation} (present : recordAfter scanner id none events = some c) :
    ∃ before opening rest, events = before ++ opening :: rest ∧
      (∃ kind name server focus, opening.action = .opened kind name server focus) ∧
      recordAfter scanner id none before = none ∧ ∀ e ∈ rest, e.action ≠ .closed := by
  induction events using List.reverseRecOn generalizing c with
  | nil => cases present
  | append_singleton events e ih =>
    rw [recordAfter_append] at present
    obtain ⟨stays, origin⟩ := Action.after_eq_some present
    cases earlier : recordAfter scanner id none events with
    | none =>
      rw [earlier] at origin
      exact ⟨events, e, [], rfl, origin.resolve_left nofun, earlier, nofun⟩
    | some d =>
      obtain ⟨before, opening, rest, split, opens, absent, lives⟩ := ih earlier
      refine ⟨before, opening, rest ++ [e], by rw [split]; simp, opens, absent, fun x hx => ?_⟩
      rcases List.mem_append.mp hx with inRest | last
      · exact lives x inRest
      · rwa [List.mem_singleton.mp last]

end Event

namespace Session
variable {s : Session}

section Acting

theorem record_openUnder (s : Session) (server : String) (t : Tab) (k : ConversationId) :
    (s.openUnder server t).session.record k =
      if k = t.id then some ((s.record k).getD { id := t.id, kind := t.kind, name := t.name })
      else s.record k := by
  rw [record, get?_openUnder, record]
  cases s.store.get? k with
  | none =>
    split
    · rfl
    · rfl
  | some c =>
    split
    · rfl
    · rfl

theorem record_close (sound : s.Sound) (id k : ConversationId) :
    (s.close id).session.record k = if k = id then none else s.record k := by
  rw [record, get?_close sound.distinct, record]
  split
  · rfl
  · rfl

theorem showing_lasting (s : Session) (id k : ConversationId) (c : Conversation) :
    (s.showing id k c).lasting = c.lasting := by
  rcases s.showing_cases id k c with same | same | same
  all_goals simp only [same, Conversation.lasting]

theorem record_activate (s : Session) (id k : ConversationId) :
    (s.activate id).session.record k = s.record k := by
  rw [record, get?_activate, Option.map_map, record]
  congr 1
  exact funext (s.showing_lasting id k)

theorem record_inside {a : Action} {f : Conversation → Conversation}
    (inside : a.inside? s.scanner = some f) (id k : ConversationId) :
    (s.act id a).session.record k = if k = id then (s.record k).map f else s.record k := by
  rw [record, get?_inside inside, record]
  split
  · rw [Option.map_map, Option.map_map]
    congr 1
    exact funext (Action.inside_lasting inside)
  · rfl

theorem record_act (sound : s.Sound) (id : ConversationId) (a : Action) (k : ConversationId) :
    (s.act id a).session.record k =
      if k = id then a.after s.scanner id (s.record k) else s.record k := by
  rcases a.sorts s.scanner with ⟨kind, name, server, focus, rfl⟩ | rfl | rfl | ⟨f, inside⟩
  · have opened := s.record_openUnder server ⟨id, kind, name⟩ k
    cases focus
    · exact opened
    · exact (record_activate _ id k).trans opened
  · exact record_close sound id k
  · rw [act, record_activate]
    exact (ite_self _).symm
  · rw [record_inside inside, Action.after_inside inside]

theorem scanner_activate (s : Session) (id : ConversationId) :
    (s.activate id).session.scanner = s.scanner := by
  rw [activate]
  split
  · rfl
  · rfl
  · rfl

theorem scanner_act (s : Session) (id : ConversationId) (a : Action) :
    (s.act id a).session.scanner = s.scanner := by
  rcases a.sorts s.scanner with ⟨kind, name, server, focus, rfl⟩ | rfl | rfl | ⟨f, inside⟩
  · have opened : (s.openUnder server ⟨id, kind, name⟩).session.scanner = s.scanner := by
      rw [openUnder]
      split
      · rfl
      · rfl
    cases focus
    · exact opened
    · exact (scanner_activate _ id).trans opened
  · rw [act, close]
    split
    · rfl
    · rfl
  · exact scanner_activate s id
  · obtain ⟨updates, same⟩ := act_inside_modify inside id
    rw [same]

end Acting

section Records

theorem record_handleAll (sound : s.Sound) (events : List Event) (id : ConversationId) :
    (s.handleAll events).session.record id =
      Event.recordAfter s.scanner id (s.record id) (events.filter (·.id = id)) := by
  induction events generalizing s with
  | nil => rfl
  | cons e rest ih =>
    have here := record_act sound e.id e.action id
    rw [handleAll, Step.andThen_session, handle, ih (sound.act e.id e.action), scanner_act, here]
    by_cases own : e.id = id
    · rw [List.filter_cons_of_pos (by simpa using own), if_pos own.symm, own]
      rfl
    · rw [List.filter_cons_of_neg (by simpa using own), if_neg (Ne.symm own)]

variable {settings : Settings} {scanner : Scanner} {id : ConversationId}
variable {events before rest : List Event}

theorem record_idle (settings : Settings) (scanner : Scanner) (events : List Event)
    (id : ConversationId) :
    ((idle settings scanner).handleAll events).session.record id =
      Event.recordAfter scanner id none (events.filter (·.id = id)) :=
  record_handleAll (idle_sound settings scanner) events id

theorem record_part (part : before.Sublist (events.filter (·.id = id))) :
    ((idle settings scanner).handleAll before).session.record id =
      Event.recordAfter scanner id none before := by
  have own : before.filter (·.id = id) = before := by
    refine List.filter_eq_self.mpr fun e he => ?_
    exact (List.mem_filter.mp (part.subset he)).2
  rw [record_idle, own]

/-- What comes before a moment at which a conversation is not open leaves no trace in it. -/
theorem record_cut (split : events.filter (·.id = id) = before ++ rest)
    (absent : Event.recordAfter scanner id none before = none) :
    ((idle settings scanner).handleAll events).session.record id =
      ((idle settings scanner).handleAll rest).session.record id := by
  have part : rest.Sublist (events.filter (·.id = id)) :=
    split ▸ List.sublist_append_right before rest
  rw [record_idle, split, Event.recordAfter_append, absent, record_part part]

end Records

/-- Each conversation is what its own events make of it. Its record does not depend on anything before a
moment at which the conversation was not open; if there is one, it has grown from the last opening that
took effect. Sequences that keep the order within each conversation leave the same records. -/
theorem conversations_separate (settings : Settings) (scanner : Scanner) (events : List Event) :
    let record (events : List Event) := ((idle settings scanner).handleAll events).session.record
    let own (id : ConversationId) := events.filter (·.id = id)
    (∀ id, record events id = record (own id) id) ∧
    (∀ id before rest, own id = before ++ rest → record before id = none →
      record events id = record rest id) ∧
    (∀ id before closing rest, own id = before ++ closing :: rest → closing.action = .closed →
      record events id = record rest id) ∧
    (∀ id c, record events id = some c → ∃ before opening rest,
      own id = before ++ opening :: rest ∧
      (∃ kind name server focus, opening.action = .opened kind name server focus) ∧
      record before id = none ∧ (∀ e ∈ rest, e.action ≠ .closed) ∧
      record (opening :: rest) id = some c) ∧
    (∀ others : List Event, (∀ id, others.filter (·.id = id) = own id) →
      record others = record events) := by
  intro record own
  refine ⟨fun id => ?_, fun id before rest split absent => ?_,
    fun id before closing rest split closes => ?_, fun id c present => ?_, fun others same => ?_⟩
  · exact (record_idle settings scanner events id).trans (record_part (List.Sublist.refl _)).symm
  · have part : before.Sublist (own id) := split ▸ List.sublist_append_left before rest
    exact record_cut split ((record_part part).symm.trans absent)
  · have through : own id = (before ++ [closing]) ++ rest := by
      rw [split, List.append_assoc, List.singleton_append]
    refine record_cut through ?_
    rw [Event.recordAfter_append]
    simp only [Event.recordAfter, List.foldl_cons, List.foldl_nil, closes, Action.after]
  · obtain ⟨before, opening, rest, split, opens, absent, lives⟩ :=
      Event.recordAfter_eq_some ((record_idle settings scanner events id).symm.trans present)
    have part : before.Sublist (events.filter (·.id = id)) :=
      split ▸ List.sublist_append_left before (opening :: rest)
    exact ⟨before, opening, rest, split, opens, (record_part part).trans absent, lives,
      (record_cut split absent).symm.trans present⟩
  · funext id
    have left := record_idle settings scanner others id
    rw [same id] at left
    exact left.trans (record_idle settings scanner events id).symm

end Session

end ChatDisplay
