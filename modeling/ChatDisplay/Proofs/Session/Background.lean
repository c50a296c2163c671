import ChatDisplay.Proofs.Session.Commuting

namespace ChatDisplay.Session
variable {s : Session} {id k : ConversationId} {a : Action}

section Stray

theorem activate_closed (closed : s.store.get? id = none) : s.activate id = ⟨s, []⟩ := by
  have absent : s.store.contains id = false := Store.contains_closed closed
  simp [activate, Viewport.activate, absent]

theorem act_closed (closed : s.store.get? id = none) (stray : a.opens = false) :
    s.act id a = ⟨s, []⟩ := by
  rcases a.sorts s.scanner with ⟨kind, name, server, focus, rfl⟩ | rfl | rfl | ⟨f, inside⟩
  · cases stray
  · exact close_closed closed
  · exact activate_closed closed
  · exact act_inside_closed inside closed

theorem complete_closed (closed : s.store.get? id = none) (line : String) (cursor : Nat) :
    s.complete id line cursor = (none, ⟨s, []⟩) := by
  rw [complete, closed]
  rfl

end Stray

section Background

/-- After this step the user sees, types and completes what was there before it, and all conversations
that satisfy `kept` are as they were. -/
structure Unnoticed (s : Session) (kept : ConversationId → Prop) (t : Step) : Prop where
  updates : t.updates = []
  active : t.session.active = s.active
  inputLine : t.session.inputLine = s.inputLine
  completion : t.session.completion = s.completion
  store : ∀ k, kept k → t.session.store.get? k = s.store.get? k

theorem active_hidden (hidden : s.active ≠ some id) (quiet : a.shows = false) :
    (s.act id a).session.active = s.active := by
  rw [active, viewport_quiet quiet]
  split
  · exact if_neg hidden
  · rfl

theorem Sound.unnoticed (sound : s.Sound) (hidden : s.active ≠ some id) (quiet : a.shows = false) :
    s.Unnoticed (· ≠ id) (s.act id a) := by
  have away : s.viewport.shows id = false := by rw [shows_eq, decide_eq_false hidden]
  constructor
  · rw [updates_quiet quiet, away, if_neg Bool.false_ne_true]
  · exact active_hidden hidden quiet
  · exact (fixed_quiet quiet id).1
  · rw [completion_quiet quiet, away, Bool.and_false, if_neg Bool.false_ne_true]
  · intro k other
    rw [get?_quiet sound.distinct quiet, if_neg other]

theorem Sound.unnoticed_all (sound : s.Sound) (events : List Event)
    (background : ∀ e ∈ events, s.active ≠ some e.id ∧ e.action.shows = false) :
    s.Unnoticed (fun k => ∀ e ∈ events, k ≠ e.id) (s.handleAll events) := by
  induction events generalizing s with
  | nil => exact ⟨rfl, rfl, rfl, rfl, fun _ _ => rfl⟩
  | cons e rest ih =>
    obtain ⟨hidden, quiet⟩ := background e List.mem_cons_self
    have first : s.Unnoticed (· ≠ e.id) (s.handle e) := sound.unnoticed hidden quiet
    -- nothing has come on screen, so what follows is still in the background
    have still : ∀ f ∈ rest,
        (s.handle e).session.active ≠ some f.id ∧ f.action.shows = false := by
      intro f hf
      rw [first.active]
      exact background f (List.mem_cons_of_mem e hf)
    have later : (s.handle e).session.Unnoticed (fun k => ∀ f ∈ rest, k ≠ f.id)
        ((s.handle e).session.handleAll rest) := ih (sound.act e.id e.action) still
    constructor
    · rw [handleAll, Step.andThen_updates, first.updates, later.updates]
      rfl
    · exact later.active.trans first.active
    · exact later.inputLine.trans first.inputLine
    · exact later.completion.trans first.completion
    · intro k other
      exact (later.store k fun f hf => other f (List.mem_cons_of_mem e hf)).trans
        (first.store k (other e List.mem_cons_self))

end Background

/-- An event for a conversation that is not open does nothing, unless it opens the conversation; nor does a
request to complete a line for it. An event for a conversation that is not on screen and that it does not
show changes that conversation alone and tells the display nothing; and so does any number of them. -/
theorem background_invisible (settings : Settings) (scanner : Scanner) (inputs : List Input) :
    let s := ((idle settings scanner).run inputs).session
    (∀ e : Event, s.store.get? e.id = none → e.action.opens = false → s.handle e = ⟨s, []⟩) ∧
    (∀ id line cursor, s.store.get? id = none → s.complete id line cursor = (none, ⟨s, []⟩)) ∧
    (∀ e : Event, s.active ≠ some e.id → e.action.shows = false →
      s.Unnoticed (· ≠ e.id) (s.handle e)) ∧
    (∀ events : List Event, (∀ e ∈ events, s.active ≠ some e.id ∧ e.action.shows = false) →
      s.Unnoticed (fun k => ∀ e ∈ events, k ≠ e.id) (s.handleAll events)) := by
  intro s
  have sound : s.Sound := (idle_sound settings scanner).run inputs
  refine ⟨?_, ?_, ?_, ?_⟩
  · intro e closed stray
    exact act_closed closed stray
  · intro id line cursor closed
    exact complete_closed closed line cursor
  · intro e hidden quiet
    exact sound.unnoticed hidden quiet
  · intro events background
    exact sound.unnoticed_all events background

end ChatDisplay.Session
