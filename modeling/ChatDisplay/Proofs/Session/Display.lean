import ChatDisplay.Proofs.Session.Runs

/-! A display is never told the whole state: it starts blank and carries out the updates of each input. Its
screen is a function of the session alone, since every input changes both alike. -/
namespace ChatDisplay

section Following

/-- The display after an input. What the user types is in the input box before the session hears of
it. -/
def Screen.after (screen : Screen) : Input → List Update → Screen
  | .edited text, updates => { screen with input := text }.applyAll updates
  | .event _, updates | .setCurrent _, updates | .complete .., updates => screen.applyAll updates

/-- The display of a session through a run. -/
def Screen.follow (screen : Screen) (s : Session) : List Input → Screen
  | [] => screen
  | i :: rest => (screen.after i (s.step i).updates).follow (s.step i).session rest

end Following

section Images

def Conversation.screen (c : Conversation) (input : String) : Screen :=
  { runs := c.document.runs
    topic := c.topic
    entries := c.roster.entries
    counts := c.roster.counts
    input }

/-- The screen of a session. -/
def Session.screen (s : Session) : Screen :=
  match s.active.bind s.store.get? with
  | some c => c.screen s.inputLine
  | none => { input := s.inputLine }

theorem Action.told_screen {scanner : Scanner} {a : Action} {f : Conversation → Conversation}
    (inside : a.inside? scanner = some f) (c : Conversation) (input : String) :
    (c.screen input).applyAll (a.told scanner (f c)) = (f c).screen input := by
  cases a <;> cases inside
  case text raw =>
    simp only [told]
    split
    · rename_i nothing
      rw [List.isEmpty_iff.mp nothing]
      simp [Screen.applyAll, Conversation.screen, Document.append]
    · rfl
  all_goals rfl

end Images

namespace Session
variable {s : Session} {id : ConversationId}

section Screens

theorem screen_shown {c : Conversation} (shown : s.active = some id)
    (isOpen : s.store.get? id = some c) : s.screen = c.screen s.inputLine := by
  simp only [screen, shown, Option.bind_some, isOpen]

theorem screen_empty (empty : s.active = none) : s.screen = { input := s.inputLine } := by
  simp only [screen, empty, Option.bind_none]

theorem screen_congr {t : Session} (bound : t.active = s.active) (line : t.inputLine = s.inputLine)
    (same : ∀ id, s.active = some id → t.store.get? id = s.store.get? id) :
    t.screen = s.screen := by
  cases shown : s.active with
  | none => rw [screen_empty shown, screen_empty (bound.trans shown), line]
  | some id => simp only [screen, bound, shown, Option.bind_some, same id shown, line]

theorem screen_inputLine (s : Session) (input : String) (completion : Option Completion) :
    { s with inputLine := input, completion }.screen = { s.screen with input } := by
  simp only [screen, active]
  split
  · rfl
  · rfl

end Screens

section Steps

theorem Sound.screen_openUnder (sound : s.Sound) (server : String) (t : Tab) :
    s.screen.applyAll (s.openUnder server t).updates =
      (s.openUnder server t).session.screen := by
  cases found : s.store.get? t.id with
  | some c => rw [openUnder_open found]; rfl
  | none =>
    rw [openUnder_closed found]
    symm
    refine screen_congr (s := s) rfl rfl ?_
    intro id shown
    -- what is on screen is open, so it is not the conversation that was added
    obtain ⟨c, isOpen⟩ := sound.shown id shown
    have other : id ≠ t.id := by
      rintro rfl
      rw [found] at isOpen
      contradiction
    rw [Store.get?_add found, if_neg other]

theorem screen_close (s : Session) (id : ConversationId) :
    s.screen.applyAll (s.close id).updates = (s.close id).session.screen := by
  cases found : s.store.get? id with
  | none => rw [close_closed found]; rfl
  | some c =>
    by_cases shown : s.active = some id
    · have empty : (s.close id).session.active = none := by
        rw [close_open found]
        exact if_pos shown
      rw [screen_shown shown found, screen_empty empty, close_open found, shows_eq,
        decide_eq_true shown]
      rfl
    · rw [close_open found, shows_eq, decide_eq_false shown]
      symm
      refine screen_congr (s := s) (if_neg shown) rfl ?_
      intro k showing
      have other : k ≠ id := fun same => shown (same ▸ showing)
      exact Store.get?_remove_other other

theorem screen_activate (s : Session) (id : ConversationId) :
    s.screen.applyAll (s.activate id).updates = (s.activate id).session.screen := by
  cases binds : s.binds id with
  | false =>
    obtain ⟨current, same⟩ := activate_stays binds
    rw [same]
    exact (screen_congr rfl rfl fun _ _ => rfl).symm
  | true =>
    obtain ⟨c, isOpen⟩ := (binds_iff.mp binds).1
    have shown : (s.activate id).session.active = some id := by
      rw [active_activate, if_pos binds]
    have target : (s.activate id).session.store.get? id = some { c with attached := true } := by
      rw [get?_activate, isOpen, Option.map_some, showing, if_pos binds, if_pos rfl]
    rw [screen_shown shown target, activate_binds isOpen binds]
    rfl

theorem screen_inside {a : Action} {f : Conversation → Conversation}
    (inside : a.inside? s.scanner = some f) :
    s.screen.applyAll (s.act id a).updates = (s.act id a).session.screen := by
  cases found : s.store.get? id with
  | none => rw [act_inside_closed inside found]; rfl
  | some c =>
    by_cases shown : s.active = some id
    · have showing : (s.act id a).session.active = some id := by
        rw [active_inside inside, shown]
      have changed : (s.act id a).session.store.get? id = some (f c) := by
        rw [get?_inside inside, if_pos rfl, found, Option.map_some]
      rw [screen_shown showing changed, screen_shown shown found, act_inside inside found,
        shows_eq, decide_eq_true shown]
      exact Action.told_screen inside c s.inputLine
    · rw [act_inside inside found, shows_eq, decide_eq_false shown]
      symm
      refine screen_congr (s := s) rfl rfl ?_
      intro k showing
      have other : k ≠ id := fun same => shown (same ▸ showing)
      rw [Store.get?_modify, if_neg other]

theorem Sound.screen_act (sound : s.Sound) (id : ConversationId) (a : Action) :
    s.screen.applyAll (s.act id a).updates = (s.act id a).session.screen := by
  rcases a.sorts s.scanner with ⟨kind, name, server, focus, rfl⟩ | rfl | rfl | ⟨f, inside⟩
  · have opened := sound.screen_openUnder server ⟨id, kind, name⟩
    cases focus
    · exact opened
    · rw [Session.act, if_pos rfl, Step.andThen_updates, Screen.applyAll_append, opened]
      exact screen_activate _ id
  · exact screen_close s id
  · exact screen_activate s id
  · exact screen_inside inside

/-- Every input changes the session's screen as its updates change the display. -/
theorem Sound.screen_step (sound : s.Sound) (i : Input) :
    s.screen.after i (s.step i).updates = (s.step i).session.screen := by
  cases i with
  | event e => exact sound.screen_act e.id e.action
  | setCurrent id => exact (screen_congr rfl rfl fun _ _ => rfl).symm
  | edited text => exact (screen_inputLine s text none).symm
  | complete id line cursor =>
    rcases s.complete_cases id line cursor with unanswered | ⟨done, completion, _, answered⟩
    · rw [Session.step, unanswered]
      rfl
    · rw [Session.step, answered]
      exact (screen_inputLine s done.line completion).symm

theorem Sound.screen_run (sound : s.Sound) (inputs : List Input) :
    s.screen.follow s inputs = (s.run inputs).session.screen := by
  induction inputs generalizing s with
  | nil => rfl
  | cons i rest ih =>
    rw [Screen.follow, sound.screen_step i, ih (sound.step i), run_cons]
    rfl

end Steps

/-- The display shows what the store holds of the conversation on screen, or nothing, and the input
line of the session. -/
structure Mirrored (s : Session) (screen : Screen) : Prop where
  shown : ∀ id, s.active = some id → ∃ c, s.store.get? id = some c ∧
    s.store.runs? id = some screen.runs ∧ screen.topic = c.topic ∧
    screen.entries = c.roster.entries ∧ screen.counts = c.roster.counts
  blank : s.active = none →
    screen.runs = [] ∧ screen.topic = "" ∧ screen.entries = [] ∧ screen.counts = {}
  input : s.inputLine = screen.input

theorem Sound.mirrored (sound : s.Sound) : s.Mirrored s.screen := by
  cases shown : s.active with
  | none =>
    rw [screen_empty shown]
    constructor
    · simp [shown]
    · intro _
      exact ⟨rfl, rfl, rfl, rfl⟩
    · rfl
  | some id =>
    obtain ⟨c, isOpen⟩ := sound.shown id shown
    rw [screen_shown shown isOpen]
    constructor
    · intro k showing
      obtain rfl : id = k := Option.some.inj (shown.symm.trans showing)
      have runs : s.store.runs? id = some c.document.runs := by
        unfold Store.runs?
        rw [isOpen, Option.map_some]
      exact ⟨c, isOpen, runs, rfl, rfl, rfl⟩
    · simp [shown]
    · rfl

/-- A display that starts blank mirrors the session after every run. -/
theorem display_mirrored (settings : Settings) (scanner : Scanner) (inputs : List Input) :
    ((idle settings scanner).run inputs).session.Mirrored
      (Screen.follow {} (idle settings scanner) inputs) := by
  have sound := idle_sound settings scanner
  have followed := sound.screen_run inputs
  rw [screen_empty rfl] at followed
  exact followed ▸ (sound.run inputs).mirrored

end Session

end ChatDisplay
