import ChatDisplay.Proofs.Session.Origin

/-! The drafts by the rule are kept beside the session: none for a conversation that is opened, the input
line for one that another replaces on screen. The store agrees with the rule after every run. -/
namespace ChatDisplay

def Drafts : Type := ConversationId → String

namespace Drafts

/-- The drafts by the rule when a conversation is opened: one that was not open has none. -/
def opened (d : Drafts) (s : Session) (id : ConversationId) : Drafts := fun k =>
  if k = id ∧ s.store.get? id = none then "" else d k

/-- The drafts by the rule when a conversation is to be shown: one that leaves the screen for it keeps
the input line. -/
def shown (d : Drafts) (s : Session) (id : ConversationId) : Drafts := fun k =>
  if s.binds id ∧ s.active = some k then s.inputLine else d k

/-- The drafts by the rule after an input. -/
def after (d : Drafts) (s : Session) : Input → Drafts
  | .event ⟨id, .opened kind name server focus⟩ =>
    if focus then (d.opened s id).shown (s.openUnder server ⟨id, kind, name⟩).session id
    else d.opened s id
  | .event ⟨id, .activated⟩ => d.shown s id
  | _ => d

/-- The drafts by the rule after a run. -/
def follow (d : Drafts) (s : Session) : List Input → Drafts
  | [] => d
  | i :: rest => (d.after s i).follow (s.step i).session rest

section Rule
variable {d : Drafts} {s : Session} {id k : ConversationId} {c : Conversation}

theorem opened_open (isOpen : s.store.get? k = some c) : d.opened s id k = d k := by
  apply if_neg
  rintro ⟨rfl, closed⟩
  rw [isOpen] at closed
  contradiction

theorem opened_closed (closed : s.store.get? id = none) : d.opened s id id = "" :=
  if_pos ⟨rfl, closed⟩

theorem shown_outgoing (binds : s.binds id = true) (outgoing : s.active = some k) :
    d.shown s id k = s.inputLine :=
  if_pos ⟨binds, outgoing⟩

theorem shown_stays (stays : s.binds id = false) : d.shown s id k = d k := by
  apply if_neg
  rintro ⟨binds, _⟩
  rw [stays] at binds
  contradiction

theorem shown_other (other : s.active ≠ some k) : d.shown s id k = d k :=
  if_neg fun leaves => other leaves.2

theorem after_inside {scanner : Scanner} {a : Action} {f : Conversation → Conversation}
    (inside : a.inside? scanner = some f) (id : ConversationId) :
    d.after s (.event ⟨id, a⟩) = d := by
  cases a <;> cases inside <;> rfl

theorem after_hidden (isOpen : s.store.get? k = some c) (hidden : s.active ≠ some k) (i : Input) :
    d.after s i k = d k := by
  cases i with
  | event e =>
    obtain ⟨id, a⟩ := e
    rcases a.sorts s.scanner with ⟨kind, name, server, focus, rfl⟩ | rfl | rfl | ⟨f, inside⟩
    · cases focus
      · exact opened_open isOpen
      · have hidden : (s.openUnder server ⟨id, kind, name⟩).session.active ≠ some k := by
          rwa [Session.active_openUnder]
        exact (shown_other hidden).trans (opened_open isOpen)
    · rfl
    · exact shown_other hidden
    · rw [after_inside inside]
  | setCurrent id => rfl
  | edited text => rfl
  | complete id line cursor => rfl

end Rule

end Drafts

namespace Session
variable {s : Session} {d : Drafts} {id : ConversationId}

section Keeping

/-- The store holds these drafts. -/
def Keeps (s : Session) (d : Drafts) : Prop :=
  ∀ id c, s.store.get? id = some c → c.draft = d id

theorem Keeps.openUnder (keeps : s.Keeps d) (server : String) (t : Tab) :
    (s.openUnder server t).session.Keeps (d.opened s t.id) := by
  intro k c isOpen
  rcases openUnder_cases isOpen with old | ⟨rfl, closed, rfl⟩
  · rw [Drafts.opened_open old]
    exact keeps k c old
  · rw [Drafts.opened_closed closed]

theorem Keeps.activate (keeps : s.Keeps d) (id : ConversationId) :
    (s.activate id).session.Keeps (d.shown s id) := by
  intro k c isOpen
  rw [get?_activate] at isOpen
  obtain ⟨b, found, rfl⟩ := Option.map_eq_some_iff.mp isOpen
  have kept := keeps k b found
  rw [showing]
  cases binds : s.binds id with
  | false => rwa [Drafts.shown_stays binds, if_neg Bool.false_ne_true]
  | true =>
    rw [if_pos rfl]
    have hidden := (binds_iff.mp binds).2
    split
    · rename_i target
      rwa [Drafts.shown_other (target ▸ hidden)]
    · split
      · rename_i outgoing
        rw [Drafts.shown_outgoing binds outgoing]
      · rename_i other
        rwa [Drafts.shown_other other]

theorem Keeps.close (keeps : s.Keeps d) (sound : s.Sound) (id : ConversationId) :
    (s.close id).session.Keeps d := by
  intro k c isOpen
  rw [get?_close sound.distinct] at isOpen
  split at isOpen
  · contradiction
  · exact keeps k c isOpen

theorem Keeps.inside (keeps : s.Keeps d) {a : Action} {f : Conversation → Conversation}
    (inside : a.inside? s.scanner = some f) (id : ConversationId) :
    (s.act id a).session.Keeps d := by
  intro k c isOpen
  rw [get?_inside inside] at isOpen
  split at isOpen
  · obtain ⟨b, found, rfl⟩ := Option.map_eq_some_iff.mp isOpen
    rw [Action.inside?_draft inside]
    exact keeps k b found
  · exact keeps k c isOpen

theorem Keeps.step (keeps : s.Keeps d) (sound : s.Sound) (i : Input) :
    (s.step i).session.Keeps (d.after s i) := by
  cases i with
  | event e =>
    obtain ⟨id, a⟩ := e
    rcases a.sorts s.scanner with ⟨kind, name, server, focus, rfl⟩ | rfl | rfl | ⟨f, inside⟩
    · have opened := keeps.openUnder server ⟨id, kind, name⟩
      cases focus
      · exact opened
      · exact opened.activate id
    · exact keeps.close sound id
    · exact keeps.activate id
    · rw [Drafts.after_inside inside]
      exact keeps.inside inside id
  | setCurrent id => exact keeps
  | edited text => exact keeps
  | complete id line cursor =>
    rcases s.complete_cases id line cursor with unanswered | ⟨done, completion, _, answered⟩
    · rw [Session.step, unanswered]
      exact keeps
    · rw [Session.step, answered]
      exact keeps

theorem Keeps.run (keeps : s.Keeps d) (sound : s.Sound) (inputs : List Input) :
    (s.run inputs).session.Keeps (d.follow s inputs) := by
  induction inputs generalizing s d with
  | nil => exact keeps
  | cons i rest ih =>
    rw [run_cons]
    exact ih (keeps.step sound i) (sound.step i)

end Keeping

section Restoring

theorem Keeps.restores (keeps : s.Keeps d) (binds : s.binds id = true) :
    (s.activate id).session.inputLine = d id ∧
      ∀ screen : Screen, (screen.applyAll (s.activate id).updates).input = d id := by
  obtain ⟨c, isOpen⟩ := (binds_iff.mp binds).1
  rw [activate_binds isOpen binds, ← keeps id c isOpen]
  exact ⟨rfl, fun _ => rfl⟩

theorem binds_of_came (came : (s.activate id).session.active = some id)
    (hidden : s.active ≠ some id) : s.binds id = true := by
  rw [active_activate] at came
  split at came
  · assumption
  · exact absurd came hidden

theorem Keeps.step_restores (keeps : s.Keeps d) (i : Input)
    (came : (s.step i).session.active = some id) (hidden : s.active ≠ some id) :
    (s.step i).session.inputLine = d.after s i id ∧
      ∀ screen : Screen, (screen.applyAll (s.step i).updates).input = d.after s i id := by
  rcases step_active i came hidden with rfl | ⟨kind, name, server, rfl⟩
  · have same : d.after s (.event ⟨id, .activated⟩) id = d id := Drafts.shown_other hidden
    rw [same]
    exact keeps.restores (binds_of_came came hidden)
  · -- the conversation is shown in the session in which it has just been opened
    have opened := keeps.openUnder server ⟨id, kind, name⟩
    rw [← s.active_openUnder server ⟨id, kind, name⟩] at hidden
    have same : d.after s (.event ⟨id, .opened kind name server true⟩) id = d.opened s id id :=
      Drafts.shown_other hidden
    obtain ⟨line, box⟩ := opened.restores (binds_of_came came hidden)
    rw [same]
    refine ⟨line, ?_⟩
    intro screen
    have updates := box (screen.applyAll (s.openUnder server ⟨id, kind, name⟩).updates)
    rwa [← Screen.applyAll_append] at updates

end Restoring

section Returning
variable {x y : ConversationId}

theorem after_outgoing (shown : s.active = some x) (i : Input)
    (came : (s.step i).session.active = some y) (other : y ≠ x) :
    d.after s i x = s.inputLine := by
  have hidden : s.active ≠ some y := by
    rw [shown]
    exact fun same => other (Option.some.inj same).symm
  rcases step_active i came hidden with rfl | ⟨kind, name, server, rfl⟩
  · exact Drafts.shown_outgoing (binds_of_came came hidden) shown
  · rw [← s.active_openUnder server ⟨y, kind, name⟩] at hidden shown
    rw [← s.inputLine_openUnder server ⟨y, kind, name⟩]
    exact Drafts.shown_outgoing (binds_of_came came hidden) shown

theorem Sound.run_away (sound : s.Sound) (isOpen : ∃ c, s.store.get? x = some c)
    (hidden : s.active ≠ some x) (inputs : List Input)
    (away : ∀ i ∈ inputs, i ≠ .event ⟨x, .closed⟩ ∧ ¬ i.Shows x) :
    (s.run inputs).session.binds x = true ∧ d.follow s inputs x = d x := by
  induction inputs generalizing s d with
  | nil => exact ⟨binds_iff.mpr ⟨isOpen, hidden⟩, rfl⟩
  | cons i rest ih =>
    obtain ⟨kept, unshown⟩ := away i List.mem_cons_self
    obtain ⟨c, found⟩ := isOpen
    have still : (s.step i).session.active ≠ some x := fun came =>
      unshown (step_active i came hidden)
    obtain ⟨binds, same⟩ := ih (sound.step i) (sound.step_stays ⟨c, found⟩ kept) still
      fun j hj => away j (List.mem_cons_of_mem i hj)
    rw [run_cons]
    exact ⟨binds, same.trans (Drafts.after_hidden found hidden i)⟩

/-- What was in the input line when a conversation was replaced on screen is there again when it is
shown the next time. -/
theorem Keeps.returns (keeps : s.Keeps d) (sound : s.Sound) (shown : s.active = some x) (i : Input)
    (came : (s.step i).session.active = some y) (other : y ≠ x) (rest : List Input)
    (away : ∀ j ∈ rest, j ≠ .event ⟨x, .closed⟩ ∧ ¬ j.Shows x) :
    let back := (s.run (i :: rest)).session
    back.binds x = true ∧ (back.activate x).session.inputLine = s.inputLine ∧
      ∀ screen : Screen, (screen.applyAll (back.activate x).updates).input = s.inputLine := by
  have hidden : (s.step i).session.active ≠ some x := by
    rw [came]
    exact fun same => other (Option.some.inj same)
  have kept : i ≠ .event ⟨x, .closed⟩ := by
    rintro rfl
    have gone : (s.close x).session.active = some y := came
    rw [active_close, shown] at gone
    split at gone
    · contradiction
    · exact other (Option.some.inj gone).symm
  have isOpen := sound.step_stays (sound.shown x shown) kept
  obtain ⟨binds, same⟩ :=
    (sound.step i).run_away (d := d.after s i) isOpen hidden rest away
  have kept : d.follow s (i :: rest) x = s.inputLine :=
    same.trans (after_outgoing shown i came other)
  rw [← kept, run_cons]
  exact ⟨binds, ((keeps.step sound i).run (sound.step i) rest).restores binds⟩

end Returning

/-- After every run the store holds the drafts by the rule, and a conversation that comes on screen brings
its own into the input line and the input box. The text that was left in a conversation is there again when
it is next shown, unless it was closed. A draft was entered while its own conversation was on screen. -/
theorem drafts_kept (settings : Settings) (scanner : Scanner) (inputs : List Input) :
    let first := idle settings scanner
    let s := (first.run inputs).session
    let drafts := Drafts.follow (fun _ => "") first inputs
    (∀ id c, s.store.get? id = some c → c.draft = drafts id) ∧
    (∀ id, s.binds id = true → (s.activate id).session.inputLine = drafts id ∧
      ∀ screen : Screen, (screen.applyAll (s.activate id).updates).input = drafts id) ∧
    (∀ i id, s.active ≠ some id → (s.step i).session.active = some id →
      (s.step i).session.inputLine = drafts.after s i id ∧
      ∀ screen : Screen, (screen.applyAll (s.step i).updates).input = drafts.after s i id) ∧
    (∀ x y i rest, s.active = some x → (s.step i).session.active = some y → y ≠ x →
      (∀ j ∈ rest, j ≠ .event ⟨x, .closed⟩ ∧ ¬ j.Shows x) →
      let back := (s.run (i :: rest)).session
      back.binds x = true ∧ (back.activate x).session.inputLine = s.inputLine ∧
      ∀ screen : Screen, (screen.applyAll (back.activate x).updates).input = s.inputLine) ∧
    (∀ id c, s.store.get? id = some c → first.Entered inputs id c.draft) := by
  intro first s drafts
  have sound : s.Sound := (idle_sound settings scanner).run inputs
  have nothing : first.Keeps fun _ => "" := nofun
  have keeps : s.Keeps drafts := nothing.run (idle_sound settings scanner) inputs
  refine ⟨keeps, ?_, ?_, ?_, (idle_within settings scanner inputs).draft⟩
  · intro id binds
    exact keeps.restores binds
  · intro i id hidden came
    exact keeps.step_restores i came hidden
  · intro x y i rest shown came other away
    exact keeps.returns sound shown i came other rest away

example :
    let away := (idle {} {}).run [.event ⟨⟨1⟩, .opened .channel "#garden" "net" true⟩,
      .edited "hello", .event ⟨⟨2⟩, .opened .query "ann" "net" true⟩]
    let back := away.session.activate ⟨1⟩
    away.session.inputLine = "" ∧ back.session.inputLine = "hello" := by decide

end Session

end ChatDisplay
