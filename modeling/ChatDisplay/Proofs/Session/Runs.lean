import ChatDisplay.Proofs.Session.Operations

/-! Two facts are kept by every input and are what the other properties rest on: no two open conversations
have the same id, and the conversation on screen is open. -/
namespace ChatDisplay

section Steps

@[simp]
theorem Step.andThen_session (s : Step) (f : Session → Step) :
    (s.andThen f).session = (f s.session).session := rfl

@[simp]
theorem Step.andThen_updates (s : Step) (f : Session → Step) :
    (s.andThen f).updates = s.updates ++ (f s.session).updates := rfl

theorem Step.andThen_assoc (s : Step) (f g : Session → Step) :
    (s.andThen f).andThen g = s.andThen fun t => (f t).andThen g := by
  simp only [Step.andThen, List.append_assoc]

theorem Screen.applyAll_append (screen : Screen) (first second : List Update) :
    screen.applyAll (first ++ second) = (screen.applyAll first).applyAll second :=
  List.foldl_append

end Steps

/-- The input asks to show a conversation. -/
def Input.Shows (id : ConversationId) (i : Input) : Prop :=
  i = .event ⟨id, .activated⟩ ∨ ∃ kind name server, i = .event ⟨id, .opened kind name server true⟩

namespace Session
variable {s : Session}

section Running

theorem foldl_step (st : Step) (inputs : List Input) :
    inputs.foldl (fun st i => st.andThen fun s => s.step i) st =
      st.andThen fun s => s.run inputs := by
  induction inputs generalizing st with
  | nil => simp [run, Step.andThen]
  | cons i rest ih =>
    have first (t : Session) : t.run (i :: rest) = (t.step i).andThen fun t => t.run rest := by
      rw [run, List.foldl_cons, ih, Step.andThen_assoc]
      simp [Step.andThen]
    rw [List.foldl_cons, ih, Step.andThen_assoc]
    simp only [first]

theorem run_cons (s : Session) (i : Input) (rest : List Input) :
    s.run (i :: rest) = (s.step i).andThen fun s => s.run rest := by
  rw [run, List.foldl_cons, foldl_step, Step.andThen_assoc]
  simp [Step.andThen]

theorem run_append (s : Session) (before after : List Input) :
    s.run (before ++ after) = (s.run before).andThen fun s => s.run after := by
  rw [run, List.foldl_append, foldl_step, run]

theorem run_concat (s : Session) (inputs : List Input) (i : Input) :
    (s.run (inputs ++ [i])).session = ((s.run inputs).session.step i).session := by
  rw [run_append, Step.andThen_session, run_cons]
  rfl

theorem run_keeps {P : Session → Prop} (keeps : ∀ s i, P s → P (s.step i).session) (holds : P s)
    (inputs : List Input) : P (s.run inputs).session := by
  induction inputs generalizing s with
  | nil => exact holds
  | cons i rest ih =>
    rw [run_cons]
    exact ih (keeps s i holds)

end Running

section Soundness

structure Sound (s : Session) : Prop where
  distinct : s.store.Distinct
  shown : ∀ id, s.active = some id → ∃ c, s.store.get? id = some c

theorem idle_sound (settings : Settings) (scanner : Scanner) : (idle settings scanner).Sound :=
  ⟨List.nodup_nil, nofun⟩

theorem Sound.openUnder (sound : s.Sound) (server : String) (t : Tab) :
    (s.openUnder server t).session.Sound := by
  constructor
  · cases found : s.store.get? t.id with
    | some c =>
      rw [openUnder_open found]
      exact sound.distinct
    | none =>
      rw [openUnder_closed found]
      exact sound.distinct.add
  · intro id shown
    rw [active_openUnder] at shown
    rw [get?_openUnder]
    split
    · exact ⟨_, rfl⟩
    · exact sound.shown id shown

theorem Sound.close (sound : s.Sound) (id : ConversationId) : (s.close id).session.Sound := by
  constructor
  · cases found : s.store.get? id with
    | none =>
      rw [close_closed found]
      exact sound.distinct
    | some c =>
      rw [close_open found]
      exact sound.distinct.remove
  · intro k shown
    rw [active_close] at shown
    split at shown
    · contradiction
    · rename_i elsewhere
      obtain ⟨c, isOpen⟩ := sound.shown k shown
      have other : k ≠ id := by
        rintro rfl
        exact elsewhere ⟨shown, Store.contains_open isOpen⟩
      exact ⟨c, by rw [get?_close sound.distinct, if_neg other, isOpen]⟩

theorem Sound.activate (sound : s.Sound) (id : ConversationId) :
    (s.activate id).session.Sound := by
  constructor
  · rw [store_activate]
    exact sound.distinct.map (s.showing id)
  · intro k shown
    have isOpen : ∃ c, s.store.get? k = some c := by
      rw [active_activate] at shown
      split at shown
      · rename_i binds
        cases shown
        exact (binds_iff.mp binds).1
      · exact sound.shown k shown
    obtain ⟨c, isOpen⟩ := isOpen
    exact ⟨s.showing id k c, by rw [get?_activate, isOpen, Option.map_some]⟩

theorem Sound.inside (sound : s.Sound) {a : Action} {f : Conversation → Conversation}
    (inside : a.inside? s.scanner = some f) (id : ConversationId) :
    (s.act id a).session.Sound := by
  constructor
  · obtain ⟨updates, same⟩ := act_inside_modify inside id
    rw [same]
    exact sound.distinct.modify id f
  · intro k shown
    rw [active_inside inside] at shown
    obtain ⟨c, isOpen⟩ := sound.shown k shown
    rw [get?_inside inside, isOpen]
    split
    · exact ⟨f c, rfl⟩
    · exact ⟨c, rfl⟩

theorem Sound.act (sound : s.Sound) (id : ConversationId) (a : Action) :
    (s.act id a).session.Sound := by
  rcases a.sorts s.scanner with ⟨kind, name, server, focus, rfl⟩ | rfl | rfl | ⟨f, inside⟩
  · cases focus
    · exact sound.openUnder server ⟨id, kind, name⟩
    · exact (sound.openUnder server ⟨id, kind, name⟩).activate id
  · exact sound.close id
  · exact sound.activate id
  · exact sound.inside inside id

theorem Sound.step (sound : s.Sound) (i : Input) : (s.step i).session.Sound := by
  cases i with
  | event e => exact sound.act e.id e.action
  | setCurrent id => exact ⟨sound.distinct, sound.shown⟩
  | edited text => exact ⟨sound.distinct, sound.shown⟩
  | complete id line cursor =>
    rcases s.complete_cases id line cursor with unanswered | ⟨done, completion, _, answered⟩
    · rwa [Session.step, unanswered]
    · rw [Session.step, answered]
      exact ⟨sound.distinct, sound.shown⟩

theorem Sound.run (sound : s.Sound) (inputs : List Input) : (s.run inputs).session.Sound :=
  run_keeps (fun _ i sound => sound.step i) sound inputs

end Soundness

section Presence
variable {id : ConversationId}

/-- Only an input that asks for it brings a conversation on screen. -/
theorem step_active (i : Input) (came : (s.step i).session.active = some id)
    (hidden : s.active ≠ some id) : i.Shows id := by
  cases i with
  | event e =>
    obtain ⟨k, a⟩ := e
    change (s.act k a).session.active = some id at came
    rcases a.sorts s.scanner with ⟨kind, name, server, focus, rfl⟩ | rfl | rfl | ⟨f, inside⟩
    · have opened := s.active_openUnder server ⟨k, kind, name⟩
      cases focus
      · exact absurd (opened.symm.trans came) hidden
      · rw [act, if_pos rfl, Step.andThen_session, active_activate, opened] at came
        split at came
        · cases came
          exact .inr ⟨kind, name, server, rfl⟩
        · exact absurd came hidden
    · rw [act, active_close] at came
      split at came
      · contradiction
      · contradiction
    · rw [act, active_activate] at came
      split at came
      · cases came
        exact .inl rfl
      · exact absurd came hidden
    · rw [active_inside inside] at came
      exact absurd came hidden
  | setCurrent k => exact absurd came hidden
  | edited text => exact absurd came hidden
  | complete k line cursor =>
    rcases s.complete_cases k line cursor with unanswered | ⟨done, completion, _, answered⟩
    · rw [step, unanswered] at came
      exact absurd came hidden
    · rw [step, answered] at came
      exact absurd came hidden

theorem Sound.step_stays (sound : s.Sound) (isOpen : ∃ c, s.store.get? id = some c) {i : Input}
    (kept : i ≠ .event ⟨id, .closed⟩) : ∃ c, (s.step i).session.store.get? id = some c := by
  obtain ⟨c, found⟩ := isOpen
  cases i with
  | event e =>
    obtain ⟨k, a⟩ := e
    change ∃ c, (s.act k a).session.store.get? id = some c
    rcases a.sorts s.scanner with ⟨kind, name, server, focus, rfl⟩ | rfl | rfl | ⟨f, inside⟩
    · have opened : ∃ c, (s.openUnder server ⟨k, kind, name⟩).session.store.get? id = some c := by
        rw [get?_openUnder, found]
        split
        · exact ⟨c, rfl⟩
        · exact ⟨c, rfl⟩
      cases focus
      · exact opened
      · obtain ⟨b, there⟩ := opened
        rw [Session.act, if_pos rfl, Step.andThen_session, get?_activate, there]
        exact ⟨_, rfl⟩
    · have other : id ≠ k := fun same => kept (same ▸ rfl)
      exact ⟨c, by rw [Session.act, get?_close sound.distinct, if_neg other, found]⟩
    · rw [Session.act, get?_activate, found]
      exact ⟨_, rfl⟩
    · rw [get?_inside inside, found]
      split
      · exact ⟨f c, rfl⟩
      · exact ⟨c, rfl⟩
  | setCurrent k => exact ⟨c, found⟩
  | edited text => exact ⟨c, found⟩
  | complete k line cursor =>
    rcases s.complete_cases k line cursor with unanswered | ⟨done, completion, _, answered⟩
    · exact ⟨c, by rwa [Session.step, unanswered]⟩
    · exact ⟨c, by rwa [Session.step, answered]⟩

end Presence

end Session

end ChatDisplay
