import ChatDisplay.Proofs.Completion.Cycling
import ChatDisplay.Proofs.Session.Commuting

namespace ChatDisplay.Session
variable {s : Session} {id : ConversationId} {a : Action} {c : Completion}

section Steps

/-- The completion is still in progress after the step, and nothing that it depends on has changed. -/
structure Carries (s : Session) (c : Completion) (t : Session) : Prop where
  completion : s.completion = some c
  active : t.active = s.active
  inputLine : t.inputLine = s.inputLine

theorem carries_quiet (quiet : a.shows = false)
    (left : (s.act id a).session.completion = some c) : s.Carries c (s.act id a).session := by
  rw [completion_quiet quiet] at left
  split at left
  · contradiction
  · rename_i stays
    refine ⟨left, ?_, (fixed_quiet quiet id).1⟩
    rw [active, viewport_quiet quiet]
    split
    · rename_i closes
      have hidden : s.active ≠ some id := by simpa [closes, shows_eq] using stays
      exact if_neg hidden
    · rfl

theorem carries_activate (left : (s.activate id).session.completion = some c) :
    s.Carries c (s.activate id).session := by
  cases binds : s.binds id with
  | true =>
    obtain ⟨b, isOpen⟩ := (binds_iff.mp binds).1
    rw [activate_binds isOpen binds] at left
    contradiction
  | false =>
    obtain ⟨current, same⟩ := activate_stays binds
    rw [same] at left ⊢
    exact ⟨left, rfl, rfl⟩

theorem carries_act (left : (s.act id a).session.completion = some c) :
    s.Carries c (s.act id a).session := by
  rcases a.sorts s.scanner with ⟨kind, name, server, focus, rfl⟩ | rfl | rfl | ⟨f, inside⟩
  · cases focus
    · exact carries_quiet rfl left
    · -- opening comes first and is quiet
      have shown := carries_activate (s := (s.openUnder server ⟨id, kind, name⟩).session) left
      have opened : s.Carries c (s.openUnder server ⟨id, kind, name⟩).session :=
        carries_quiet (a := .opened kind name server false) rfl shown.completion
      exact ⟨opened.completion, shown.active.trans opened.active,
        shown.inputLine.trans opened.inputLine⟩
  · exact carries_quiet rfl left
  · exact carries_activate left
  · exact carries_quiet (Action.shows_inside inside) left

theorem complete_request (s : Session) (id : ConversationId) (line : String) (cursor : Nat) :
    s.complete id line cursor = (none, ⟨s, []⟩) ∨
      ∃ b c, s.active = some id ∧ s.store.get? id = some b ∧
        s.complete id line cursor = (some c.applied, ⟨{ s with
          completion := some c
          inputLine := c.applied.line }, [.input c.applied.line]⟩) ∧
        (Completion.ofLine? line cursor b.roster s.settings.completionSuffix = some c ∨
          ∃ old, s.completion = some old ∧ line = old.applied.line ∧ c = old.advance line) := by
  rw [complete]
  split
  · exact .inl rfl
  · rename_i b found
    obtain ⟨isOpen, shows⟩ := Option.filter_eq_some_iff.mp found
    have shown : s.active = some id := by simpa [shows_eq] using shows
    rcases Completion.request_cases s.completion line cursor b.roster
      s.settings.completionSuffix with nothing | ⟨c, answered, origin⟩
    · rw [nothing]
      exact .inl rfl
    · rw [answered]
      exact .inr ⟨b, c, shown, isOpen, rfl, origin⟩

end Steps

section Beginnings

/-- The input is a request for the conversation on screen that begins a completion of the same word with
the same candidates: the members of then whose nicks begin with the word. -/
def Begins (s : Session) (i : Input) (id : ConversationId) (c : Completion) : Prop :=
  ∃ line cursor b first, i = .complete id line cursor ∧ s.active = some id ∧
    s.store.get? id = some b ∧
    Completion.ofLine? line cursor b.roster s.settings.completionSuffix = some first ∧
    (s.step i).session.completion = some first ∧
    c.typed = first.typed ∧ c.candidates = first.candidates ∧
    c.candidates = b.roster.nicks.filter fun nick => Text.nickBegins nick c.typed

/-- In a run, the completion was begun for a conversation that has been on screen ever since. -/
def Began (s : Session) (inputs : List Input) (id : ConversationId) (c : Completion) : Prop :=
  ∃ before i rest, inputs = before ++ i :: rest ∧ (s.run before).session.Begins i id c ∧
    ∀ later, later <+: rest → (s.run (before ++ i :: later)).session.active = some id

variable {inputs : List Input} {i : Input}

theorem Began.later (began : s.Began inputs id c)
    (shown : (s.run (inputs ++ [i])).session.active = some id) : s.Began (inputs ++ [i]) id c := by
  obtain ⟨before, first, rest, rfl, begins, stays⟩ := began
  refine ⟨before, first, rest ++ [i], by simp, begins, ?_⟩
  intro later part
  rcases List.prefix_concat_iff.mp part with rfl | part
  · simpa using shown
  · exact stays later part

theorem Began.advance (began : s.Began inputs id c) (line : String) :
    s.Began inputs id (c.advance line) := began

/-- If a completion is in progress after an input, it was there before and nothing has touched it, or it
is what the user has just asked for. -/
theorem step_completion (i : Input) (left : (s.step i).session.completion = some c) :
    s.Carries c (s.step i).session ∨
      ∃ id, s.active = some id ∧ (s.step i).session.active = some id ∧
        (s.step i).session.inputLine = c.applied.line ∧
        (s.Begins i id c ∨ ∃ old line, s.completion = some old ∧ c = old.advance line) := by
  cases i with
  | event e => exact .inl (carries_act left)
  | setCurrent id => exact .inl ⟨left, rfl, rfl⟩
  | edited text => contradiction
  | complete id line cursor =>
    rcases s.complete_request id line cursor with unanswered | ⟨b, d, shown, isOpen, answered, origin⟩
    · rw [step, unanswered] at left ⊢
      exact .inl ⟨left, rfl, rfl⟩
    · have done : s.step (.complete id line cursor) = ⟨{ s with
          completion := some d
          inputLine := d.applied.line }, [.input d.applied.line]⟩ := by
        rw [step, answered]
      have same : c = d := by
        rw [done] at left
        exact (Option.some.inj left).symm
      subst same
      refine .inr ⟨id, shown, by rw [done]; exact shown, by rw [done], ?_⟩
      rcases origin with begun | ⟨old, earlier, -, advanced⟩
      · exact .inl ⟨line, cursor, b, c, rfl, shown, isOpen, begun, left, rfl, rfl,
          Completion.ofLine?_candidates begun⟩
      · exact .inr ⟨old, line, earlier, advanced⟩

theorem completion_began (settings : Settings) (scanner : Scanner) (inputs : List Input)
    (left : ((idle settings scanner).run inputs).session.completion = some c) :
    ∃ id, ((idle settings scanner).run inputs).session.active = some id ∧
      ((idle settings scanner).run inputs).session.inputLine = c.applied.line ∧
      (idle settings scanner).Began inputs id c := by
  induction inputs using List.reverseRecOn generalizing c with
  | nil => cases left
  | append_singleton inputs i ih =>
    have last := run_concat (idle settings scanner) inputs i
    rw [last] at left ⊢
    rcases step_completion i left with carries | ⟨id, shown, still, line, origin⟩
    · obtain ⟨id, shown, line, began⟩ := ih carries.completion
      have still := carries.active.trans shown
      exact ⟨id, still, carries.inputLine.trans line, began.later (last ▸ still)⟩
    · refine ⟨id, still, line, ?_⟩
      rcases origin with begins | ⟨old, words, earlier, rfl⟩
      · refine ⟨inputs, i, [], rfl, begins, ?_⟩
        intro later part
        rw [List.prefix_nil.mp part, last, still]
      · obtain ⟨k, before, -, began⟩ := ih earlier
        obtain rfl : k = id := Option.some.inj (before.symm.trans shown)
        exact (began.advance words).later (last ▸ still)

end Beginnings

/-- There is a completion in progress only while a conversation is on screen. Its line is the input line; it
was begun by a request for that conversation, which has stayed on screen since; and its candidates are the
members of then whose nicks begin with the typed word. -/
theorem completion_coherent (settings : Settings) (scanner : Scanner) (inputs : List Input) :
    let first := idle settings scanner
    let s := (first.run inputs).session
    (∀ c, s.completion = some c →
      ∃ id, s.active = some id ∧ s.inputLine = c.applied.line ∧ first.Began inputs id c) ∧
    (∀ id line cursor, (s.complete id line cursor).1 = none →
      (s.complete id line cursor).2 = ⟨s, []⟩) ∧
    (∀ id line cursor done, (s.complete id line cursor).1 = some done →
      let t := (s.complete id line cursor).2
      t.updates = [.input done.line] ∧ t.session.inputLine = done.line ∧
        t.session.store = s.store ∧ t.session.listing = s.listing ∧
        t.session.viewport = s.viewport) := by
  intro first s
  refine ⟨fun c left => completion_began settings scanner inputs left, ?_, ?_⟩
  · intro id line cursor nothing
    rcases s.complete_cases id line cursor with unanswered | ⟨done, completion, _, answered⟩
    · rw [unanswered]
    · rw [answered] at nothing
      contradiction
  · intro id line cursor done some
    rcases s.complete_cases id line cursor with unanswered | ⟨other, completion, _, answered⟩
    · rw [unanswered] at some
      contradiction
    · rw [answered] at some ⊢
      cases some
      exact ⟨rfl, rfl, rfl, rfl, rfl⟩

end ChatDisplay.Session
