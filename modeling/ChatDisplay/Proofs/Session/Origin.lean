import ChatDisplay.Proofs.Session.Runs
import Mathlib.Data.List.Induction

/-! Whatever a conversation holds was entered while it was on screen. That is shown for any assignment of
texts that conversations may have, as long as it lets a conversation keep its texts until it is closed and
take those entered under it. -/
namespace ChatDisplay

/-- The input puts this text into the input line. -/
def Session.Enters (s : Session) (text : String) : Input → Prop
  | .edited words => words = text
  | .complete id line cursor => ∃ done, (s.complete id line cursor).1 = some done ∧ done.line = text
  | .event _ | .setCurrent _ => False

theorem Action.inside?_draft {scanner : Scanner} {a : Action} {f : Conversation → Conversation}
    (inside : a.inside? scanner = some f) (c : Conversation) : (f c).draft = c.draft := by
  cases a <;> cases inside <;> rfl

namespace Session
variable {s : Session} {id : ConversationId} {may more : ConversationId → String → Prop}

/-- Every draft, and the input line under the conversation on screen, is a text that the conversation
may have. -/
structure Within (s : Session) (may : ConversationId → String → Prop) : Prop where
  draft : ∀ id c, s.store.get? id = some c → may id c.draft
  line : ∀ id, s.active = some id → may id s.inputLine

theorem Within.mono (within : s.Within may) (grows : ∀ id text, may id text → more id text) :
    s.Within more :=
  ⟨fun id c isOpen => grows id c.draft (within.draft id c isOpen),
    fun id shown => grows id s.inputLine (within.line id shown)⟩

theorem Within.openUnder (within : s.Within may) (empty : ∀ id, may id "") (server : String)
    (t : Tab) : (s.openUnder server t).session.Within may := by
  constructor
  · intro k c isOpen
    rcases openUnder_cases isOpen with old | ⟨_, _, rfl⟩
    · exact within.draft k c old
    · exact empty k
  · intro k shown
    rw [active_openUnder] at shown
    rw [inputLine_openUnder]
    exact within.line k shown

theorem Within.activate (within : s.Within may) (id : ConversationId) :
    (s.activate id).session.Within may := by
  cases binds : s.binds id with
  | false =>
    obtain ⟨current, same⟩ := activate_stays binds
    rw [same]
    exact ⟨within.draft, within.line⟩
  | true =>
    obtain ⟨b, target⟩ := (binds_iff.mp binds).1
    constructor
    · intro k c isOpen
      rw [get?_activate] at isOpen
      obtain ⟨b, found, rfl⟩ := Option.map_eq_some_iff.mp isOpen
      rw [showing, if_pos binds]
      split
      · exact within.draft k b found
      · split
        · rename_i outgoing
          exact within.line k outgoing
        · exact within.draft k b found
    · intro k shown
      rw [active_activate, if_pos binds] at shown
      cases shown
      rw [activate_binds target binds]
      exact within.draft id b target

theorem Within.inside (within : s.Within may) {a : Action} {f : Conversation → Conversation}
    (inside : a.inside? s.scanner = some f) (id : ConversationId) :
    (s.act id a).session.Within may := by
  constructor
  · intro k c isOpen
    rw [get?_inside inside] at isOpen
    split at isOpen
    · obtain ⟨b, found, rfl⟩ := Option.map_eq_some_iff.mp isOpen
      rw [Action.inside?_draft inside]
      exact within.draft k b found
    · exact within.draft k c isOpen
  · intro k shown
    rw [active_inside inside] at shown
    rw [inputLine_inside inside]
    exact within.line k shown

theorem Within.close (within : s.Within may) (sound : s.Sound) (id : ConversationId)
    (grows : ∀ k text, k ≠ id → may k text → more k text) :
    (s.close id).session.Within more := by
  constructor
  · intro k c isOpen
    rw [get?_close sound.distinct] at isOpen
    split at isOpen
    · contradiction
    · rename_i other
      exact grows k c.draft other (within.draft k c isOpen)
  · intro k shown
    have other : k ≠ id := by
      rintro rfl
      obtain ⟨c, isOpen⟩ := (sound.close k).shown k shown
      rw [get?_close sound.distinct, if_pos rfl] at isOpen
      cases isOpen
    rw [active_close] at shown
    split at shown
    · contradiction
    · rw [inputLine_close]
      exact grows k s.inputLine other (within.line k shown)

/-- A text that a conversation gets with an input is one that it had and did not lose by closing, or
was entered while it was on screen. -/
theorem Within.step (within : s.Within may) (sound : s.Sound) (i : Input)
    (empty : ∀ id, more id "")
    (grows : ∀ id text, i ≠ .event ⟨id, .closed⟩ → may id text → more id text)
    (entered : ∀ id text, s.active = some id → s.Enters text i → more id text) :
    (s.step i).session.Within more := by
  cases i with
  | event e =>
    obtain ⟨id, a⟩ := e
    rcases a.sorts s.scanner with ⟨kind, name, server, focus, rfl⟩ | rfl | rfl | ⟨f, inside⟩
    · have before : s.Within more := within.mono fun k text => grows k text nofun
      have opened := before.openUnder empty server ⟨id, kind, name⟩
      cases focus
      · exact opened
      · exact opened.activate id
    · apply within.close sound id
      intro k text other
      apply grows k text
      rintro ⟨⟩
      exact other rfl
    · have before : s.Within more := within.mono fun k text => grows k text nofun
      exact before.activate id
    · have before : s.Within more := by
        apply within.mono
        intro k text
        apply grows k text
        rintro ⟨⟩
        contradiction
      exact before.inside inside id
  | setCurrent id =>
    have before : s.Within more := within.mono fun k text => grows k text nofun
    exact ⟨before.draft, before.line⟩
  | edited text =>
    have before : s.Within more := within.mono fun k text => grows k text nofun
    exact ⟨before.draft, fun k shown => entered k text shown rfl⟩
  | complete id line cursor =>
    have before : s.Within more := within.mono fun k text => grows k text nofun
    rcases s.complete_cases id line cursor with unanswered | ⟨done, completion, _, answered⟩
    · rw [Session.step, unanswered]
      exact before
    · have enters : s.Enters done.line (.complete id line cursor) :=
        ⟨done, by rw [answered], rfl⟩
      rw [Session.step, answered]
      exact ⟨before.draft, fun k shown => entered k done.line shown enters⟩

/-- The text is empty, or it was entered in a run while the conversation was on screen, which has not
been closed since. -/
def Entered (s : Session) (inputs : List Input) (id : ConversationId) (text : String) : Prop :=
  text = "" ∨ ∃ before i rest, inputs = before ++ i :: rest ∧
    (s.run before).session.active = some id ∧ (s.run before).session.Enters text i ∧
    ∀ j ∈ rest, j ≠ .event ⟨id, .closed⟩

theorem Entered.later {inputs : List Input} {text : String} (entered : s.Entered inputs id text)
    {i : Input} (kept : i ≠ .event ⟨id, .closed⟩) : s.Entered (inputs ++ [i]) id text := by
  rcases entered with empty | ⟨before, e, rest, split, shown, enters, lives⟩
  · exact .inl empty
  · refine .inr ⟨before, e, rest ++ [i], by simp [split], shown, enters, ?_⟩
    intro j hj
    rcases List.mem_append.mp hj with earlier | last
    · exact lives j earlier
    · rwa [List.mem_singleton.mp last]

theorem idle_within (settings : Settings) (scanner : Scanner) (inputs : List Input) :
    ((idle settings scanner).run inputs).session.Within
      ((idle settings scanner).Entered inputs) := by
  induction inputs using List.reverseRecOn with
  | nil => exact ⟨nofun, nofun⟩
  | append_singleton inputs i ih =>
    have sound := (idle_sound settings scanner).run inputs
    rw [run_concat]
    refine ih.step sound i (fun _ => .inl rfl) (fun k text kept old => old.later kept) ?_
    exact fun k text shown enters => .inr ⟨inputs, i, [], rfl, shown, enters, nofun⟩

end Session

end ChatDisplay
