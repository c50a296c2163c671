import ChatDisplay.Proofs.Viewport.Binding

namespace ChatDisplay.Viewport
variable {v : Viewport} {store : Store} {id : ConversationId} {c : Conversation}

/-- The conversation under `k` after `id` has come on screen: `id` has been there now, and the one that
leaves keeps the input line. -/
def exchange (v : Viewport) (id : ConversationId) (input : String) (k : ConversationId)
    (c : Conversation) : Conversation :=
  if k = id then { c with attached := true }
  else if v.bound = some k then { c with draft := input }
  else c

theorem store_exchange (hidden : v.bound ≠ some id) (store : Store) (input : String) :
    (v.saveDraft store input).attach id = store.map (v.exchange id input) := by
  cases held : v.bound with
  | none =>
    simp only [saveDraft, held, Store.attach, Store.modify, Store.map, Table.modify]
    congr 2
    funext k c
    simp [exchange, held]
  | some outgoing =>
    -- The one that leaves is not the one that comes, so no conversation is changed twice.
    have other : outgoing ≠ id := fun same => hidden (same ▸ held)
    simp only [saveDraft, held, Store.attach, Store.setDraft, Store.modify, Store.map, Table.modify,
      Table.map_map]
    congr 2
    funext k c
    simp only [exchange, held, Option.some.injEq]
    by_cases leaves : k = outgoing
    · simp [leaves, other]
    · simp [leaves, Ne.symm leaves]

/-- The open conversation `c` comes on screen in place of what was there. -/
structure Exchanges (v : Viewport) (store : Store) (id : ConversationId) (c : Conversation)
    (input : String) : Prop where
  outcome : (v.activate id store input).outcome = .bound v.bound
  viewport : (v.activate id store input).viewport = ⟨some id, some id⟩
  /-- It is told as it stands when the draft of the other has been saved. -/
  saved : (v.saveDraft store input).get? id = some c
  updates : (v.activate id store input).updates =
    [.replace c.document.runs, .topic c.topic, .roster c.roster.entries c.roster.counts,
      .input c.draft]
  store : (v.activate id store input).store = store.map (v.exchange id input)

theorem activate_exchanges (isOpen : store.get? id = some c) (hidden : v.bound ≠ some id)
    (input : String) : v.Exchanges store id c input := by
  have binds := activate_hidden isOpen hidden input
  have present : store.contains id = true := Store.contains_open isOpen
  have away : v.shows id = false := by simpa [shows] using hidden
  constructor
  · exact binds.outcome
  · simp only [activate, present, away, if_true, Bool.false_eq_true, if_false, setCurrent]
  · rw [get?_saveDraft hidden, isOpen]
  · exact binds.updates
  · simp only [activate, present, away, if_true, Bool.false_eq_true, if_false,
      store_exchange hidden]

theorem activate_arrives (isOpen : store.get? id = some c) (input : String) :
    (v.activate id store input).viewport = ⟨some id, some id⟩ ∧
      ∃ b, (v.activate id store input).store.get? id = some b := by
  by_cases held : v.bound = some id
  · rw [activate_held isOpen held]
    exact ⟨by simp [setCurrent, held], c, isOpen⟩
  · have binds := activate_hidden isOpen held input
    exact ⟨(activate_exchanges isOpen held input).viewport, _, binds.attached⟩

theorem activate_again (isOpen : store.get? id = some c) (input later : String) :
    let done := v.activate id store input
    done.viewport.activate id done.store later = ⟨.unchanged, done.viewport, done.store, []⟩ := by
  intro done
  obtain ⟨now, b, stillOpen⟩ := activate_arrives (v := v) isOpen input
  have held : done.viewport.bound = some id := by rw [now]
  have same : done.viewport.setCurrent id = done.viewport := by rw [now, setCurrent]
  rw [activate_held stillOpen held, same]

/-- A conversation that is not open changes nothing. One that is open and on screen becomes current, and that
is all; any other open one comes on screen in full. After that the same conversation can be activated as
often as one likes, with any input line, and nothing changes. -/
theorem activate_throughout (v : Viewport) (store : Store) (id : ConversationId) (input : String) :
    let done := v.activate id store input
    match store.get? id with
    | none => done = ⟨.unknown, v, store, []⟩ ∧
        ∀ later, done.viewport.activate id done.store later = ⟨.unknown, v, store, []⟩
    | some c =>
      (if v.bound = some id then done = ⟨.unchanged, { v with current := some id }, store, []⟩
        else v.Exchanges store id c input) ∧
        ∀ later, done.viewport.activate id done.store later =
          ⟨.unchanged, done.viewport, done.store, []⟩ := by
  intro done
  cases found : store.get? id with
  | none =>
    have nothing : done = ⟨.unknown, v, store, []⟩ := activate_unknown found input
    refine ⟨nothing, ?_⟩
    intro later
    rw [nothing]
    exact activate_unknown found later
  | some c =>
    refine ⟨?_, activate_again found input⟩
    split
    · rename_i held
      exact activate_held found held input
    · rename_i hidden
      exact activate_exchanges found hidden input

/-- Not so one that is not open: it is as unknown the second time as the first. -/
theorem activated_twice_unknown :
    ¬ ∀ (v : Viewport) (store : Store) (id : ConversationId) (input later : String),
      let done := v.activate id store input
      done.viewport.activate id done.store later =
        ⟨.unchanged, done.viewport, done.store, []⟩ := by
  intro always
  have unchanged := always {} {} ⟨9⟩ "" ""
  exact absurd (congrArg Activated.outcome unchanged) (by decide)

end ChatDisplay.Viewport
