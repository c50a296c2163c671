import ChatDisplay.Proofs.Conversation.Store
import ChatDisplay.Viewport
import Mathlib.Data.List.Induction

/-! The viewport knows a conversation by its id alone, while the store notes which conversations have been on
screen. Nothing keeps the two in step here, so a conversation may be closed and opened again under a
viewport that still holds its id. -/
namespace ChatDisplay

section Activating

/-- Activating a conversation puts it on screen in full: the display is told all of it, and the store
notes that it has been on screen. -/
structure Viewport.BindsFully (v : Viewport) (store : Store) (id : ConversationId)
    (c : Conversation) (input : String) : Prop where
  outcome : (v.activate id store input).outcome = .bound v.bound
  bound : (v.activate id store input).viewport.bound = some id
  updates : (v.activate id store input).updates =
    [.replace c.document.runs, .topic c.topic, .roster c.roster.entries c.roster.counts,
      .input c.draft]
  attached : (v.activate id store input).store.get? id = some { c with attached := true }

namespace Viewport
variable {v : Viewport} {store : Store} {id : ConversationId} {c : Conversation}

theorem activate_unknown (closed : store.get? id = none) (input : String) :
    v.activate id store input = ⟨.unknown, v, store, []⟩ := by
  have absent : store.contains id = false := Store.contains_closed closed
  simp [activate, absent]

theorem activate_held (isOpen : store.get? id = some c) (held : v.bound = some id)
    (input : String) : v.activate id store input = ⟨.unchanged, v.setCurrent id, store, []⟩ := by
  have present : store.contains id = true := Store.contains_open isOpen
  simp [activate, present, shows, held]

theorem get?_saveDraft (hidden : v.bound ≠ some id) (input : String) :
    (v.saveDraft store input).get? id = store.get? id := by
  unfold saveDraft
  split
  · rename_i outgoing held
    have other : id ≠ outgoing := fun same => hidden (same ▸ held)
    rw [Store.setDraft, Store.get?_modify, if_neg other]
  · rfl

theorem saveDraft_distinct (distinct : store.Distinct) (input : String) :
    (v.saveDraft store input).Distinct := by
  unfold saveDraft
  split
  · exact distinct.modify _ _
  · exact distinct

theorem activate_distinct (distinct : store.Distinct) (id : ConversationId) (input : String) :
    (v.activate id store input).store.Distinct := by
  unfold activate
  split
  · split
    · exact distinct
    · exact (saveDraft_distinct distinct input).modify _ _
  · exact distinct

theorem activate_hidden (isOpen : store.get? id = some c) (hidden : v.bound ≠ some id)
    (input : String) : v.BindsFully store id c input := by
  have present : store.contains id = true := Store.contains_open isOpen
  have away : v.shows id = false := by simpa [shows] using hidden
  have target : ((v.saveDraft store input).attach id).get? id = some { c with attached := true } := by
    rw [Store.attach, Store.get?_modify, if_pos rfl, get?_saveDraft hidden, isOpen,
      Option.map_some]
  constructor
  all_goals simp only [activate, present, away, if_true, Bool.false_eq_true, if_false, target]
  rfl

end Viewport

end Activating

/-- An operation on a store, or on a viewport beside it. -/
inductive Handling where
  | opening (id : ConversationId) (kind : ConversationKind) (name : String)
  | closing (id : ConversationId)
  | appending (id : ConversationId) (runs : List Run)
  | clearing (id : ConversationId)
  | topic (id : ConversationId) (words : String)
  | marking (id : ConversationId)
  | naming (id : ConversationId)
  | forgetting (id : ConversationId)
  | activating (id : ConversationId) (input : String)

/-- A store and a viewport that nobody keeps in step. -/
structure Desk where
  store : Store := {}
  viewport : Viewport := {}

namespace Desk

def after (d : Desk) : Handling → Desk
  | .opening id kind name => { d with store := (d.store.add id kind name).2 }
  | .closing id => { d with store := (d.store.remove id).2 }
  | .appending id runs => { d with store := (d.store.append id runs).2 }
  | .clearing id => { d with store := d.store.clear id }
  | .topic id words => { d with store := d.store.setTopic id words }
  | .marking id => { d with store := d.store.setMarker id }
  | .naming id => { d with viewport := d.viewport.setCurrent id }
  | .forgetting id => { d with viewport := d.viewport.forget id }
  | .activating id input =>
    let a := d.viewport.activate id d.store input
    ⟨a.store, a.viewport⟩

/-- A new store and a new viewport after some operations. -/
def of (handled : List Handling) : Desk := handled.foldl after {}

/-- The open conversation of this id was opened while the viewport held the id, from one before it. -/
def Reopened (handled : List Handling) (id : ConversationId) : Prop :=
  ∃ before kind name rest, handled = before ++ .opening id kind name :: rest ∧
    (of before).viewport.bound = some id ∧ (of before).store.get? id = none ∧
    .closing id ∉ rest

theorem of_concat (handled : List Handling) (h : Handling) :
    of (handled ++ [h]) = (of handled).after h := by
  simp only [of, List.foldl_append, List.foldl_cons, List.foldl_nil]

theorem Reopened.later {handled : List Handling} {id : ConversationId}
    (reopened : Reopened handled id) {h : Handling} (kept : h ≠ .closing id) :
    Reopened (handled ++ [h]) id := by
  obtain ⟨before, kind, name, rest, rfl, held, closed, stays⟩ := reopened
  refine ⟨before, kind, name, rest ++ [h], by simp, held, closed, ?_⟩
  simp only [List.mem_append, List.mem_singleton, not_or]
  exact ⟨stays, Ne.symm kept⟩

section Keeping
variable {d : Desk} {may more : ConversationId → Prop} {id : ConversationId}

/-- What the viewport holds has been on screen, unless it may be excused. -/
structure Tidy (d : Desk) (may : ConversationId → Prop) : Prop where
  distinct : d.store.Distinct
  held : ∀ id c, d.viewport.bound = some id → d.store.get? id = some c →
    c.attached = true ∨ may id

theorem Tidy.mono (tidy : d.Tidy may) (grows : ∀ id, may id → more id) : d.Tidy more :=
  ⟨tidy.distinct, fun k c held isOpen => (tidy.held k c held isOpen).imp_right (grows k)⟩

theorem Tidy.modify (tidy : d.Tidy may) (id : ConversationId) {f : Conversation → Conversation}
    (attached : ∀ c, (f c).attached = c.attached) :
    Tidy { d with store := d.store.modify id f } may := by
  constructor
  · exact tidy.distinct.modify id f
  · intro k c held isOpen
    rw [Store.get?_modify] at isOpen
    split at isOpen
    · obtain ⟨b, found, rfl⟩ := Option.map_eq_some_iff.mp isOpen
      rw [attached]
      exact tidy.held k b held found
    · exact tidy.held k c held isOpen

theorem Tidy.opening (tidy : d.Tidy may) (kind : ConversationKind) (name : String)
    (excused : d.viewport.bound = some id → d.store.get? id = none → may id) :
    (d.after (.opening id kind name)).Tidy may := by
  constructor
  · exact tidy.distinct.add
  · intro k c held isOpen
    cases found : d.store.get? id with
    | some b =>
      rw [after, Store.add_open found] at isOpen
      exact tidy.held k c held isOpen
    | none =>
      rw [after, Store.get?_add found] at isOpen
      split at isOpen
      · rename_i same
        subst same
        exact Or.inr (excused held found)
      · exact tidy.held k c held isOpen

theorem Tidy.closing (tidy : d.Tidy may) (grows : ∀ k, k ≠ id → may k → more k) :
    (d.after (.closing id)).Tidy more := by
  constructor
  · exact tidy.distinct.remove
  · intro k c held isOpen
    have other : k ≠ id := by
      rintro rfl
      rw [after, Store.get?_remove tidy.distinct] at isOpen
      cases isOpen
    rw [after, Store.get?_remove_other other] at isOpen
    exact (tidy.held k c held isOpen).imp_right (grows k other)

theorem Tidy.appending (tidy : d.Tidy may) (runs : List Run) :
    (d.after (.appending id runs)).Tidy may := by
  rw [after, Store.append_eq]
  exact tidy.modify id fun _ => rfl

theorem Tidy.activating (tidy : d.Tidy may) (id : ConversationId) (input : String) :
    (d.after (.activating id input)).Tidy may := by
  cases found : d.store.get? id with
  | none =>
    rw [after, Viewport.activate_unknown found]
    exact tidy
  | some c =>
    by_cases held : d.viewport.bound = some id
    · rw [after, Viewport.activate_held found held]
      exact ⟨tidy.distinct, tidy.held⟩
    · have binds := Viewport.activate_hidden found held input
      constructor
      · exact Viewport.activate_distinct tidy.distinct id input
      · intro k b shown isOpen
        have same : id = k := Option.some.inj (binds.bound.symm.trans shown)
        subst same
        cases Option.some.inj (binds.attached.symm.trans isOpen)
        exact Or.inl rfl

end Keeping

theorem Tidy.step {handled : List Handling} (tidy : (of handled).Tidy (Reopened handled))
    (h : Handling) : (of (handled ++ [h])).Tidy (Reopened (handled ++ [h])) := by
  have grows : (∀ id, h ≠ .closing id) → ∀ id, Reopened handled id → Reopened (handled ++ [h]) id :=
    fun kept id reopened => reopened.later (kept id)
  rw [of_concat]
  -- Closing takes the excuse from the conversation it removes, so it is the one case without it.
  cases h with
  | opening id kind name =>
    refine (tidy.mono (grows nofun)).opening kind name ?_
    intro held closed
    exact ⟨handled, kind, name, [], rfl, held, closed, List.not_mem_nil⟩
  | closing id =>
    refine tidy.closing ?_
    intro k other reopened
    exact reopened.later fun same => other (Handling.closing.inj same).symm
  | appending id runs => exact (tidy.mono (grows nofun)).appending runs
  | clearing id => exact (tidy.mono (grows nofun)).modify id fun _ => rfl
  | topic id words => exact (tidy.mono (grows nofun)).modify id fun _ => rfl
  | marking id => exact (tidy.mono (grows nofun)).modify id fun _ => rfl
  | naming id =>
    have kept := tidy.mono (grows nofun)
    exact ⟨kept.distinct, kept.held⟩
  | forgetting id =>
    have kept := tidy.mono (grows nofun)
    refine ⟨kept.distinct, ?_⟩
    intro k c held isOpen
    have before : (of handled).viewport.bound = some k := by
      simp only [after, Viewport.forget] at held
      split at held
      · cases held
      · exact held
    exact kept.held k c before isOpen
  | activating id input => exact (tidy.mono (grows nofun)).activating id input

theorem tidy_of (handled : List Handling) : (of handled).Tidy (Reopened handled) := by
  induction handled using List.reverseRecOn with
  | nil => exact ⟨List.nodup_nil, nofun⟩
  | append_singleton handled h ih => exact ih.step h

/-- Activating an open conversation that was never on screen puts it there in full, with one exception: it
was opened under the viewport, which had held its id since before and holds it still. Then activating it
tells the display nothing, and it is still not noted as having been on screen. -/
theorem unattached_binds (handled : List Handling) (id : ConversationId) (c : Conversation)
    (isOpen : (of handled).store.get? id = some c) (never : c.attached = false) :
    let v := (of handled).viewport
    let store := (of handled).store
    (v.bound ≠ some id ∧ ∀ input, v.BindsFully store id c input) ∨
    (v.bound = some id ∧ Reopened handled id ∧
      ∀ input, v.activate id store input = ⟨.unchanged, v.setCurrent id, store, []⟩) := by
  intro v store
  by_cases held : v.bound = some id
  · right
    refine ⟨held, ?_, Viewport.activate_held isOpen held⟩
    rcases (tidy_of handled).held id c held isOpen with attached | reopened
    · exact absurd (never.symm.trans attached) Bool.false_ne_true
    · exact reopened
  · left
    exact ⟨held, Viewport.activate_hidden isOpen held⟩

theorem unattached_binds_named :
    let handled : List Handling := [.opening ⟨1⟩ .channel "#garden", .naming ⟨1⟩]
    let v := (of handled).viewport
    let store := (of handled).store
    let c : Conversation := { id := ⟨1⟩, kind := .channel, name := "#garden" }
    store.get? ⟨1⟩ = some c ∧ c.attached = false ∧ v.bound ≠ some ⟨1⟩ ∧
      ∀ input, v.BindsFully store ⟨1⟩ c input := by
  intro handled v store c
  have hidden : v.bound ≠ some ⟨1⟩ := by decide
  have binds := unattached_binds handled ⟨1⟩ c rfl rfl
  exact ⟨rfl, rfl, binds.resolve_right fun held => hidden held.1⟩

/-- The exception does occur: a channel is closed and opened again while it is on screen. -/
theorem reopened_not_bound :
    ¬ ∀ (handled : List Handling) (id : ConversationId) (c : Conversation) (input : String),
      (of handled).store.get? id = some c → c.attached = false →
      (of handled).viewport.BindsFully (of handled).store id c input := by
  intro always
  let handled : List Handling :=
    [.opening ⟨1⟩ .channel "#garden", .activating ⟨1⟩ "", .closing ⟨1⟩,
      .opening ⟨1⟩ .channel "#garden", .appending ⟨1⟩ [.plain "hello"]]
  have binds := always handled ⟨1⟩
    { id := ⟨1⟩, kind := .channel, name := "#garden", document := ⟨[.plain "hello"], 0⟩ } "" rfl rfl
  exact absurd binds.outcome (by decide)

end Desk

end ChatDisplay
