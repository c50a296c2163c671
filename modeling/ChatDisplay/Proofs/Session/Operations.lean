import ChatDisplay.Session.Basic
import ChatDisplay.Proofs.Viewport.Activation

namespace ChatDisplay

namespace Action

/-- What an action changes in an open conversation, for the actions that neither open, close nor show
one. -/
def inside? (scanner : Scanner) : Action → Option (Conversation → Conversation)
  | .opened .. | .closed | .activated => none
  | .text raw => some fun c => { c with document := c.document.append (scanner.read raw) }
  | .cleared => some fun c => { c with document := c.document.clear }
  | .topic words => some fun c => { c with topic := words }
  | .joined nick status => some fun c => { c with roster := c.roster.insert nick status }
  | .left nick => some fun c => { c with roster := (c.roster.remove nick).2 }
  | .renamed old new => some fun c => { c with roster := (c.roster.rename old new).2 }
  | .listed members => some fun c => { c with roster := c.roster.setMembers members }
  | .dispersed => some fun c => { c with roster := c.roster.clear }
  | .announced symbols =>
    some fun c => { c with roster := c.roster.setSymbols (SymbolMap.ofText symbols) }
  | .marked => some fun c => { c with document := c.document.setMarker }

/-- What the display is told when an action has changed the conversation it shows into `c`. -/
def told (scanner : Scanner) (c : Conversation) : Action → List Update
  | .text raw => if (scanner.read raw).isEmpty then [] else [.append (scanner.read raw)]
  | .cleared => [.replace []]
  | .topic words => [.topic words]
  | .joined .. | .left .. | .renamed .. | .listed .. | .dispersed | .announced .. =>
    [.roster c.roster.entries c.roster.counts]
  | .opened .. | .closed | .activated | .marked => []

theorem sorts (scanner : Scanner) (a : Action) :
    (∃ kind name server focus, a = .opened kind name server focus) ∨ a = .closed ∨
      a = .activated ∨ ∃ f, a.inside? scanner = some f := by
  cases a
  case opened kind name server focus => exact .inl ⟨kind, name, server, focus, rfl⟩
  case closed => exact .inr (.inl rfl)
  case activated => exact .inr (.inr (.inl rfl))
  all_goals exact .inr (.inr (.inr ⟨_, rfl⟩))

theorem inside?_id {scanner : Scanner} {a : Action} {f : Conversation → Conversation}
    (inside : a.inside? scanner = some f) (c : Conversation) : (f c).id = c.id := by
  cases a <;> cases inside <;> rfl

end Action

namespace Session
variable {s : Session} {id : ConversationId}

section Inside
variable {a : Action} {f : Conversation → Conversation}

theorem act_inside_closed (inside : a.inside? s.scanner = some f)
    (closed : s.store.get? id = none) : s.act id a = ⟨s, []⟩ := by
  have absent : s.store.contains id = false := Store.contains_closed closed
  cases a <;> cases inside
  case text raw =>
    simp only [act, text, Store.append_eq, closed, Option.map_none, ite_self]
  case cleared => simp [act, clear, Store.clear, Store.modify_closed closed, absent]
  case topic => simp [act, topic, Store.setTopic, Store.modify_closed closed, absent]
  case marked => simp [act, setMarker, Store.setMarker, Store.modify_closed closed]
  all_goals simp only [act, updateRoster, closed]

theorem act_inside {c : Conversation} (inside : a.inside? s.scanner = some f)
    (isOpen : s.store.get? id = some c) :
    s.act id a = ⟨{ s with store := s.store.modify id f },
      if s.viewport.shows id then a.told s.scanner (f c) else []⟩ := by
  have present : s.store.contains id = true := Store.contains_open isOpen
  cases a <;> cases inside
  case text raw =>
    simp only [act, text]
    split
    · rename_i nothing
      have none : s.scanner.read raw = [] := List.isEmpty_iff.mp nothing
      have same (d : Conversation) :
          { d with document := d.document.append (s.scanner.read raw) } = d := by
        rw [none, Document.append, List.append_nil]
      rw [Store.modify_same same]
      simp [Action.told, none]
    · rename_i something
      simp only [Store.append_eq, isOpen, Option.map_some, Action.told, something]
      rfl
  case cleared => simp only [act, clear, present, Bool.true_and]; rfl
  case topic => simp only [act, topic, present, Bool.true_and]; rfl
  case marked => simp only [act, setMarker, Action.told, ite_self]; rfl
  all_goals simp only [act, updateRoster, isOpen]; rfl

theorem act_inside_modify (inside : a.inside? s.scanner = some f) (id : ConversationId) :
    ∃ updates, s.act id a = ⟨{ s with store := s.store.modify id f }, updates⟩ := by
  cases found : s.store.get? id with
  | none => exact ⟨[], by rw [act_inside_closed inside found, Store.modify_closed found]⟩
  | some c => exact ⟨_, act_inside inside found⟩

theorem get?_inside (inside : a.inside? s.scanner = some f) (id k : ConversationId) :
    (s.act id a).session.store.get? k =
      if k = id then (s.store.get? k).map f else s.store.get? k := by
  obtain ⟨updates, same⟩ := act_inside_modify inside id
  rw [same]
  exact s.store.get?_modify id f k

theorem active_inside (inside : a.inside? s.scanner = some f) (id : ConversationId) :
    (s.act id a).session.active = s.active := by
  obtain ⟨updates, same⟩ := act_inside_modify inside id
  rw [same]
  rfl

theorem inputLine_inside (inside : a.inside? s.scanner = some f) (id : ConversationId) :
    (s.act id a).session.inputLine = s.inputLine := by
  obtain ⟨updates, same⟩ := act_inside_modify inside id
  rw [same]

end Inside

theorem shows_eq (s : Session) (id : ConversationId) :
    s.viewport.shows id = decide (s.active = some id) := by
  rw [Viewport.shows, active, Bool.eq_iff_iff, beq_iff_eq, decide_eq_true_iff]

section Opening
variable {server : String} {t : Tab}

theorem openUnder_open {c : Conversation} (isOpen : s.store.get? t.id = some c) :
    s.openUnder server t = ⟨s, []⟩ := by
  rw [openUnder, Store.add_open isOpen]

theorem openUnder_closed (closed : s.store.get? t.id = none) :
    s.openUnder server t = ⟨{ s with
      store := (s.store.add t.id t.kind t.name).2
      listing := s.listing.addTab server t }, []⟩ := by
  rw [openUnder, Store.add_closed closed]

theorem get?_openUnder (s : Session) (server : String) (t : Tab) (k : ConversationId) :
    (s.openUnder server t).session.store.get? k =
      if k = t.id then
        some ((s.store.get? k).getD { id := t.id, kind := t.kind, name := t.name })
      else s.store.get? k := by
  cases found : s.store.get? t.id with
  | some c =>
    rw [openUnder_open found]
    split
    · rename_i same
      rw [same, found]
      rfl
    · rfl
  | none =>
    rw [openUnder_closed found, Store.get?_add found]
    split
    · rename_i same
      rw [same, found]
      rfl
    · rfl

theorem openUnder_cases {k : ConversationId} {c : Conversation}
    (isOpen : (s.openUnder server t).session.store.get? k = some c) :
    s.store.get? k = some c ∨ k = t.id ∧ s.store.get? k = none ∧
      c = { id := t.id, kind := t.kind, name := t.name } := by
  rw [get?_openUnder] at isOpen
  split at isOpen
  · rename_i same
    cases found : s.store.get? k with
    | none =>
      rw [found] at isOpen
      exact .inr ⟨same, rfl, (Option.some.inj isOpen).symm⟩
    | some b =>
      rw [found] at isOpen
      exact .inl isOpen
  · exact .inl isOpen

theorem active_openUnder (s : Session) (server : String) (t : Tab) :
    (s.openUnder server t).session.active = s.active := by
  unfold openUnder
  split
  · rfl
  · rfl

theorem inputLine_openUnder (s : Session) (server : String) (t : Tab) :
    (s.openUnder server t).session.inputLine = s.inputLine := by
  unfold openUnder
  split
  · rfl
  · rfl

end Opening

section Closing

theorem close_closed (closed : s.store.get? id = none) : s.close id = ⟨s, []⟩ := by
  simp only [close, Store.remove, closed]

theorem close_open {c : Conversation} (isOpen : s.store.get? id = some c) :
    s.close id = ⟨{ s with
      store := (s.store.remove id).2
      listing := (s.listing.removeTab id).2
      viewport := s.viewport.forget id
      completion := if s.viewport.shows id then none else s.completion },
      if s.viewport.shows id then blank else []⟩ := by
  simp only [close, Store.remove, isOpen]

theorem get?_close (distinct : s.store.Distinct) (id k : ConversationId) :
    (s.close id).session.store.get? k = if k = id then none else s.store.get? k := by
  cases found : s.store.get? id with
  | none =>
    rw [close_closed found]
    split
    · rename_i same
      rw [same, found]
    · rfl
  | some c =>
    rw [close_open found]
    by_cases same : k = id
    · rw [if_pos same, same, Store.get?_remove distinct]
    · rw [if_neg same, Store.get?_remove_other same]

theorem active_close (s : Session) (id : ConversationId) :
    (s.close id).session.active =
      if s.active = some id ∧ s.store.contains id then none else s.active := by
  rw [Store.contains_eq]
  cases found : s.store.get? id with
  | none => simp [close_closed found]
  | some c =>
    rw [close_open found]
    simp only [Option.isSome_some, and_true]
    rfl

theorem inputLine_close (s : Session) (id : ConversationId) :
    (s.close id).session.inputLine = s.inputLine := by
  unfold close
  split
  · rfl
  · rfl

end Closing

section Activating

/-- Showing this conversation brings it on screen. -/
def binds (s : Session) (id : ConversationId) : Bool :=
  match (s.viewport.activate id s.store s.inputLine).outcome with
  | .bound _ => true
  | .unchanged | .unknown => false

theorem binds_eq (s : Session) (id : ConversationId) :
    s.binds id = (s.store.contains id && !s.viewport.shows id) := by
  rw [binds, Viewport.activate]
  cases s.store.contains id with
  | false => rfl
  | true =>
    cases s.viewport.shows id with
    | false => rfl
    | true => rfl

theorem binds_iff :
    s.binds id = true ↔ (∃ c, s.store.get? id = some c) ∧ s.active ≠ some id := by
  rw [binds_eq, Store.contains_eq, shows_eq]
  simp [Option.isSome_iff_exists]

/-- The conversation under `k` after `id` has been shown: the one that leaves the screen keeps the input
line. -/
def showing (s : Session) (id k : ConversationId) (c : Conversation) : Conversation :=
  if s.binds id then
    if k = id then { c with attached := true }
    else if s.active = some k then { c with draft := s.inputLine }
    else c
  else c

theorem showing_cases (s : Session) (id k : ConversationId) (c : Conversation) :
    s.showing id k c = c ∨ s.showing id k c = { c with attached := true } ∨
      s.showing id k c = { c with draft := s.inputLine } := by
  unfold showing
  split
  · split
    · exact .inr (.inl rfl)
    · split
      · exact .inr (.inr rfl)
      · exact .inl rfl
  · exact .inl rfl

theorem showing_id (s : Session) (id k : ConversationId) (c : Conversation) :
    (s.showing id k c).id = c.id := by
  rcases s.showing_cases id k c with same | same | same
  all_goals rw [same]

theorem activate_stays (stays : s.binds id = false) : ∃ current, s.activate id =
    ⟨{ s with viewport := { s.viewport with current } }, []⟩ := by
  rw [binds_eq] at stays
  cases present : s.store.contains id with
  | false =>
    refine ⟨s.viewport.current, ?_⟩
    simp [activate, Viewport.activate, present]
  | true =>
    have shown : s.viewport.shows id = true := by simpa [present] using stays
    refine ⟨some id, ?_⟩
    simp [activate, Viewport.activate, present, shown, Viewport.setCurrent]

theorem store_showing (binds : s.binds id = true) :
    (s.viewport.saveDraft s.store s.inputLine).attach id = s.store.map (s.showing id) := by
  have hidden : s.viewport.bound ≠ some id := (binds_iff.mp binds).2
  have same : s.viewport.exchange id s.inputLine = s.showing id := by
    funext k c
    rw [showing, if_pos binds]
    rfl
  rw [Viewport.store_exchange hidden, same]

theorem activate_binds {c : Conversation} (isOpen : s.store.get? id = some c)
    (binds : s.binds id = true) :
    s.activate id = ⟨{ s with
      viewport := ⟨some id, some id⟩
      store := s.store.map (s.showing id)
      completion := none
      inputLine := c.draft }, c.present⟩ := by
  have hidden := binds
  rw [binds_eq, Bool.and_eq_true, Bool.not_eq_true'] at hidden
  have target : (s.store.map (s.showing id)).get? id = some { c with attached := true } := by
    rw [Store.get?_map, isOpen, Option.map_some, showing, if_pos binds, if_pos rfl]
  simp only [activate, Viewport.activate, hidden.1, hidden.2, if_true, Bool.false_eq_true,
    if_false, store_showing binds, target, Option.map_some, Option.getD_some]
  rfl

theorem store_activate (s : Session) (id : ConversationId) :
    (s.activate id).session.store = s.store.map (s.showing id) := by
  cases binds : s.binds id with
  | false =>
    obtain ⟨current, same⟩ := activate_stays binds
    have untouched (k : ConversationId) (c : Conversation) : s.showing id k c = c := by
      rw [showing, binds, if_neg Bool.false_ne_true]
    rw [same, Store.map_same untouched]
  | true =>
    obtain ⟨c, isOpen⟩ := (binds_iff.mp binds).1
    rw [activate_binds isOpen binds]

theorem get?_activate (s : Session) (id k : ConversationId) :
    (s.activate id).session.store.get? k = (s.store.get? k).map (s.showing id k) := by
  rw [store_activate, Store.get?_map]

theorem active_activate (s : Session) (id : ConversationId) :
    (s.activate id).session.active = if s.binds id then some id else s.active := by
  cases binds : s.binds id with
  | false =>
    obtain ⟨current, same⟩ := activate_stays binds
    rw [same]
    rfl
  | true =>
    obtain ⟨c, isOpen⟩ := (binds_iff.mp binds).1
    rw [activate_binds isOpen binds]
    rfl

end Activating

theorem complete_cases (s : Session) (id : ConversationId) (line : String) (cursor : Nat) :
    s.complete id line cursor = (none, ⟨s, []⟩) ∨
      ∃ done completion, s.active = some id ∧ s.complete id line cursor =
        (some done, ⟨{ s with completion, inputLine := done.line }, [.input done.line]⟩) := by
  rw [complete]
  split
  · exact .inl rfl
  · rename_i c found
    have shown : s.active = some id := by
      have shows := (Option.filter_eq_some_iff.mp found).2
      simpa [shows_eq] using shows
    split
    · exact .inl rfl
    · rename_i done completion _
      exact .inr ⟨done, completion, shown, rfl⟩

end Session

end ChatDisplay
