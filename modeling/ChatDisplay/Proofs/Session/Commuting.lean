import ChatDisplay.Proofs.Session.Integrity
import ChatDisplay.Proofs.Session.Separation

/-! An event that shows nothing reads of a session only its own conversation and whether that is on screen,
and no other such event changes either; so what two of them do can be told from the session before both. -/
namespace ChatDisplay

namespace Action

/-- The action asks for its conversation to be shown. -/
def shows : Action → Bool
  | .activated => true
  | .opened _ _ _ focus => focus
  | _ => false

def opens : Action → Bool
  | .opened .. => true
  | _ => false

def closes : Action → Bool
  | .closed => true
  | _ => false

/-- What the display is told when an action meets its conversation on screen. -/
def tells (scanner : Scanner) (a : Action) (c : Option Conversation) : List Update :=
  if a.closes then if c.isSome then Session.blank else []
  else
    match a.inside? scanner, c with
    | some f, some c => a.told scanner (f c)
    | _, _ => []

theorem quiet_sorts (scanner : Scanner) {a : Action} (quiet : a.shows = false) :
    (∃ kind name server, a = .opened kind name server false) ∨ a = .closed ∨
      ∃ f, a.inside? scanner = some f := by
  rcases a.sorts scanner with ⟨kind, name, server, focus, rfl⟩ | rfl | rfl | inside
  · cases quiet
    exact .inl ⟨kind, name, server, rfl⟩
  · exact .inr (.inl rfl)
  · cases quiet
  · exact .inr (.inr inside)

theorem closes_inside {scanner : Scanner} {a : Action} {f : Conversation → Conversation}
    (inside : a.inside? scanner = some f) : a.closes = false := by
  cases a <;> cases inside <;> rfl

theorem shows_inside {scanner : Scanner} {a : Action} {f : Conversation → Conversation}
    (inside : a.inside? scanner = some f) : a.shows = false := by
  cases a <;> cases inside <;> rfl

theorem relist_cases (a : Action) (id : ConversationId) (isOpen : Bool) :
    (∀ l, a.relist id isOpen l = l) ∨
      (∃ server t, a.opens = true ∧ t.id = id ∧ ∀ l, a.relist id isOpen l = l.addTab server t) ∨
      ∀ l, a.relist id isOpen l = (l.removeTab id).2 := by
  cases isOpen with
  | true =>
    cases a
    case closed => exact .inr (.inr fun _ => rfl)
    all_goals exact .inl fun _ => rfl
  | false =>
    cases a
    case opened kind name server focus =>
      exact .inr (.inl ⟨server, ⟨id, kind, name⟩, rfl, rfl, fun _ => rfl⟩)
    all_goals exact .inl fun _ => rfl

/-- Two actions on different conversations change the listing alike in either order. Only two openings
may put their tabs in another order. -/
theorem relist_swap {a b : Action} {l : Listing} {id other : ConversationId} (orderly : l.Orderly)
    (apart : id ≠ other) (isOpen isOpen' : Bool) :
    let one := b.relist other isOpen' (a.relist id isOpen l)
    let two := a.relist id isOpen (b.relist other isOpen' l)
    one = two ∨ (a.opens = true ∧ b.opens = true) ∧ one.Alike two := by
  intro one two
  simp only [one, two]
  rcases a.relist_cases id isOpen with same | ⟨server, t, opens, rfl, adds⟩ | removes
  · rw [same, same]
    exact .inl rfl
  · rcases b.relist_cases other isOpen' with same | ⟨server', u, opens', rfl, adds'⟩ | removes
    · rw [same, same]
      exact .inl rfl
    · rw [adds, adds, adds', adds']
      exact .inr ⟨⟨opens, opens'⟩, Listing.addTab_alike orderly apart server server'⟩
    · rw [adds, adds, removes, removes]
      exact .inl (Listing.addTab_removeTab orderly apart server)
  · rcases b.relist_cases other isOpen' with same | ⟨server, t, -, rfl, adds⟩ | removes'
    · rw [same, same]
      exact .inl rfl
    · rw [adds, adds, removes, removes]
      exact .inl (Listing.addTab_removeTab orderly apart.symm server).symm
    · rw [removes, removes, removes', removes']
      exact .inl (Listing.removeTab_comm orderly id other)

end Action

namespace Session
variable {s : Session} {id other k : ConversationId} {a b : Action}

section Quiet

theorem get?_quiet (distinct : s.store.Distinct) (quiet : a.shows = false) (id k : ConversationId) :
    (s.act id a).session.store.get? k =
      if k = id then a.after s.scanner id (s.store.get? k) else s.store.get? k := by
  rcases Action.quiet_sorts s.scanner quiet with ⟨kind, name, server, rfl⟩ | rfl | ⟨f, inside⟩
  · exact s.get?_openUnder server ⟨id, kind, name⟩ k
  · exact get?_close distinct id k
  · rw [get?_inside inside, Action.after_inside inside]

/-- A quiet action either closes an open conversation or leaves all but the store and the listing as
it was. -/
theorem act_quiet (quiet : a.shows = false) (id : ConversationId) :
    (∃ c, a = .closed ∧ s.store.get? id = some c) ∨
      (a.closes && s.store.contains id) = false ∧
        ∃ store listing updates, s.act id a = ⟨{ s with store, listing }, updates⟩ := by
  rcases Action.quiet_sorts s.scanner quiet with ⟨kind, name, server, rfl⟩ | rfl | ⟨f, inside⟩
  · refine .inr ⟨rfl, ?_⟩
    cases found : s.store.get? id with
    | none => exact ⟨_, _, _, openUnder_closed found⟩
    | some c => exact ⟨_, _, _, openUnder_open found⟩
  · cases found : s.store.get? id with
    | none => exact .inr ⟨by simp [Store.contains_eq, found], _, _, _, close_closed found⟩
    | some c => exact .inl ⟨c, rfl, rfl⟩
  · obtain ⟨updates, same⟩ := act_inside_modify inside id
    exact .inr ⟨by rw [Action.closes_inside inside, Bool.false_and], _, _, updates, same⟩

theorem viewport_quiet (quiet : a.shows = false) (id : ConversationId) :
    (s.act id a).session.viewport =
      if a.closes && s.store.contains id then s.viewport.forget id else s.viewport := by
  rcases s.act_quiet quiet id with ⟨c, rfl, isOpen⟩ | ⟨stays, store, listing, updates, same⟩
  · simp [act, close_open isOpen, Action.closes, Store.contains_eq, isOpen]
  · rw [same, stays]
    rfl

theorem completion_quiet (quiet : a.shows = false) (id : ConversationId) :
    (s.act id a).session.completion =
      if a.closes && s.store.contains id && s.viewport.shows id then none else s.completion := by
  rcases s.act_quiet quiet id with ⟨c, rfl, isOpen⟩ | ⟨stays, store, listing, updates, same⟩
  · simp [act, close_open isOpen, Action.closes, Store.contains_eq, isOpen]
  · rw [same, stays]
    rfl

/-- What no event but one that shows a conversation can change. -/
theorem fixed_quiet (quiet : a.shows = false) (id : ConversationId) :
    (s.act id a).session.inputLine = s.inputLine ∧ (s.act id a).session.settings = s.settings := by
  rcases s.act_quiet quiet id with ⟨c, rfl, isOpen⟩ | ⟨-, store, listing, updates, same⟩
  · rw [act, close_open isOpen]
    exact ⟨rfl, rfl⟩
  · rw [same]
    exact ⟨rfl, rfl⟩

theorem updates_quiet (quiet : a.shows = false) (id : ConversationId) :
    (s.act id a).updates =
      if s.viewport.shows id then a.tells s.scanner (s.store.get? id) else [] := by
  rcases Action.quiet_sorts s.scanner quiet with ⟨kind, name, server, rfl⟩ | rfl | ⟨f, inside⟩
  · have nothing : (s.openUnder server ⟨id, kind, name⟩).updates = [] := by
      unfold openUnder
      split
      · rfl
      · rfl
    simp [act, nothing, Action.tells, Action.closes, Action.inside?]
  · cases found : s.store.get? id with
    | none => simp [act, close_closed found, Action.tells]
    | some c => simp [act, close_open found, Action.tells, Action.closes]
  · cases found : s.store.get? id with
    | none => simp [act_inside_closed inside found, Action.tells, Action.closes_inside inside]
    | some c => simp [act_inside inside found, Action.tells, Action.closes_inside inside, inside]

end Quiet

section Apart
variable (apart : id ≠ other)
include apart

theorem shows_apart (quiet : a.shows = false) :
    (s.act id a).session.viewport.shows other = s.viewport.shows other := by
  rw [viewport_quiet quiet]
  split
  · simp only [Viewport.shows, Viewport.forget]
    split
    · rename_i shown
      simp [shown, apart]
    · rfl
  · rfl

theorem get?_apart (distinct : s.store.Distinct) (quiet : a.shows = false) :
    (s.act id a).session.store.get? other = s.store.get? other := by
  rw [get?_quiet distinct quiet, if_neg (Ne.symm apart)]

theorem contains_apart (distinct : s.store.Distinct) (quiet : a.shows = false) :
    (s.act id a).session.store.contains other = s.store.contains other := by
  rw [Store.contains_eq, Store.contains_eq, get?_apart apart distinct quiet]

variable (sound : s.Sound) (quiet : a.shows = false) (quiet' : b.shows = false)
include sound quiet quiet'

theorem store_commutes (k : ConversationId) :
    ((s.act id a).session.act other b).session.store.get? k =
      ((s.act other b).session.act id a).session.store.get? k := by
  rw [get?_quiet (sound.act id a).distinct quiet', get?_quiet (sound.act other b).distinct quiet,
    get?_quiet sound.distinct quiet, get?_quiet sound.distinct quiet', scanner_act, scanner_act]
  by_cases here : k = id
  · have elsewhere : k ≠ other := fun there => apart (here.symm.trans there)
    simp only [if_pos here, if_neg elsewhere]
  · simp only [if_neg here]

theorem viewport_commutes :
    ((s.act id a).session.act other b).session.viewport =
      ((s.act other b).session.act id a).session.viewport := by
  have forget_comm : (s.viewport.forget id).forget other = (s.viewport.forget other).forget id := by
    simp only [Viewport.forget]
    grind
  rw [viewport_quiet quiet', viewport_quiet quiet, viewport_quiet quiet, viewport_quiet quiet',
    contains_apart apart sound.distinct quiet, contains_apart apart.symm sound.distinct quiet']
  split
  · split
    · exact forget_comm
    · rfl
  · rfl

theorem completion_commutes :
    ((s.act id a).session.act other b).session.completion =
      ((s.act other b).session.act id a).session.completion := by
  rw [completion_quiet quiet', completion_quiet quiet, completion_quiet quiet,
    completion_quiet quiet', contains_apart apart sound.distinct quiet,
    contains_apart apart.symm sound.distinct quiet', shows_apart apart quiet,
    shows_apart apart.symm quiet']
  split
  · split
    · rfl
    · rfl
  · rfl

theorem updates_commute :
    (s.act id a).updates ++ ((s.act id a).session.act other b).updates =
      (s.act other b).updates ++ ((s.act other b).session.act id a).updates := by
  rw [updates_quiet quiet, updates_quiet quiet', updates_quiet quiet', updates_quiet quiet,
    shows_apart apart quiet, shows_apart apart.symm quiet', get?_apart apart sound.distinct quiet,
    get?_apart apart.symm sound.distinct quiet', scanner_act, scanner_act]
  by_cases shown : s.viewport.shows id = true
  · have hidden : s.viewport.shows other = false := by
      rw [shows_eq, decide_eq_true_iff] at shown
      rw [shows_eq, shown]
      simpa using apart
    simp [shown, hidden]
  · simp [shown]

theorem listing_swap (intact : s.Intact) :
    let one := ((s.act id a).session.act other b).session.listing
    let two := ((s.act other b).session.act id a).session.listing
    one = two ∨ (a.opens = true ∧ b.opens = true) ∧ one.Alike two := by
  rw [listing_act, listing_act, listing_act, listing_act, contains_apart apart sound.distinct quiet,
    contains_apart apart.symm sound.distinct quiet']
  exact Action.relist_swap intact.listing apart _ _

end Apart

/-- Two events for different conversations that show nothing can be handled in either order, and all is the
same but for the listing: when both are openings, it has the same servers with the same tabs under each in
another order. -/
theorem events_commute (settings : Settings) (scanner : Scanner) (inputs : List Input) (e f : Event)
    (apart : e.id ≠ f.id) (quiet : e.action.shows = false) (quiet' : f.action.shows = false) :
    let s := ((idle settings scanner).run inputs).session
    let one := s.handleAll [e, f]
    let two := s.handleAll [f, e]
    one.updates = two.updates ∧
    (∀ id, one.session.store.get? id = two.session.store.get? id) ∧
    one.session.viewport = two.session.viewport ∧
    one.session.inputLine = two.session.inputLine ∧
    one.session.completion = two.session.completion ∧
    one.session.settings = two.session.settings ∧
    one.session.scanner = two.session.scanner ∧
    one.session.listing.Alike two.session.listing ∧
    (¬ (e.action.opens = true ∧ f.action.opens = true) →
      one.session.listing = two.session.listing) := by
  intro s one two
  have sound : s.Sound := (idle_sound settings scanner).run inputs
  have intact : s.Intact := (idle_intact settings scanner).run (idle_sound settings scanner) inputs
  have first := s.fixed_quiet quiet e.id
  have second := s.fixed_quiet quiet' f.id
  have both := (s.act e.id e.action).session.fixed_quiet quiet' f.id
  have swapped := (s.act f.id f.action).session.fixed_quiet quiet e.id
  have listing := listing_swap apart sound quiet quiet' intact
  refine ⟨?_, store_commutes apart sound quiet quiet', viewport_commutes apart sound quiet quiet',
    ?_, completion_commutes apart sound quiet quiet', ?_, ?_, ?_, ?_⟩
  · have same := updates_commute apart sound quiet quiet'
    simpa [one, two, handleAll, handle] using same
  · exact (both.1.trans first.1).trans (swapped.1.trans second.1).symm
  · exact (both.2.trans first.2).trans (swapped.2.trans second.2).symm
  · have one_scanner := (scanner_act (s.act e.id e.action).session f.id f.action).trans
      (scanner_act s e.id e.action)
    have two_scanner := (scanner_act (s.act f.id f.action).session e.id e.action).trans
      (scanner_act s f.id f.action)
    exact one_scanner.trans two_scanner.symm
  · rcases listing with same | ⟨-, alike⟩
    · exact same ▸ Listing.Alike.refl _
    · exact alike
  · intro single
    exact listing.resolve_right fun both => single both.1

theorem closing_commutes_with_joining :
    let e : Event := ⟨⟨1⟩, .closed⟩
    let f : Event := ⟨⟨2⟩, .joined "ann" (some '@')⟩
    let s := ((idle {} {}).run [.event ⟨⟨1⟩, .opened .channel "#garden" "net" true⟩,
      .event ⟨⟨2⟩, .opened .channel "#kitchen" "net" false⟩, .event ⟨⟨1⟩, .joined "bo" none⟩,
      .complete ⟨1⟩ "b" 1, .setCurrent ⟨2⟩]).session
    (e.id ≠ f.id ∧ e.action.shows = false ∧ f.action.shows = false) ∧
      (s.handleAll [e, f]).updates = (s.handleAll [f, e]).updates ∧
      (s.handleAll [e, f]).session.listing = (s.handleAll [f, e]).session.listing := by
  intro e f s
  have apart : e.id ≠ f.id := by decide
  obtain ⟨updates, -, -, -, -, -, -, -, listing⟩ := events_commute {} {} [
    .event ⟨⟨1⟩, .opened .channel "#garden" "net" true⟩,
    .event ⟨⟨2⟩, .opened .channel "#kitchen" "net" false⟩, .event ⟨⟨1⟩, .joined "bo" none⟩,
    .complete ⟨1⟩ "b" 1, .setCurrent ⟨2⟩] e f apart rfl rfl
  exact ⟨⟨apart, rfl, rfl⟩, updates, listing (by decide)⟩

end Session

end ChatDisplay
