import ChatDisplay.Proofs.Listing.Tabs
import ChatDisplay.Proofs.Session.Runs
import Mathlib.Data.List.Induction

/-! The store, the listing and the viewport are changed by separate calls, but stay in step. The listing is
described by the history alone: a tab is there from the opening that took effect until the closing. -/
namespace ChatDisplay

section Tabs

def Conversation.tab (id : ConversationId) (c : Conversation) : Tab := ⟨id, c.kind, c.name⟩

/-- The tabs of the open conversations. -/
def Store.tabs (s : Store) : List Tab := s.table.entries.map fun e => e.2.tab e.1

namespace Store
variable {s : Store} {id : ConversationId}

theorem tabs_ids (s : Store) : s.tabs.map Tab.id = s.ids := by
  rw [tabs, List.map_map]
  rfl

theorem tabs_map {f : ConversationId → Conversation → Conversation}
    (keeps : ∀ k c, (f k c).tab k = c.tab k) : (s.map f).tabs = s.tabs := by
  rw [tabs, map, Table.map, List.map_map]
  exact List.map_congr_left fun e _ => keeps e.1 e.2

theorem tabs_remove (distinct : s.Distinct) (id : ConversationId) :
    (s.remove id).2.tabs = s.tabs.filter fun t => t.id != id := by
  have left : (s.remove id).2.table.entries = _ := Table.entries_erase distinct id
  rw [tabs, left, tabs, List.filter_map]
  rfl

end Store

theorem Action.inside?_tab {scanner : Scanner} {a : Action} {f : Conversation → Conversation}
    (inside : a.inside? scanner = some f) (id : ConversationId) (c : Conversation) :
    (f c).tab id = c.tab id := by
  cases a <;> cases inside <;> rfl

theorem Action.inside?_attached {scanner : Scanner} {a : Action} {f : Conversation → Conversation}
    (inside : a.inside? scanner = some f) (c : Conversation) : (f c).attached = c.attached := by
  cases a <;> cases inside <;> rfl

theorem Session.showing_tab (s : Session) (id k : ConversationId) (c : Conversation) :
    (s.showing id k c).tab k = c.tab k := by
  rcases s.showing_cases id k c with same | same | same
  all_goals simp only [same, Conversation.tab]

end Tabs

/-- The listing after an action on a conversation that is or is not open. -/
def Action.relist (id : ConversationId) (isOpen : Bool) (l : Listing) : Action → Listing
  | .opened kind name server _ => if isOpen then l else l.addTab server ⟨id, kind, name⟩
  | .closed => if isOpen then (l.removeTab id).2 else l
  | _ => l

namespace Session
variable {s : Session} {id : ConversationId} {server : String} {t : Tab}

section Listing

theorem listing_activate (s : Session) (id : ConversationId) :
    (s.activate id).session.listing = s.listing := by
  rw [activate]
  split
  · rfl
  · rfl
  · rfl

theorem listing_openUnder (s : Session) (server : String) (t : Tab) :
    (s.openUnder server t).session.listing =
      if s.store.contains t.id then s.listing else s.listing.addTab server t := by
  rw [Store.contains_eq]
  cases found : s.store.get? t.id with
  | none =>
    rw [openUnder_closed found]
    rfl
  | some c =>
    rw [openUnder_open found]
    rfl

theorem listing_act (s : Session) (id : ConversationId) (a : Action) :
    (s.act id a).session.listing = a.relist id (s.store.contains id) s.listing := by
  rcases a.sorts s.scanner with ⟨kind, name, server, focus, rfl⟩ | rfl | rfl | ⟨f, inside⟩
  · have opened := s.listing_openUnder server ⟨id, kind, name⟩
    cases focus
    · exact opened
    · exact (listing_activate _ id).trans opened
  · simp only [act, Action.relist, Store.contains_eq]
    cases found : s.store.get? id with
    | none =>
      rw [close_closed found]
      rfl
    | some c =>
      rw [close_open found]
      rfl
  · exact listing_activate s id
  · have kept : a.relist id (s.store.contains id) s.listing = s.listing := by
      cases a <;> cases inside <;> rfl
    obtain ⟨updates, same⟩ := act_inside_modify inside id
    rw [same, kept]

end Listing

section Intact

/-- Conversations are under their own ids, the listing has the tabs of those that are open, and what is
on screen has been marked. -/
structure Intact (s : Session) : Prop where
  own : s.store.Own
  listing : s.listing.Orderly
  tabs : s.listing.tabs.Perm s.store.tabs
  attached : ∀ id c, s.active = some id → s.store.get? id = some c → c.attached = true

theorem idle_intact (settings : Settings) (scanner : Scanner) : (idle settings scanner).Intact :=
  ⟨nofun, ⟨List.nodup_nil, List.nodup_nil⟩, List.Perm.refl [], nofun⟩

theorem Intact.ids (intact : s.Intact) : s.listing.ids.Perm s.store.ids := by
  have listed := intact.tabs.map Tab.id
  rwa [Store.tabs_ids] at listed

theorem Intact.unlisted (intact : s.Intact) (closed : s.store.get? id = none) :
    id ∉ s.listing.ids := by
  intro listed
  exact Store.get?_eq_none.mp closed (intact.ids.mem_iff.mp listed)

theorem Intact.openUnder (intact : s.Intact) (sound : s.Sound) (server : String) (t : Tab) :
    (s.openUnder server t).session.Intact := by
  cases found : s.store.get? t.id with
  | some c =>
    rw [openUnder_open found]
    exact intact
  | none =>
    have absent := intact.unlisted found
    constructor
    · rw [openUnder_closed found]
      exact intact.own.add
    · rw [openUnder_closed found]
      exact intact.listing.addTab server t
    · have added := Listing.tabs_addTab intact.listing server t
      -- adding takes the tab out of its old place first, and there is none
      rw [Keyed.filter_others (Keyed.not_mem_keys.mp absent)] at added
      have kept := (intact.tabs.cons t).trans (List.perm_append_singleton t s.store.tabs).symm
      simp only [openUnder_closed found, Store.add_closed found, Store.tabs, Table.push, List.map_append]
      exact added.trans kept
    · intro k c shown isOpen
      rw [active_openUnder] at shown
      rcases openUnder_cases isOpen with old | ⟨-, closed, -⟩
      · exact intact.attached k c shown old
      · obtain ⟨b, there⟩ := sound.shown k shown
        rw [closed] at there
        contradiction

theorem Intact.close (intact : s.Intact) (sound : s.Sound) (id : ConversationId) :
    (s.close id).session.Intact := by
  cases found : s.store.get? id with
  | none =>
    rw [close_closed found]
    exact intact
  | some c =>
    constructor
    · rw [close_open found]
      exact intact.own.remove
    · rw [close_open found, Listing.removeTab_eq intact.listing.once]
      exact intact.listing.without id
    · rw [close_open found, Listing.removeTab_eq intact.listing.once]
      simp only [Listing.tabs_without, Store.tabs_remove sound.distinct]
      exact intact.tabs.filter _
    · intro k b shown isOpen
      rw [get?_close sound.distinct] at isOpen
      rw [active_close] at shown
      split at shown
      · contradiction
      · split at isOpen
        · contradiction
        · exact intact.attached k b shown isOpen

theorem Intact.activate (intact : s.Intact) (id : ConversationId) :
    (s.activate id).session.Intact := by
  constructor
  · rw [store_activate]
    exact intact.own.map (s.showing_id id)
  · rw [listing_activate]
    exact intact.listing
  · rw [listing_activate, store_activate, Store.tabs_map (s.showing_tab id)]
    exact intact.tabs
  · intro k c shown isOpen
    rw [active_activate] at shown
    rw [get?_activate] at isOpen
    obtain ⟨b, found, rfl⟩ := Option.map_eq_some_iff.mp isOpen
    cases binds : s.binds id with
    | true =>
      rw [binds, if_pos rfl] at shown
      cases shown
      rw [showing, if_pos binds, if_pos rfl]
    | false =>
      rw [binds, if_neg Bool.false_ne_true] at shown
      rw [showing, binds, if_neg Bool.false_ne_true]
      exact intact.attached k b shown found

theorem Intact.inside (intact : s.Intact) {a : Action} {f : Conversation → Conversation}
    (inside : a.inside? s.scanner = some f) (id : ConversationId) :
    (s.act id a).session.Intact := by
  have keeps (k : ConversationId) (c : Conversation) :
      (if k = id then f c else c).tab k = c.tab k := by
    split
    · exact Action.inside?_tab inside k c
    · rfl
  obtain ⟨updates, same⟩ := act_inside_modify inside id
  constructor
  · rw [same]
    exact intact.own.modify (Action.inside?_id inside)
  · rw [same]
    exact intact.listing
  · have tabs : (s.store.modify id f).tabs = s.store.tabs := Store.tabs_map keeps
    rw [same]
    simp only [tabs]
    exact intact.tabs
  · intro k c shown isOpen
    rw [active_inside inside] at shown
    rw [get?_inside inside] at isOpen
    split at isOpen
    · obtain ⟨d, there, rfl⟩ := Option.map_eq_some_iff.mp isOpen
      rw [Action.inside?_attached inside]
      exact intact.attached k d shown there
    · exact intact.attached k c shown isOpen

theorem Intact.act (intact : s.Intact) (sound : s.Sound) (id : ConversationId) (a : Action) :
    (s.act id a).session.Intact := by
  rcases a.sorts s.scanner with ⟨kind, name, server, focus, rfl⟩ | rfl | rfl | ⟨f, inside⟩
  · have opened := intact.openUnder sound server ⟨id, kind, name⟩
    cases focus
    · exact opened
    · exact opened.activate id
  · exact intact.close sound id
  · exact intact.activate id
  · exact intact.inside inside id

theorem Intact.step (intact : s.Intact) (sound : s.Sound) (i : Input) :
    (s.step i).session.Intact := by
  cases i with
  | event e => exact intact.act sound e.id e.action
  | setCurrent id => exact ⟨intact.own, intact.listing, intact.tabs, intact.attached⟩
  | edited text => exact ⟨intact.own, intact.listing, intact.tabs, intact.attached⟩
  | complete id line cursor =>
    rcases s.complete_cases id line cursor with unanswered | ⟨done, completion, _, answered⟩
    · rwa [Session.step, unanswered]
    · rw [Session.step, answered]
      exact ⟨intact.own, intact.listing, intact.tabs, intact.attached⟩

theorem Intact.run (intact : s.Intact) (sound : s.Sound) (inputs : List Input) :
    (s.run inputs).session.Intact := by
  have both := run_keeps (P := fun s => s.Intact ∧ s.Sound)
    (fun _ i kept => ⟨kept.1.step kept.2 i, kept.2.step i⟩) ⟨intact, sound⟩ inputs
  exact both.1

end Intact

section Openings

/-- In a run, the conversation of a tab was opened under a server when it was not open, and it has not
been closed since. -/
def Opened (s : Session) (inputs : List Input) (server : String) (t : Tab) : Prop :=
  ∃ before focus rest,
    inputs = before ++ .event ⟨t.id, .opened t.kind t.name server focus⟩ :: rest ∧
      (s.run before).session.store.get? t.id = none ∧ .event ⟨t.id, .closed⟩ ∉ rest

/-- The input opens the conversation of a tab, which is not open, under a server. -/
def Opens (s : Session) (i : Input) (server : String) (t : Tab) : Prop :=
  s.store.get? t.id = none ∧ ∃ focus, i = .event ⟨t.id, .opened t.kind t.name server focus⟩

theorem opened_concat (s : Session) (inputs : List Input) (i : Input) (server : String) (t : Tab) :
    s.Opened (inputs ++ [i]) server t ↔
      s.Opened inputs server t ∧ i ≠ .event ⟨t.id, .closed⟩ ∨
        (s.run inputs).session.Opens i server t := by
  constructor
  · rintro ⟨before, focus, rest, split, absent, stays⟩
    rcases List.eq_nil_or_concat rest with rfl | ⟨earlier, last, rfl⟩
    · obtain ⟨rfl, last⟩ := List.append_inj' split rfl
      exact .inr ⟨absent, focus, List.head_eq_of_cons_eq last⟩
    · rw [List.concat_eq_append, ← List.cons_append, ← List.append_assoc] at split
      obtain ⟨rfl, same⟩ := List.append_inj' split rfl
      cases List.head_eq_of_cons_eq same
      simp only [List.concat_eq_append, List.mem_append, List.mem_singleton, not_or] at stays
      exact .inl ⟨⟨before, focus, earlier, rfl, absent, stays.1⟩, Ne.symm stays.2⟩
  · rintro (⟨⟨before, focus, rest, rfl, absent, stays⟩, other⟩ | ⟨absent, focus, rfl⟩)
    · refine ⟨before, focus, rest ++ [i], by simp, absent, ?_⟩
      simp only [List.mem_append, List.mem_singleton, not_or]
      exact ⟨stays, Ne.symm other⟩
    · exact ⟨inputs, focus, [], rfl, absent, List.not_mem_nil⟩

theorem Intact.mem_open (intact : s.Intact) (listed : t ∈ s.listing.under server) :
    ∃ c, s.store.get? t.id = some c := by
  cases found : s.store.get? t.id with
  | some c => exact ⟨c, rfl⟩
  | none =>
    have there := Listing.mem_tabs.mpr ⟨server, listed⟩
    exact absurd (List.mem_map_of_mem there) (intact.unlisted found)

theorem Intact.apart (intact : s.Intact) (listed : t ∈ s.listing.under server)
    (closed : s.store.get? id = none) : t.id ≠ id := by
  rintro rfl
  obtain ⟨c, there⟩ := intact.mem_open listed
  rw [closed] at there
  contradiction

theorem Intact.under_opened (intact : s.Intact) (kind : ConversationKind) (name other : String)
    (focus : Bool) :
    t ∈ (s.act id (.opened kind name other focus)).session.listing.under server ↔
      t ∈ s.listing.under server ∨
        s.store.get? id = none ∧ server = other ∧ t = ⟨id, kind, name⟩ := by
  rw [listing_act, Store.contains_eq]
  cases found : s.store.get? id with
  | some c => simp [Action.relist]
  | none =>
    simp only [Action.relist, Option.isSome_none, Bool.false_eq_true, if_false, true_and,
      Listing.under_addTab intact.listing, List.mem_append, List.mem_filter, bne_iff_ne, ne_eq]
    have kept : t ∈ s.listing.under server ∧ ¬ t.id = id ↔ t ∈ s.listing.under server :=
      and_iff_left_of_imp fun listed => intact.apart listed found
    rw [kept]
    split
    · rename_i here
      simp [here]
    · rename_i elsewhere
      simp [elsewhere]

theorem Intact.under_closed (intact : s.Intact) :
    t ∈ (s.act id .closed).session.listing.under server ↔
      t ∈ s.listing.under server ∧ t.id ≠ id := by
  rw [listing_act, Store.contains_eq]
  cases found : s.store.get? id with
  | some c =>
    simp only [Action.relist, Option.isSome_some, if_true, Listing.removeTab_eq intact.listing.once,
      Listing.under_without, List.mem_filter, bne_iff_ne]
  | none =>
    simp only [Action.relist, Option.isSome_none, Bool.false_eq_true, if_false]
    exact (and_iff_left_of_imp fun listed => intact.apart listed found).symm

/-- A tab is under a server after an input if it was there and has not been closed, or has just been
opened. -/
theorem Intact.under_step (intact : s.Intact) (i : Input) (server : String) (t : Tab) :
    t ∈ (s.step i).session.listing.under server ↔
      t ∈ s.listing.under server ∧ i ≠ .event ⟨t.id, .closed⟩ ∨ s.Opens i server t := by
  cases i with
  | event e =>
    obtain ⟨id, a⟩ := e
    simp only [Session.step, handle]
    cases a
    case opened kind name other focus =>
      rw [intact.under_opened]
      constructor
      · rintro (listed | ⟨closed, rfl, rfl⟩)
        · refine .inl ⟨listed, ?_⟩
          intro same
          cases same
        · exact .inr ⟨closed, focus, rfl⟩
      · rintro (⟨listed, -⟩ | ⟨closed, again, same⟩)
        · exact .inl listed
        · cases same
          exact .inr ⟨closed, rfl, rfl⟩
    case closed =>
      rw [intact.under_closed]
      constructor
      · rintro ⟨listed, other⟩
        refine .inl ⟨listed, ?_⟩
        rintro ⟨⟩
        exact other rfl
      · rintro (⟨listed, other⟩ | ⟨-, again, same⟩)
        · exact ⟨listed, fun same => other (by rw [same])⟩
        · cases same
    all_goals simp [listing_act, Action.relist, Opens]
  | setCurrent id => simp [Session.step, setCurrent, Opens]
  | edited text => simp [Session.step, edit, Opens]
  | complete id line cursor =>
    have same : (s.step (.complete id line cursor)).session.listing = s.listing := by
      rcases s.complete_cases id line cursor with unanswered | ⟨done, completion, _, answered⟩
      · rw [Session.step, unanswered]
      · rw [Session.step, answered]
    rw [same]
    simp [Opens]

theorem under_run (settings : Settings) (scanner : Scanner) (inputs : List Input) (server : String)
    (t : Tab) : t ∈ ((idle settings scanner).run inputs).session.listing.under server ↔
      (idle settings scanner).Opened inputs server t := by
  induction inputs using List.reverseRecOn with
  | nil =>
    constructor
    · nofun
    · rintro ⟨before, focus, rest, split, -⟩
      simp at split
  | append_singleton inputs i ih =>
    have intact := (idle_intact settings scanner).run (idle_sound settings scanner) inputs
    rw [run_concat, intact.under_step, opened_concat, ih]

end Openings

/-- After every run, what is on screen is open and marked as shown; an open conversation is listed once and a
closed one not at all; a tab is under the server that the opening named which took effect, as what it was
opened. No two servers have the same name, a conversation is stored under its own id, and closing one
leaves no reference to it. -/
theorem session_intact (settings : Settings) (scanner : Scanner) (inputs : List Input) :
    let first := idle settings scanner
    let s := (first.run inputs).session
    (∀ id, s.active = some id → ∃ c, s.store.get? id = some c ∧ c.attached = true) ∧
    (∀ id, s.listing.ids.count id = if s.store.contains id then 1 else 0) ∧
    (∀ server t, t ∈ s.listing.under server ↔ first.Opened inputs server t) ∧
    (∀ id c, s.store.get? id = some c →
      ∃ server, (⟨id, c.kind, c.name⟩ : Tab) ∈ s.listing.under server) ∧
    s.listing.names.Nodup ∧
    s.store.ids.Nodup ∧
    (∀ e ∈ s.store.table.entries, e.2.id = e.1) ∧
    (∀ id c, s.store.get? id = some c ↔ c ∈ s.store.conversations ∧ c.id = id) ∧
    (∀ id c, s.store.get? id = some c →
      let after := (s.close id).session
      id ∉ after.store.ids ∧ id ∉ after.listing.ids ∧ after.active ≠ some id ∧
        after.current ≠ some id) := by
  intro first s
  have sound : s.Sound := (idle_sound settings scanner).run inputs
  have intact : s.Intact := (idle_intact settings scanner).run (idle_sound settings scanner) inputs
  refine ⟨?_, ?_, under_run settings scanner inputs, ?_, intact.listing.names, sound.distinct,
    intact.own, ?_, ?_⟩
  · intro id shown
    obtain ⟨c, isOpen⟩ := sound.shown id shown
    exact ⟨c, isOpen, intact.attached id c shown isOpen⟩
  · intro id
    have isOpen : s.store.contains id = true ↔ id ∈ s.store.ids := by
      rw [Store.contains_eq, ← not_iff_not, ← Store.get?_eq_none]
      simp
    simp only [intact.ids.count_eq, sound.distinct.count, isOpen]
  · intro id c isOpen
    have member := (Store.get?_eq_some sound.distinct).mp isOpen
    have tab : c.tab id ∈ s.listing.tabs := intact.tabs.mem_iff.mpr (List.mem_map_of_mem member)
    exact Listing.mem_tabs.mp tab
  · intro id c
    exact intact.own.get?_eq_some sound.distinct
  · intro id c isOpen
    have gone : (s.close id).session.store.get? id = none := by
      rw [get?_close sound.distinct, if_pos rfl]
    refine ⟨Store.get?_eq_none.mp gone, (intact.close sound id).unlisted gone, ?_, ?_⟩
    · intro shown
      obtain ⟨b, there⟩ := (sound.close id).shown id shown
      rw [gone] at there
      contradiction
    · rw [close_open isOpen]
      simp only [current, Viewport.forget]
      split
      · exact (Option.some_ne_none id).symm
      · assumption

example :
    let s := ((idle {} {}).run [.event ⟨⟨1⟩, .opened .channel "#garden" "net" true⟩,
      .event ⟨⟨1⟩, .opened .query "ann" "other" false⟩, .event ⟨⟨2⟩, .opened .query "bo" "net" false⟩,
      .event ⟨⟨1⟩, .closed⟩, .event ⟨⟨1⟩, .opened .query "ann" "other" false⟩]).session
    s.listing.under "net" = [⟨⟨2⟩, .query, "bo"⟩] ∧
      s.listing.under "other" = [⟨⟨1⟩, .query, "ann"⟩] := by decide

end Session

end ChatDisplay
