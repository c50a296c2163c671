import ChatDisplay.Listing
import ChatDisplay.Proofs.Keyed

namespace ChatDisplay.Listing
variable {l : Listing} {id : ConversationId} {server : String} {t : Tab}

section Views

def names (l : Listing) : List String := l.servers.map Server.name

def tabs (l : Listing) : List Tab := l.servers.flatMap Server.tabs

def ids (l : Listing) : List ConversationId := l.tabs.map Tab.id

/-- The tabs of the servers with a name. -/
def under (l : Listing) (server : String) : List Tab :=
  l.servers.flatMap fun s => if s.name = server then s.tabs else []

theorem mem_tabs : t ∈ l.tabs ↔ ∃ server, t ∈ l.under server := by
  simp only [tabs, under, List.mem_flatMap]
  constructor
  · rintro ⟨s, member, there⟩
    exact ⟨s.name, s, member, by rwa [if_pos rfl]⟩
  · rintro ⟨server, s, member, there⟩
    split at there
    · exact ⟨s, member, there⟩
    · cases there

/-- Each server has its own name, and each conversation is listed once. -/
structure Orderly (l : Listing) : Prop where
  names : l.names.Nodup
  once : l.ids.Nodup

end Views

section Removing

/-- A listing without the tabs of a conversation. -/
def without (l : Listing) (id : ConversationId) : Listing :=
  ⟨l.servers.map fun s => { s with tabs := s.tabs.filter fun t => t.id != id }⟩

theorem without_absent (absent : id ∉ l.ids) : l.without id = l := by
  have same : ∀ s ∈ l.servers, { s with tabs := s.tabs.filter fun t => t.id != id } = s := by
    intro s member
    have others : ∀ t ∈ s.tabs, t.id ≠ id := by
      intro t tab
      exact Keyed.not_mem_keys.mp absent t (List.mem_flatMap.mpr ⟨s, member, tab⟩)
    rw [Keyed.filter_others others]
  have kept : (l.without id).servers = l.servers := by
    have each := List.map_congr_left same
    rwa [List.map_id'] at each
  obtain ⟨servers⟩ := l
  exact congrArg Listing.mk kept

theorem takeTab_eq {servers : List Server} (once : (Listing.mk servers).ids.Nodup) :
    (takeTab id servers).2 = ((Listing.mk servers).without id).servers := by
  induction servers with
  | nil => rfl
  | cons s rest ih =>
    simp only [ids, tabs, List.flatMap_cons, List.map_append, List.nodup_append] at once
    obtain ⟨own, others, apart⟩ := once
    cases found : s.find? id with
    | some t =>
      have here : id ∈ s.tabs.map Tab.id :=
        List.mem_map.mpr ⟨t, (Keyed.find?_eq_some own).mp found⟩
      -- the search ends here, which is all there is to do since no other server has the tab
      have absent : id ∉ (Listing.mk rest).ids := fun there => apart id here id there rfl
      have kept := congrArg servers (without_absent absent)
      simp only [takeTab, found, Server.erase, Keyed.eraseP_eq_filter own, without,
        List.map_cons] at kept ⊢
      rw [kept]
    | none =>
      have missing : ∀ t ∈ s.tabs, t.id ≠ id := by simpa [Server.find?] using found
      simp only [takeTab, found, ih others, without, List.map_cons, Keyed.filter_others missing]

theorem removeTab_eq (once : l.ids.Nodup) (id : ConversationId) :
    (l.removeTab id).2 = l.without id :=
  congrArg Listing.mk (takeTab_eq once)

theorem names_without (l : Listing) (id : ConversationId) : (l.without id).names = l.names := by
  simp [names, without, Function.comp_def]

theorem tabs_without (l : Listing) (id : ConversationId) :
    (l.without id).tabs = l.tabs.filter fun t => t.id != id := by
  simp [tabs, without, List.flatMap_map, List.filter_flatMap]

theorem under_without (l : Listing) (id : ConversationId) (server : String) :
    (l.without id).under server = (l.under server).filter fun t => t.id != id := by
  simp only [under, without, List.flatMap_map, List.filter_flatMap]
  congr 1
  funext s
  split
  · rfl
  · rfl

theorem not_mem_without (l : Listing) (id : ConversationId) : id ∉ (l.without id).ids := by
  intro there
  obtain ⟨t, member, same⟩ := List.mem_map.mp there
  rw [tabs_without] at member
  have other := List.of_mem_filter member
  simp [same] at other

theorem Orderly.without (orderly : l.Orderly) (id : ConversationId) : (l.without id).Orderly := by
  constructor
  · rw [names_without]
    exact orderly.names
  · rw [ids, tabs_without]
    exact orderly.once.sublist (List.filter_sublist.map Tab.id)

end Removing

section Adding

theorem names_addServer (l : Listing) (server : String) :
    (l.addServer server).names = if server ∈ l.names then l.names else l.names ++ [server] := by
  have known : (l.servers.any fun s => s.name == server) = true ↔ server ∈ l.names := by
    simp [names, List.any_eq_true]
  unfold addServer
  split
  · rename_i there
    rw [if_pos (known.mp there)]
  · rename_i missing
    rw [if_neg fun there => missing (known.mpr there)]
    simp [names]

theorem under_addServer (l : Listing) (server other : String) :
    (l.addServer server).under other = l.under other := by
  unfold addServer
  split
  · rfl
  · simp [under]

theorem tabs_addServer (l : Listing) (server : String) : (l.addServer server).tabs = l.tabs := by
  unfold addServer
  split
  · rfl
  · simp [tabs]

theorem mem_names_addServer (l : Listing) (server : String) :
    server ∈ (l.addServer server).names := by
  rw [names_addServer]
  split
  · assumption
  · simp

theorem Orderly.addServer (orderly : l.Orderly) (server : String) :
    (l.addServer server).Orderly := by
  constructor
  · rw [names_addServer]
    split
    · exact orderly.names
    · rename_i fresh
      simp only [List.nodup_append, orderly.names, true_and, List.nodup_singleton,
        List.mem_singleton]
      rintro a member b rfl rfl
      exact fresh member
  · rw [ids, tabs_addServer]
    exact orderly.once

def behind (l : Listing) (server : String) (t : Tab) : Listing :=
  ⟨l.servers.map fun s => if s.name = server then { s with tabs := s.tabs ++ [t] } else s⟩

theorem push_eq {servers : List Server} (distinct : (servers.map Server.name).Nodup) :
    push server t servers = ((Listing.mk servers).behind server t).servers := by
  induction servers with
  | nil => rfl
  | cons s rest ih =>
    simp only [List.map_cons, List.nodup_cons] at distinct
    by_cases here : s.name = server
    · have others : ∀ r ∈ rest, r.name ≠ server := here ▸ Keyed.not_mem_keys.mp distinct.1
      simp only [push, behind, if_pos here, List.map_cons, Keyed.map_others others]
    · simp only [push, behind, if_neg here, List.map_cons, ih distinct.2]

theorem addTab_eq (orderly : l.Orderly) (server : String) (t : Tab) :
    l.addTab server t = ((l.without t.id).addServer server).behind server t := by
  have distinct := ((orderly.without t.id).addServer server).names
  unfold addTab
  rw [removeTab_eq orderly.once]
  exact congrArg Listing.mk (push_eq distinct)

theorem names_behind (l : Listing) (server : String) (t : Tab) :
    (l.behind server t).names = l.names := by
  simp only [names, behind, List.map_map]
  refine List.map_congr_left ?_
  intro s _
  simp only [Function.comp_apply]
  split
  · rfl
  · rfl

theorem under_behind_other {other : String} (apart : other ≠ server) :
    (l.behind server t).under other = l.under other := by
  simp only [under, behind, List.flatMap_map]
  congr 1
  funext s
  by_cases here : s.name = server
  · have elsewhere : s.name ≠ other := fun same => apart (same.symm.trans here)
    simp [here, Ne.symm apart]
  · simp [here]

theorem behind_split (distinct : l.names.Nodup) (there : server ∈ l.names) (t : Tab) :
    ∃ before s rest, l.servers = before ++ s :: rest ∧ s.name = server ∧
      (∀ r ∈ before, r.name ≠ server) ∧ (∀ r ∈ rest, r.name ≠ server) ∧
      (l.behind server t).servers = before ++ { s with tabs := s.tabs ++ [t] } :: rest := by
  obtain ⟨before, s, rest, split, here, fore, aft⟩ := Keyed.split distinct there
  refine ⟨before, s, rest, split, here, fore, aft, ?_⟩
  simp only [behind, split]
  exact Keyed.map_split here fore aft fun s => { s with tabs := s.tabs ++ [t] }

theorem under_others {servers : List Server} (others : ∀ r ∈ servers, r.name ≠ server) :
    (servers.flatMap fun r => if r.name = server then r.tabs else []) = [] := by
  refine List.flatMap_eq_nil_iff.mpr ?_
  intro r member
  exact if_neg (others r member)

theorem under_behind (distinct : l.names.Nodup) (there : server ∈ l.names) (t : Tab) :
    (l.behind server t).under server = l.under server ++ [t] := by
  obtain ⟨before, s, rest, split, here, fore, aft, changed⟩ := behind_split distinct there t
  simp [under, split, changed, here, under_others fore, under_others aft]

theorem tabs_behind (distinct : l.names.Nodup) (there : server ∈ l.names) (t : Tab) :
    (l.behind server t).tabs.Perm (t :: l.tabs) := by
  obtain ⟨before, s, rest, split, -, -, -, changed⟩ := behind_split distinct there t
  simp only [tabs, split, changed, List.flatMap_append, List.flatMap_cons, List.append_assoc,
    List.singleton_append]
  rw [← List.append_assoc, ← List.append_assoc]
  exact List.perm_middle

variable (orderly : l.Orderly)
include orderly

theorem names_addTab (server : String) (t : Tab) :
    (l.addTab server t).names = if server ∈ l.names then l.names else l.names ++ [server] := by
  rw [addTab_eq orderly, names_behind, names_addServer, names_without]

theorem under_addTab (server other : String) (t : Tab) :
    (l.addTab server t).under other =
      ((l.under other).filter fun u => u.id != t.id) ++ if other = server then [t] else [] := by
  rw [addTab_eq orderly]
  split
  · rename_i same
    have distinct := ((orderly.without t.id).addServer server).names
    rw [same, under_behind distinct (mem_names_addServer _ server), under_addServer, under_without]
  · rename_i apart
    rw [under_behind_other apart, under_addServer, under_without, List.append_nil]

theorem tabs_addTab (server : String) (t : Tab) :
    (l.addTab server t).tabs.Perm (t :: l.tabs.filter fun u => u.id != t.id) := by
  have distinct := ((orderly.without t.id).addServer server).names
  have added := tabs_behind distinct (mem_names_addServer _ server) t
  rw [addTab_eq orderly]
  rwa [tabs_addServer, tabs_without] at added

theorem Orderly.addTab (server : String) (t : Tab) : (l.addTab server t).Orderly := by
  constructor
  · rw [addTab_eq orderly, names_behind]
    exact ((orderly.without t.id).addServer server).names
  · have ids := (tabs_addTab orderly server t).map Tab.id
    refine ids.nodup_iff.mpr (List.nodup_cons.mpr ⟨?_, ?_⟩)
    · rw [← tabs_without]
      exact not_mem_without l t.id
    · rw [← tabs_without]
      exact (orderly.without t.id).once

end Adding

section Order

theorem without_comm (l : Listing) (id other : ConversationId) :
    (l.without id).without other = (l.without other).without id := by
  simp only [without, List.map_map, Function.comp_def, List.filter_filter, Bool.and_comm]

theorem addServer_without (l : Listing) (server : String) (id : ConversationId) :
    (l.addServer server).without id = (l.without id).addServer server := by
  have known : ((l.without id).servers.any fun s => s.name == server) =
      l.servers.any fun s => s.name == server := by
    simp [without, Function.comp_def]
  unfold addServer
  rw [known]
  split
  · rfl
  · simp [without]

theorem behind_without (apart : t.id ≠ id) (l : Listing) (server : String) :
    (l.behind server t).without id = (l.without id).behind server t := by
  simp only [behind, without, List.map_map]
  congr 1
  refine List.map_congr_left ?_
  intro s _
  simp only [Function.comp_apply]
  split
  · simp [apart]
  · rfl

/-- Two listings with the same servers and the same tabs under each, maybe in another order. -/
structure Alike (l m : Listing) : Prop where
  names : l.names.Perm m.names
  under : ∀ server, (l.under server).Perm (m.under server)

theorem Alike.refl (l : Listing) : l.Alike l :=
  ⟨List.Perm.refl l.names, fun server => List.Perm.refl (l.under server)⟩

variable (orderly : l.Orderly)
include orderly

theorem removeTab_comm (id other : ConversationId) :
    ((l.removeTab id).2.removeTab other).2 = ((l.removeTab other).2.removeTab id).2 := by
  rw [removeTab_eq orderly.once, removeTab_eq orderly.once,
    removeTab_eq (orderly.without id).once, removeTab_eq (orderly.without other).once]
  exact l.without_comm id other

theorem addTab_removeTab (apart : t.id ≠ id) (server : String) :
    ((l.addTab server t).removeTab id).2 = (l.removeTab id).2.addTab server t := by
  rw [removeTab_eq orderly.once, removeTab_eq (orderly.addTab server t).once, addTab_eq orderly,
    addTab_eq (orderly.without id), behind_without apart, addServer_without, without_comm]

theorem mem_names_addTab (server other : String) (t : Tab) :
    other ∈ (l.addTab server t).names ↔ other ∈ l.names ∨ other = server := by
  rw [names_addTab orderly]
  split
  · rename_i there
    constructor
    · exact .inl
    · rintro (known | rfl)
      · exact known
      · exact there
  · simp

theorem addTab_alike {u : Tab} (apart : t.id ≠ u.id) (server other : String) :
    ((l.addTab server t).addTab other u).Alike ((l.addTab other u).addTab server t) := by
  have first := orderly.addTab server t
  have second := orderly.addTab other u
  constructor
  · refine (List.perm_ext_iff_of_nodup (first.addTab other u).names
      (second.addTab server t).names).mpr ?_
    intro name
    simp only [mem_names_addTab first, mem_names_addTab second, mem_names_addTab orderly]
    exact or_right_comm
  · intro name
    have keptFirst : [t].filter (fun v => v.id != u.id) = [t] := by simp [apart]
    have keptSecond : [u].filter (fun v => v.id != t.id) = [u] := by simp [Ne.symm apart]
    simp only [under_addTab first, under_addTab second, under_addTab orderly, List.filter_append,
      List.filter_filter, List.append_assoc, Bool.and_comm]
    refine List.Perm.append_left _ ?_
    split
    · split
      · rw [keptFirst, keptSecond]
        exact List.Perm.swap u t []
      · rw [keptFirst]
        simp
    · split
      · rw [keptSecond]
        simp
      · simp

end Order

end ChatDisplay.Listing
