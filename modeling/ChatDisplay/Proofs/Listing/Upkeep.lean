import ChatDisplay.Proofs.Listing.Tabs
import Mathlib.Data.List.Flatten
import Mathlib.Data.List.Nodup

namespace ChatDisplay.Listing
variable {l : Listing} {id : ConversationId} {server : String} {s : Server} {t : Tab}

section Reading

/-- Every conversation with its server, from top to bottom. -/
def places (l : Listing) : List (Server × Tab) := l.servers.flatMap fun s => s.tabs.map fun t => (s, t)

theorem mem_places : (s, t) ∈ l.places ↔ s ∈ l.servers ∧ t ∈ s.tabs := by
  simp only [places, List.mem_flatMap, List.mem_map, Prod.mk.injEq]
  constructor
  · rintro ⟨r, listed, u, inside, rfl, rfl⟩
    exact ⟨listed, inside⟩
  · rintro ⟨listed, inside⟩
    exact ⟨s, listed, t, inside, rfl, rfl⟩

theorem ids_places (l : Listing) : l.places.map (fun p => p.2.id) = l.ids := by
  simp only [places, ids, tabs, List.map_flatMap, List.map_map, Function.comp_def]

theorem find?_places (l : Listing) (id : ConversationId) :
    l.find? id = l.places.find? fun p => p.2.id == id := by
  simp only [find?, places, List.find?_flatMap, List.find?_map, Function.comp_def, Server.find?]

theorem find?_eq_some_iff (once : l.ids.Nodup) :
    l.find? id = some (s, t) ↔ (s, t) ∈ l.places ∧ t.id = id := by
  rw [← ids_places] at once
  rw [find?_places, Keyed.find?_eq_some once]

theorem find?_eq_none (absent : id ∉ l.ids) : l.find? id = none := by
  rw [← ids_places] at absent
  rw [find?_places, List.find?_eq_none]
  simpa using Keyed.not_mem_keys.mp absent

theorem mem_lines_server : .server s ∈ l.lines ↔ s ∈ l.servers := by
  simp [lines]

theorem mem_lines_tab : .tab s t ∈ l.lines ↔ (s, t) ∈ l.places := by
  simp [lines, places]

def Line.owner : Line → Server
  | .server s => s
  | .tab s _ => s

/-- What a visitor does at a line. -/
def visit {σ : Type} (onServer : σ → Server → σ) (onTab : σ → Server → Tab → σ) (state : σ) :
    Line → σ
  | .server s => onServer state s
  | .tab s t => onTab state s t

theorem walk_lines {σ : Type} (l : Listing) (onServer : σ → Server → σ)
    (onTab : σ → Server → Tab → σ) (start : σ) :
    l.walk onServer onTab start = l.lines.foldl (visit onServer onTab) start := by
  simp only [walk, lines, List.foldl_flatMap, List.foldl_cons, List.foldl_map, visit]

/-- The lines that a walk comes by. -/
def visited (l : Listing) : List Line :=
  l.walk (fun seen s => seen ++ [.server s]) (fun seen s t => seen ++ [.tab s t]) []

/-- Whoever reads a listing is told the same. Looking up finds what a walk comes by, a walk comes by every
server and every conversation once, and does so in the order of the lines. -/
structure Readable (l : Listing) : Prop where
  found : ∀ id s t, l.find? id = some (s, t) ↔ .tab s t ∈ l.visited ∧ t.id = id
  servers : ∀ s, .server s ∈ l.visited ↔ s ∈ l.servers
  tabs : ∀ s t, .tab s t ∈ l.visited ↔ s ∈ l.servers ∧ t ∈ s.tabs
  once : l.visited.Nodup
  order : l.visited = l.lines
  walk : ∀ {σ : Type} (onServer : σ → Server → σ) (onTab : σ → Server → Tab → σ) (start : σ),
    l.walk onServer onTab start = l.lines.foldl (visit onServer onTab) start

theorem visited_lines (l : Listing) : l.visited = l.lines := by
  have recorded : visit (fun seen s => seen ++ [.server s]) (fun seen s t => seen ++ [.tab s t]) =
      fun seen line => seen ++ [line] := by
    funext seen line
    cases line <;> rfl
  rw [visited, walk_lines, recorded, List.foldl_append_eq_append, List.nil_append,
    ← List.flatMap_def, List.flatMap_singleton']

theorem Orderly.lines (orderly : l.Orderly) : l.lines.Nodup := by
  have owner {s : Server} {line : Line} (inside : line ∈ .server s :: s.tabs.map fun t => .tab s t) :
      line.owner = s := by
    rcases List.mem_cons.mp inside with rfl | inside
    · rfl
    · obtain ⟨t, -, rfl⟩ := List.mem_map.mp inside
      rfl
  have once : l.tabs.Nodup := orderly.once.of_map Tab.id
  apply List.nodup_flatMap.mpr
  constructor
  · intro s listed
    have own : s.tabs.Nodup := (List.nodup_flatMap.mp once).1 s listed
    apply List.nodup_cons.mpr
    constructor
    · simp
    · exact own.map fun _ _ same => (Line.tab.inj same).2
  · apply (List.pairwise_map.mp orderly.names).imp
    intro s r apart line first second
    exact apart (congrArg Server.name ((owner first).symm.trans (owner second)))

theorem Orderly.readable (orderly : l.Orderly) : l.Readable := by
  constructor
  · intro id s t
    rw [visited_lines, mem_lines_tab]
    exact find?_eq_some_iff orderly.once
  · intro s
    rw [visited_lines]
    exact mem_lines_server
  · intro s t
    rw [visited_lines, mem_lines_tab]
    exact mem_places
  · rw [visited_lines]
    exact orderly.lines
  · exact visited_lines l
  · exact walk_lines l

end Reading

section Changing
variable (orderly : l.Orderly)
include orderly

theorem under_own (listed : s ∈ l.servers) : l.under s.name = s.tabs := by
  have there : s.name ∈ l.names := List.mem_map_of_mem listed
  obtain ⟨before, r, rest, split, here, fore, aft⟩ := Keyed.split orderly.names there
  have member : r ∈ l.servers := by simp [split]
  have same : r = s := List.inj_on_of_nodup_map orderly.names member listed here
  simp [under, split, under_others fore, under_others aft, same]

theorem servers_eq : l.servers = l.names.map fun name => ⟨name, l.under name⟩ := by
  have each : ∀ s ∈ l.servers, (⟨s.name, l.under s.name⟩ : Server) = s := by
    intro s listed
    rw [under_own orderly listed]
  have whole := List.map_congr_left each
  rw [List.map_id'] at whole
  rw [names, List.map_map]
  exact whole.symm

theorem servers_addTab (server : String) (t : Tab) : (l.addTab server t).servers =
    (if server ∈ l.names then l.names else l.names ++ [server]).map fun other =>
      ⟨other, ((l.under other).filter fun u => u.id != t.id) ++ if other = server then [t] else []⟩ := by
  rw [servers_eq (orderly.addTab server t), names_addTab orderly]
  exact List.map_congr_left fun other _ => by rw [under_addTab orderly]

theorem removeServer_eq (name : String) :
    (l.removeServer name).2.servers = l.servers.filter fun s => s.name != name :=
  Keyed.eraseP_eq_filter orderly.names name

theorem Orderly.removeServer (name : String) : (l.removeServer name).2.Orderly := by
  have fewer : (l.removeServer name).2.servers.Sublist l.servers := by
    rw [removeServer_eq orderly]
    exact List.filter_sublist
  constructor
  · exact orderly.names.sublist (fewer.map Server.name)
  · exact orderly.once.sublist ((fewer.flatMap Server.tabs).map Tab.id)

theorem find?_removeTab (id : ConversationId) : (l.removeTab id).2.find? id = none := by
  rw [removeTab_eq orderly.once]
  exact find?_eq_none (not_mem_without l id)

end Changing

theorem takeTab_found (id : ConversationId) (servers : List Server) :
    (takeTab id servers).1 = ((Listing.mk servers).find? id).map Prod.snd := by
  induction servers with
  | nil => rfl
  | cons s rest ih =>
    simp only [find?, List.findSome?_cons] at ih ⊢
    cases found : s.find? id with
    | some t => simp only [takeTab, found, Option.map_some]
    | none => simp only [takeTab, found, Option.map_none, ih]

/-- A change to the servers or to the conversations under them. -/
inductive Edit where
  | addServer (name : String)
  | addTab (server : String) (t : Tab)
  | removeTab (id : ConversationId)
  | removeServer (name : String)

def after (l : Listing) : Edit → Listing
  | .addServer name => l.addServer name
  | .addTab server t => l.addTab server t
  | .removeTab id => (l.removeTab id).2
  | .removeServer name => (l.removeServer name).2

theorem Orderly.after (orderly : l.Orderly) (e : Edit) : (l.after e).Orderly := by
  cases e with
  | addServer name => exact orderly.addServer name
  | addTab server t => exact orderly.addTab server t
  | removeTab id =>
    rw [Listing.after, removeTab_eq orderly.once]
    exact orderly.without id
  | removeServer name => exact orderly.removeServer name

theorem Orderly.afterAll (orderly : l.Orderly) (edits : List Edit) :
    (edits.foldl Listing.after l).Orderly := by
  induction edits generalizing l with
  | nil => exact orderly
  | cons e rest ih => exact ih (orderly.after e)

/-- Whatever is added to an orderly listing and removed from it, it stays orderly, and all its readers agree.
A conversation that is added comes last under its server, which comes last if it is new, and leaves the
place it had; one that is removed is the one that was found before; a server goes with all that is under
it. Everything else keeps its place and its order. -/
theorem listing_kept_orderly (orderly : l.Orderly) (edits : List Edit) :
    let m := edits.foldl Listing.after l
    m.Orderly ∧ m.Readable ∧
    (∀ server t, (m.addTab server t).servers =
      (if server ∈ m.names then m.names else m.names ++ [server]).map fun other =>
        ⟨other, ((m.under other).filter fun u => u.id != t.id) ++
          if other = server then [t] else []⟩) ∧
    (∀ id, (m.removeTab id).1 = (m.find? id).map Prod.snd ∧ (m.removeTab id).2.find? id = none ∧
      (m.removeTab id).2.servers =
        m.servers.map fun s => ⟨s.name, s.tabs.filter fun t => t.id != id⟩) ∧
    ∀ name, (∀ s, (m.removeServer name).1 = some s ↔ s ∈ m.servers ∧ s.name = name) ∧
      (m.removeServer name).2.servers = m.servers.filter fun s => s.name != name := by
  intro m
  have kept : m.Orderly := orderly.afterAll edits
  refine ⟨kept, kept.readable, servers_addTab kept, ?_, ?_⟩
  · intro id
    refine ⟨takeTab_found id m.servers, find?_removeTab kept id, ?_⟩
    rw [removeTab_eq kept.once]
    rfl
  · intro name
    exact ⟨fun s => Keyed.find?_eq_some kept.names, removeServer_eq kept name⟩

theorem listing_kept_orderly_moving :
    let rust : Tab := ⟨⟨1⟩, .channel, "#rust"⟩
    let l : Listing := ⟨[⟨"libera", [rust, ⟨⟨2⟩, .channel, "#irc"⟩]⟩, ⟨"oftc", []⟩]⟩
    let m := [.addTab "oftc" rust, .removeTab ⟨2⟩, .addServer "oftc"].foldl Listing.after l
    l.Orderly ∧ m.Orderly ∧ m.Readable ∧
      (m.removeTab ⟨1⟩).1 = (m.find? ⟨1⟩).map Prod.snd ∧
      m.find? ⟨1⟩ = some (⟨"oftc", [rust]⟩, rust) := by
  intro rust l m
  have orderly : l.Orderly := ⟨by decide, by decide⟩
  obtain ⟨kept, readable, -, removed, -⟩ := listing_kept_orderly orderly
    [.addTab "oftc" rust, .removeTab ⟨2⟩, .addServer "oftc"]
  exact ⟨orderly, kept, readable, (removed ⟨1⟩).1, by decide⟩

end ChatDisplay.Listing
