import ChatDisplay.Conversation.Store
import ChatDisplay.Proofs.Table

namespace ChatDisplay.Store

/-- No two open conversations have the same id. -/
def Distinct (s : Store) : Prop := s.ids.Nodup

/-- Every conversation is under its own id. -/
def Own (s : Store) : Prop := ∀ e ∈ s.table.entries, e.2.id = e.1

section Lookup
variable {s : Store} {id : ConversationId} {c : Conversation}

theorem contains_eq (s : Store) (id : ConversationId) : s.contains id = (s.get? id).isSome :=
  s.table.contains_eq id

theorem contains_open (isOpen : s.get? id = some c) : s.contains id = true := by
  rw [contains_eq, isOpen]
  rfl

theorem contains_closed (closed : s.get? id = none) : s.contains id = false := by
  rw [contains_eq, closed]
  rfl

theorem get?_eq_none : s.get? id = none ↔ id ∉ s.ids := Table.get?_eq_none

theorem get?_eq_some (distinct : s.Distinct) : s.get? id = some c ↔ (id, c) ∈ s.table.entries :=
  Table.get?_eq_some distinct

theorem Own.get?_eq_some (own : s.Own) (distinct : s.Distinct) :
    s.get? id = some c ↔ c ∈ s.conversations ∧ c.id = id := by
  rw [Store.get?_eq_some distinct]
  constructor
  · intro there
    exact ⟨List.mem_map_of_mem there, own _ there⟩
  · rintro ⟨member, rfl⟩
    obtain ⟨e, there, rfl⟩ := List.mem_map.mp member
    rwa [own e there]

end Lookup

section Map
variable {s : Store} {f : ConversationId → Conversation → Conversation}

def map (s : Store) (f : ConversationId → Conversation → Conversation) : Store := ⟨s.table.map f⟩

theorem ids_map (s : Store) (f : ConversationId → Conversation → Conversation) :
    (s.map f).ids = s.ids := s.table.keys_map f

theorem get?_map (s : Store) (f : ConversationId → Conversation → Conversation)
    (k : ConversationId) : (s.map f).get? k = (s.get? k).map (f k) := s.table.get?_map f k

theorem map_same (same : ∀ k c, f k c = c) : s.map f = s := by
  rw [map, Table.map_same same]

theorem Distinct.map (distinct : s.Distinct) (f : ConversationId → Conversation → Conversation) :
    (s.map f).Distinct := by
  rw [Distinct, ids_map]
  exact distinct

theorem Own.map (own : s.Own) (keeps : ∀ k c, (f k c).id = c.id) : (s.map f).Own := by
  intro e there
  obtain ⟨before, member, rfl⟩ := List.mem_map.mp there
  exact (keeps before.1 before.2).trans (own before member)

end Map

section Modify
variable {s : Store} {id : ConversationId} {f : Conversation → Conversation}

theorem get?_modify (s : Store) (id : ConversationId) (f : Conversation → Conversation)
    (k : ConversationId) :
    (s.modify id f).get? k = if k = id then (s.get? k).map f else s.get? k :=
  s.table.get?_modify id f k

theorem Distinct.modify (distinct : s.Distinct) (id : ConversationId)
    (f : Conversation → Conversation) : (s.modify id f).Distinct := distinct.map _

theorem Own.modify (own : s.Own) (keeps : ∀ c, (f c).id = c.id) : (s.modify id f).Own := by
  refine own.map fun k c => ?_
  split
  · exact keeps c
  · rfl

theorem modify_closed (closed : s.get? id = none) : s.modify id f = s := by
  rw [modify, Table.modify_absent closed]

theorem modify_same (same : ∀ c, f c = c) : s.modify id f = s :=
  map_same fun k c => by rw [same, ite_self]

theorem append_eq (s : Store) (id : ConversationId) (runs : List Run) :
    s.append id runs = ((s.get? id).map fun _ => runs,
      s.modify id fun c => { c with document := c.document.append runs }) := by
  unfold append
  split
  · rename_i closed
    rw [closed, modify_closed closed]
    rfl
  · rename_i c found
    rw [found]
    simp [Document.append, Document.size]

end Modify

section Add
variable {s : Store} {id : ConversationId} {kind : ConversationKind} {name : String}

theorem add_open {c : Conversation} (isOpen : s.get? id = some c) :
    s.add id kind name = (false, s) := by
  rw [add, contains_open isOpen]
  rfl

theorem add_closed (closed : s.get? id = none) : s.add id kind name =
    (true, ⟨s.table.push id { id := id, kind := kind, name := name }⟩) := by
  rw [add, contains_closed closed]
  rfl

theorem get?_add (closed : s.get? id = none) (k : ConversationId) :
    (s.add id kind name).2.get? k =
      if k = id then some { id := id, kind := kind, name := name } else s.get? k := by
  rw [add_closed closed]
  exact Table.get?_push closed _ k

theorem Distinct.add (distinct : s.Distinct) : (s.add id kind name).2.Distinct := by
  cases found : s.get? id with
  | some c => rwa [add_open found]
  | none =>
    rw [add_closed found]
    exact Table.nodup_push distinct found _

theorem Own.add (own : s.Own) : (s.add id kind name).2.Own := by
  cases found : s.get? id with
  | some c => rwa [add_open found]
  | none =>
    rw [add_closed found]
    intro e there
    rcases List.mem_append.mp there with before | last
    · exact own e before
    · rw [List.mem_singleton.mp last]

end Add

section Remove
variable {s : Store} {id : ConversationId}

theorem remove_closed (closed : s.get? id = none) : s.remove id = (none, s) := by
  rw [remove, closed, Table.erase_absent closed]

theorem get?_remove (distinct : s.Distinct) : (s.remove id).2.get? id = none :=
  Table.get?_erase distinct id

theorem get?_remove_other {k : ConversationId} (other : k ≠ id) :
    (s.remove id).2.get? k = s.get? k := Table.get?_erase_other other

theorem Distinct.remove (distinct : s.Distinct) : (s.remove id).2.Distinct :=
  Table.nodup_erase distinct id

theorem Own.remove (own : s.Own) : (s.remove id).2.Own :=
  fun e there => own e (List.mem_of_mem_eraseP there)

end Remove

end ChatDisplay.Store
