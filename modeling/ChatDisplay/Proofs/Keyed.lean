import Mathlib.Data.List.Nodup

namespace ChatDisplay.Keyed
variable {α κ : Type} {key : α → κ} {l : List α} {k : κ}

theorem not_mem_keys : k ∉ l.map key ↔ ∀ a ∈ l, key a ≠ k := by
  simp [List.mem_map]

/-- A key divides the list into the elements before the one that has it, that one, and those after it. -/
theorem split (distinct : (l.map key).Nodup) (there : k ∈ l.map key) :
    ∃ before a rest, l = before ++ a :: rest ∧ key a = k ∧ (∀ b ∈ before, key b ≠ k) ∧
      ∀ b ∈ rest, key b ≠ k := by
  obtain ⟨a, member, rfl⟩ := List.mem_map.mp there
  obtain ⟨before, rest, rfl⟩ := List.append_of_mem member
  simp only [List.map_append, List.map_cons, List.nodup_append, List.nodup_cons] at distinct
  obtain ⟨-, ⟨behind, -⟩, apart⟩ := distinct
  refine ⟨before, a, rest, rfl, rfl, ?_, not_mem_keys.mp behind⟩
  intro b hb
  exact apart (key b) (List.mem_map_of_mem hb) (key a) List.mem_cons_self

variable [DecidableEq κ]

theorem find?_eq_some (distinct : (l.map key).Nodup) {a : α} :
    l.find? (fun x => key x == k) = some a ↔ a ∈ l ∧ key a = k := by
  constructor
  · intro found
    exact ⟨List.mem_of_find?_eq_some found, by simpa using List.find?_some found⟩
  · rintro ⟨member, rfl⟩
    cases found : l.find? fun x => key x == key a with
    | none =>
      have absent := List.find?_eq_none.mp found a member
      simp at absent
    | some b =>
      have same : key b = key a := by simpa using List.find?_some found
      have only := List.inj_on_of_nodup_map distinct (List.mem_of_find?_eq_some found) member same
      rw [only]

theorem filter_others (others : ∀ a ∈ l, key a ≠ k) : l.filter (fun x => key x != k) = l := by
  simpa using others

theorem map_others (others : ∀ a ∈ l, key a ≠ k) (f : α → α) :
    (l.map fun a => if key a = k then f a else a) = l := by
  have each : ∀ a ∈ l, (if key a = k then f a else a) = a := fun a member => if_neg (others a member)
  simpa using List.map_congr_left each

theorem eraseP_eq_filter (distinct : (l.map key).Nodup) (k : κ) :
    l.eraseP (fun x => key x == k) = l.filter fun x => key x != k := by
  induction l with
  | nil => rfl
  | cons x rest ih =>
    simp only [List.map_cons, List.nodup_cons] at distinct
    by_cases here : key x = k
    · have others : ∀ a ∈ rest, key a ≠ k := here ▸ not_mem_keys.mp distinct.1
      simp [here, filter_others others]
    · simp [here, ih distinct.2]

theorem map_split {before rest : List α} {a : α} (here : key a = k)
    (fore : ∀ b ∈ before, key b ≠ k) (aft : ∀ b ∈ rest, key b ≠ k) (f : α → α) :
    ((before ++ a :: rest).map fun b => if key b = k then f b else b) = before ++ f a :: rest := by
  simp [here, map_others fore, map_others aft]

end ChatDisplay.Keyed
