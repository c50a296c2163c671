import ChatDisplay.Json.Basic
import Mathlib.Data.List.Forall2
import Mathlib.Data.List.Nodup

/-! The members of an object can stand in any order and among others of other names, or what they hold can
stand alone in an array, at every depth. -/
namespace ChatDisplay.Json

/-- Another way to write a value. Members are told by their names, so new ones take other names. -/
inductive Variant : Json → Json → Prop where
  | same (j : Json) : Variant j j
  | array {items others : List Json} (each : List.Forall₂ Variant items others) :
      Variant (.array items) (.array others)
  | object {members known unknown written : List (String × Json)}
      (names : known.map Prod.fst = members.map Prod.fst)
      (values : List.Forall₂ Variant (members.map Prod.snd) (known.map Prod.snd))
      (apart : ∀ m ∈ unknown, m.1 ∉ members.map Prod.fst)
      (order : written.Perm (known ++ unknown)) : Variant (.object members) (.object written)
  | fields {members : List (String × Json)} {items : List Json}
      (values : List.Forall₂ Variant (members.map Prod.snd) items) :
      Variant (.object members) (.array items)

section Members
variable {members known unknown written : List (String × Json)} {name : String} {value : Json}

theorem lookup_sole (there : (name, value) ∈ members)
    (sole : ∀ m ∈ members, m.1 = name → m.2 = value) : members.lookup name = some value := by
  induction members with
  | nil => contradiction
  | cons m members ih =>
    obtain ⟨n, v⟩ := m
    by_cases here : n = name
    · have same : v = value := sole (n, v) List.mem_cons_self here
      simp [here, same]
    · have other : (name == n) = false := by simpa using fun same => here same.symm
      have later : (name, value) ∈ members := by
        rcases List.mem_cons.mp there with same | later
        · exact absurd (congrArg Prod.fst same).symm here
        · exact later
      rw [List.lookup_cons, other]
      exact ih later fun m inside => sole m (List.mem_cons_of_mem _ inside)

theorem lookup_written (distinct : (known.map Prod.fst).Nodup)
    (apart : ∀ m ∈ unknown, m.1 ∉ known.map Prod.fst) (order : written.Perm (known ++ unknown))
    (there : (name, value) ∈ known) : written.lookup name = some value := by
  apply lookup_sole (order.mem_iff.mpr (List.mem_append_left unknown there))
  intro m inside same
  rcases List.mem_append.mp (order.mem_iff.mp inside) with field | other
  · have pair : m = (name, value) := List.inj_on_of_nodup_map distinct field there same
    rw [pair]
  · exact absurd (List.mem_map.mpr ⟨_, there, same.symm⟩) (apart m other)

theorem fields?_written (distinct : (known.map Prod.fst).Nodup)
    (apart : ∀ m ∈ unknown, m.1 ∉ known.map Prod.fst) (order : written.Perm (known ++ unknown)) :
    fields? (known.map Prod.fst) (.object written) = some ((known.map Prod.snd).map some) := by
  simp only [fields?, Option.some.injEq, List.map_map]
  apply List.map_congr_left
  rintro ⟨name, value⟩ there
  exact lookup_written distinct apart order there

end Members

namespace Variant
variable {items : List Json} {members : List (String × Json)} {j : Json}

theorem of_array (written : Variant (.array items) j) :
    ∃ others, j = .array others ∧ List.Forall₂ Variant items others := by
  cases written with
  | same => exact ⟨items, rfl, List.forall₂_same.mpr fun j _ => .same j⟩
  | array each => exact ⟨_, rfl, each⟩

theorem of_null (written : Variant j .null) : j = .null := by
  cases written
  rfl

theorem fields_found (distinct : (members.map Prod.fst).Nodup) (written : Variant (.object members) j) :
    ∃ items, List.Forall₂ Variant (members.map Prod.snd) items ∧
      j.fields? (members.map Prod.fst) = some (items.map some) := by
  cases written with
  | same =>
    have found := @fields?_written members [] members distinct (by simp) (by simp)
    exact ⟨_, List.forall₂_same.mpr fun j _ => .same j, found⟩
  | object names values apart order =>
    have found := fields?_written (names ▸ distinct) (names ▸ apart) order
    rw [names] at found
    exact ⟨_, values, found⟩
  | fields values =>
    have many := values.length_eq
    rw [List.length_map] at many
    exact ⟨_, values, by simp [fields?, many]⟩

end Variant

theorem someFields?_of_fields? {names : List String} {j : Json} {found : List (Option Json)}
    (read : j.fields? names = some found) : j.someFields? names = some found := by
  cases j with
  | array items =>
    simp only [fields?] at read
    split at read
    · rename_i many
      obtain rfl := Option.some.inj read
      simp [someFields?, many]
    · contradiction
  | _ => exact read

end ChatDisplay.Json
