import ChatDisplay.Proofs.Keyed
import ChatDisplay.Table
import Mathlib.Data.List.InsertIdx

/-! No operation under a key touches what is found under another; that nothing is left under a key that was
erased needs keys to be distinct. -/
namespace ChatDisplay.Table
variable {κ α : Type} {t : Table κ α}

section Map

theorem keys_map (t : Table κ α) (f : κ → α → α) : (t.map f).keys = t.keys := by
  simp only [keys, map, List.map_map]
  rfl

theorem values_map (t : Table κ α) (f : κ → α → α) :
    (t.map f).values = t.entries.map fun e => f e.1 e.2 := by
  simp only [values, map, List.map_map]
  rfl

theorem map_same {f : κ → α → α} (same : ∀ k a, f k a = a) : t.map f = t := by
  simp [map, same]

theorem map_map (t : Table κ α) (f g : κ → α → α) :
    (t.map f).map g = t.map fun k a => g k (f k a) := by
  simp [map]

theorem map_push (t : Table κ α) (f : κ → α → α) (k : κ) (a : α) :
    (t.push k a).map f = (t.map f).push k (f k a) := by
  simp [map, push]

theorem map_eraseAt (t : Table κ α) (f : κ → α → α) (index : Nat) :
    (t.eraseAt index).map f = (t.map f).eraseAt index := by
  rw [map, map, eraseAt, eraseAt, List.eraseIdx_map]

end Map

variable [DecidableEq κ] {k i : κ} {a : α}

section Lookup

theorem get?_eq_none : t.get? k = none ↔ k ∉ t.keys := by
  rw [keys, Keyed.not_mem_keys, get?, Option.map_eq_none_iff, List.find?_eq_none]
  simp only [beq_iff_eq, ne_eq]

theorem contains_eq (t : Table κ α) (k : κ) : t.contains k = (t.get? k).isSome := by
  rw [contains, get?, Option.isSome_map, Bool.eq_iff_iff, List.find?_isSome, List.any_eq_true]

theorem contains_iff : t.contains k = true ↔ k ∈ t.keys := by
  simp [contains, keys]

theorem get?_eq_some (distinct : t.keys.Nodup) : t.get? k = some a ↔ (k, a) ∈ t.entries := by
  simp only [get?, Option.map_eq_some_iff, Keyed.find?_eq_some distinct]
  constructor
  · rintro ⟨e, ⟨there, rfl⟩, rfl⟩
    exact there
  · intro there
    exact ⟨(k, a), ⟨there, rfl⟩, rfl⟩

theorem get?_map (t : Table κ α) (f : κ → α → α) (k : κ) : (t.map f).get? k = (t.get? k).map (f k) := by
  have key : (fun e : κ × α => e.1 == k) ∘ (fun e : κ × α => (e.1, f e.1 e.2)) =
      fun e => e.1 == k := rfl
  rw [get?, get?, map, List.find?_map, key]
  cases found : t.entries.find? fun e => e.1 == k with
  | none => rfl
  | some e =>
    have here : e.1 = k := by simpa using List.find?_some found
    simp [here]

theorem get?_modify (t : Table κ α) (k : κ) (f : α → α) (i : κ) :
    (t.modify k f).get? i = if i = k then (t.get? i).map f else t.get? i := by
  rw [modify, get?_map]
  split <;> simp

theorem contains_map (t : Table κ α) (f : κ → α → α) (k : κ) :
    (t.map f).contains k = t.contains k := by
  rw [contains_eq, contains_eq, get?_map, Option.isSome_map]

theorem modify_absent (absent : t.get? k = none) (f : α → α) : t.modify k f = t := by
  have others : ∀ e ∈ t.entries, e.1 ≠ k := Keyed.not_mem_keys.mp (get?_eq_none.mp absent)
  have each : ∀ e ∈ t.entries, (e.1, if e.1 = k then f e.2 else e.2) = e := by
    intro e there
    rw [if_neg (others e there)]
  rw [modify, map, List.map_congr_left each, List.map_id']

end Lookup

section Push

theorem get?_push (absent : t.get? k = none) (a : α) (i : κ) :
    (t.push k a).get? i = if i = k then some a else t.get? i := by
  rw [get?, push, List.find?_append, Option.map_or, ← get?]
  split
  · rename_i same
    simp [same, absent]
  · rename_i other
    simp [Ne.symm other]

theorem nodup_push (distinct : t.keys.Nodup) (absent : t.get? k = none) (a : α) :
    (t.push k a).keys.Nodup := by
  have fresh := get?_eq_none.mp absent
  rw [keys, push, List.map_append, ← keys]
  refine List.nodup_append.mpr ⟨distinct, by simp, ?_⟩
  rintro i there j last rfl
  have added : i = k := by simpa using last
  exact fresh (added ▸ there)

end Push

section Erase

theorem keys_erase (t : Table κ α) (k : κ) : (t.erase k).keys = t.keys.erase k := by
  rw [keys, keys, erase, List.erase_eq_eraseP', List.eraseP_map]
  rfl

theorem erase_absent (absent : t.get? k = none) : t.erase k = t := by
  have others : ∀ e ∈ t.entries, ¬ (e.1 == k) = true := by
    simpa using Keyed.not_mem_keys.mp (get?_eq_none.mp absent)
  rw [erase, List.eraseP_of_forall_not others]

theorem entries_erase (distinct : t.keys.Nodup) (k : κ) :
    (t.erase k).entries = t.entries.filter fun e => e.1 != k :=
  Keyed.eraseP_eq_filter distinct k

theorem nodup_erase (distinct : t.keys.Nodup) (k : κ) : (t.erase k).keys.Nodup := by
  rw [keys_erase]
  exact distinct.erase k

theorem get?_erase (distinct : t.keys.Nodup) (k : κ) : (t.erase k).get? k = none := by
  rw [get?_eq_none, keys_erase]
  exact distinct.not_mem_erase

theorem get?_erase_other (other : i ≠ k) : (t.erase k).get? i = t.get? i := by
  obtain ⟨entries⟩ := t
  simp only [get?, erase]
  congr 1
  induction entries with
  | nil => rfl
  | cons e rest ih =>
    by_cases here : e.1 = k
    -- the entry that goes has another key than the one looked for
    · have skipped : (e.1 == i) = false := by simpa [here] using Ne.symm other
      rw [List.eraseP_cons_of_pos (by simpa using here), List.find?_cons, skipped]
    · rw [List.eraseP_cons_of_neg (by simpa using here), List.find?_cons, List.find?_cons, ih]

theorem map_erase (t : Table κ α) (f : κ → α → α) (k : κ) :
    (t.erase k).map f = (t.map f).erase k := by
  rw [map, map, erase, erase, List.eraseP_map]
  rfl

end Erase

section Places
variable {index : Nat}

theorem indexOf?_eq_none : t.indexOf? k = none ↔ k ∉ t.keys := by
  rw [indexOf?, List.findIdx?_eq_none_iff, keys, Keyed.not_mem_keys]
  simp

theorem indexOf?_map (t : Table κ α) (f : κ → α → α) (k : κ) :
    (t.map f).indexOf? k = t.indexOf? k := by
  rw [indexOf?, map, List.findIdx?_map]
  rfl

theorem eraseAt_indexOf? (found : t.indexOf? k = some index) : t.eraseAt index = t.erase k := by
  unfold indexOf? at found
  rw [erase, List.eraseP_eq_eraseIdx, found]
  rfl

theorem map_insertAt (t : Table κ α) (f : κ → α → α) (index : Nat) (k : κ) (a : α) :
    (t.insertAt index k a).map f = (t.map f).insertAt index k (f k a) := by
  rw [insertAt, insertAt, ← map_erase]
  simp only [map, List.map_insertIdx]

end Places

end ChatDisplay.Table
