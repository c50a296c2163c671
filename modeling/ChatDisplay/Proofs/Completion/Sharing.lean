import ChatDisplay.Proofs.Completion.Safety

namespace ChatDisplay.Completion

section Minimum
variable {counts : List Nat} {n top : Nat}

theorem le_foldl_min : n ≤ counts.foldl min top ↔ n ≤ top ∧ ∀ m ∈ counts, n ≤ m := by
  induction counts generalizing top with
  | nil => simp
  | cons m rest ih => simp only [List.foldl_cons, ih, Nat.le_min, List.forall_mem_cons, and_assoc]

theorem foldl_min_eq (within : ∀ m ∈ counts, m ≤ top) :
    counts.foldl min top = counts.min?.getD top := by
  apply eq_of_forall_le_iff
  intro n
  rw [le_foldl_min]
  cases least : counts.min? with
  | none => simp [List.min?_eq_none_iff.mp least]
  | some m =>
    have member : m ∈ counts := List.min?_mem least
    simp only [Option.getD_some, List.le_min?_iff least]
    exact and_iff_right_of_imp fun below => Nat.le_trans (below m member) (within m member)

end Minimum

section Sharing
variable {c : Completion} {first : String} {others : List String} {n : Nat}

/-- How many characters of a candidate the others share with it. -/
def sharedCount (first : String) (others : List String) : Nat :=
  (others.map fun other => Text.sharedLength first other).foldl min first.length

theorem sharedCount_le (first : String) (others : List String) :
    sharedCount first others ≤ first.toList.length := by
  rw [String.length_toList]
  exact (le_foldl_min.mp (Nat.le_refl (sharedCount first others))).1

theorem toList_sharedStart (split : c.candidates = first :: others) :
    c.sharedStart.toList = first.toList.take (sharedCount first others) := by
  simp only [sharedStart, split, String.toList_ofList]
  rfl

theorem length_sharedStart (split : c.candidates = first :: others) :
    c.sharedStart.length = sharedCount first others := by
  rw [← String.length_toList, toList_sharedStart split]
  exact List.length_take_of_le (sharedCount_le first others)

theorem le_sharedStart (split : c.candidates = first :: others) (short : n ≤ first.toList.length) :
    n ≤ c.sharedStart.length ↔
      ∀ nick ∈ c.candidates, Text.beginsWith nick.toList (first.toList.take n) = true := by
  have own : Text.beginsWith first.toList (first.toList.take n) = true :=
    Text.beginsWith_of_begins (List.take_prefix n first.toList)
  rw [length_sharedStart split, sharedCount, le_foldl_min, split, ← String.length_toList]
  simp only [List.forall_mem_cons, List.forall_mem_map, short, own, true_and]
  exact forall₂_congr fun _ _ => (Text.beginsWith_take short).symm

theorem sharedStart_shared (split : c.candidates = first :: others) :
    c.sharedStart.toList <+: first.toList ∧
      ∀ nick ∈ c.candidates, Text.nickBegins nick c.sharedStart = true := by
  have short := sharedCount_le first others
  have start := toList_sharedStart split
  have all := (le_sharedStart split short).mp (Nat.le_of_eq (length_sharedStart split).symm)
  rw [← start] at all
  exact ⟨start ▸ List.take_prefix _ _, all⟩

theorem sharedStart_longest (split : c.candidates = first :: others) {start : List Char}
    (begins : start <+: first.toList)
    (all : ∀ nick ∈ c.candidates, Text.beginsWith nick.toList start = true) :
    start.length ≤ c.sharedStart.length := by
  rw [List.prefix_iff_eq_take.mp begins] at all
  exact (le_sharedStart split begins.length_le).mpr all

/-- What all candidates begin with, for case, the shared beginning begins with. -/
theorem sharedStart_typed (split : c.candidates = first :: others) {word : List Char}
    (all : ∀ nick ∈ c.candidates, Text.beginsWith nick.toList word = true) :
    word.length ≤ c.sharedStart.length ∧ Text.beginsWith c.sharedStart.toList word = true := by
  have member : first ∈ c.candidates := split ▸ List.mem_cons_self
  have folds := (Text.beginsWith_iff first.toList word).mp (all first member)
  have short : word.length ≤ first.toList.length := by
    have sizes := congrArg List.length folds
    simp only [List.length_map, List.length_take] at sizes
    omega
  have inside : word.length ≤ c.sharedStart.length := by
    apply (le_sharedStart split short).mpr
    intro nick there
    rw [Text.beginsWith_folded, folds, ← Text.beginsWith_folded]
    exact all nick there
  refine ⟨inside, ?_⟩
  rw [length_sharedStart split] at inside
  rwa [Text.beginsWith_iff, toList_sharedStart split, List.take_take, Nat.min_eq_left inside]

end Sharing

section Cutting

/-- The shared beginning where the first candidate is looked up and cut at a place counted in bytes. -/
def checkedSharedStart (c : Completion) : Except Fault String := do
  let first ← checkedGet c.candidates 0
  let shared := (c.candidates.drop 1).map fun other => Text.sharedLength first other
  let count := shared.min?.getD first.length
  let (start, _) ← cutAt first.toList (byteOffset first.toList count)
  return String.ofList start

variable {c : Completion} {first : String} {others : List String}

theorem checkedSharedStart_eq (split : c.candidates = first :: others) :
    checkedSharedStart c = .ok c.sharedStart := by
  have look : checkedGet (first :: others) 0 = .ok first := rfl
  -- Without this the least count and the fold from the length of the first candidate could differ.
  have within : ∀ m ∈ others.map fun other => Text.sharedLength first other, m ≤ first.length := by
    simp only [List.forall_mem_map, Text.sharedLength]
    intro other _
    rw [Text.sharedChars_comm, ← String.length_toList]
    exact Text.sharedChars_le other.toList first.toList
  have start : c.sharedStart = String.ofList (first.toList.take (sharedCount first others)) := by
    rw [← toList_sharedStart split, String.ofList_toList]
  simp only [checkedSharedStart, split, look, ok_bind, List.drop_succ_cons, List.drop_zero,
    cutAt_byteOffset, start, sharedCount, foldl_min_eq within]
  rfl

end Cutting

theorem advance_same (c : Completion) (lines : List String) :
    (lines.foldl advance c).candidates = c.candidates ∧
      (lines.foldl advance c).typed = c.typed := by
  induction lines generalizing c with
  | nil => exact ⟨rfl, rfl⟩
  | cons line rest ih => exact ih (c.advance line)

/-- After a completion was begun and then advanced on any lines, every candidate begins, but for case, with
what they share. No longer beginning of the first is in all of them, it has in it the word that was typed,
and the cut behind it does not fail. -/
theorem shared_start_longest {line : String} {cursor : Nat} {roster : Roster} {suffix : String}
    {begun : Completion} (begins : ofLine? line cursor roster suffix = some begun)
    (lines : List String) :
    let c := lines.foldl advance begun
    checkedSharedStart c = .ok c.sharedStart ∧
    ∃ first others, c.candidates = first :: others ∧
      c.sharedStart.toList <+: first.toList ∧
      (∀ nick ∈ c.candidates, Text.nickBegins nick c.sharedStart = true) ∧
      (∀ start, start <+: first.toList →
        (∀ nick ∈ c.candidates, Text.beginsWith nick.toList start = true) →
        start.length ≤ c.sharedStart.length) ∧
      c.typed.length ≤ c.sharedStart.length ∧ Text.nickBegins c.sharedStart c.typed = true := by
  intro c
  obtain ⟨candidates, typed⟩ := advance_same begun lines
  obtain ⟨-, -, -, stands⟩ := ofLine?_stands begins
  have some : begun.candidates ≠ [] := List.ne_nil_of_length_pos (Nat.zero_lt_of_lt stands.index)
  obtain ⟨first, others, split⟩ := List.exists_cons_of_ne_nil some
  rw [← candidates] at split
  have all : ∀ nick ∈ c.candidates, Text.beginsWith nick.toList c.typed.toList = true := by
    rw [candidates, typed, ofLine?_candidates begins]
    exact fun nick there => (List.mem_filter.mp there).2
  obtain ⟨start, shared⟩ := sharedStart_shared split
  obtain ⟨inside, opens⟩ := sharedStart_typed split all
  rw [String.length_toList] at inside
  exact ⟨checkedSharedStart_eq split, first, others, split, start, shared,
    fun _ => sharedStart_longest split, inside, opens⟩

/-- The Kelvin sign takes three bytes where the letter that it folds to takes one. -/
theorem shared_start_longest_kelvin :
    let roster := Roster.setMembers {} [("\u212aarla", none), ("bob", none), ("karL", some '@')]
    let begun : Completion := ⟨"KA", ["\u212aarla", "karL"], 0, 0, 7, ": ", ⟨"\u212aarla: ", 7⟩⟩
    let c := ["hi", ""].foldl advance begun
    ofLine? "KA" 2 roster ":" = some begun ∧ checkedSharedStart c = .ok "\u212aarl" ∧
      ∀ nick ∈ c.candidates, Text.nickBegins nick "\u212aarl" = true := by
  intro roster begun c
  have begins : ofLine? "KA" 2 roster ":" = some begun := by decide +kernel
  have start : c.sharedStart = "\u212aarl" := by decide +kernel
  obtain ⟨cut, first, others, -, -, shared, -⟩ := shared_start_longest begins ["hi", ""]
  exact ⟨begins, start ▸ cut, start ▸ shared⟩

end ChatDisplay.Completion
