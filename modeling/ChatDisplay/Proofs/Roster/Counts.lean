import ChatDisplay.Roster.Entry
import Mathlib.Algebra.GroupWithZero.Nat
import Mathlib.Data.List.Nodup

namespace ChatDisplay

namespace Counts

/-- The counts from the lowest tier to the highest. -/
def row (c : Counts) : List Nat := Tier.all.reverse.map c.count

section Rows
variable (c : Counts) (t : Tier)

theorem row_rank : c.row[t.rank]? = some (c.count t) := by
  cases t <;> rfl

theorem row_add : (c.add t).row = c.row.modify t.rank (· + 1) := by
  cases t <;> rfl

theorem among_eq_sum (tiers : List Tier) : c.among tiers = (tiers.map c.count).sum := by
  induction tiers with
  | nil => rfl
  | cons s tiers ih => simp [among, ih]

theorem sum_row_drop : (c.row.drop t.rank).sum = c.atLeast t := by
  -- the row begins with the lowest tier, the list of all tiers with the highest
  have above : Tier.all.reverse.drop t.rank = (Tier.all.filter (t ≤ ·)).reverse := by
    cases t <;> rfl
  calc (c.row.drop t.rank).sum
      = ((Tier.all.reverse.drop t.rank).map c.count).sum := by rw [row, List.map_drop]
    _ = (((Tier.all.filter (t ≤ ·)).map c.count).reverse).sum := by rw [above, List.map_reverse]
    _ = c.atLeast t := by rw [List.sum_reverse, atLeast, among_eq_sum]

theorem count_add (s : Tier) : (c.add t).count s = c.count s + if s = t then 1 else 0 := by
  cases s <;> cases t <;> rfl

theorem among_add (tiers : List Tier) : (c.add t).among tiers = c.among tiers + tiers.count t := by
  induction tiers with
  | nil => rfl
  | cons s tiers ih =>
    simp only [among, count_add, ih, List.count_cons, beq_iff_eq]
    omega

theorem among_nobody (tiers : List Tier) : ({} : Counts).among tiers = 0 := by
  induction tiers with
  | nil => rfl
  | cons s tiers ih => cases s <;> simpa [among, count] using ih

end Rows

variable {tiers : List Tier}

theorem among_tally (distinct : tiers.Nodup) (c : Counts) (members : List Member) :
    (members.foldl (fun c m => c.add m.tier) c).among tiers =
      c.among tiers + members.countP fun m => m.tier ∈ tiers := by
  induction members generalizing c with
  | nil => rfl
  | cons m members ih =>
    simp only [List.foldl_cons, ih, among_add, distinct.count, List.countP_cons, decide_eq_true_eq]
    omega

theorem row_tally (c : Counts) (members : List Member) :
    (members.foldl (fun c m => c.add m.tier) c).row =
      members.foldl (fun row m => row.modify m.tier.rank (· + 1)) c.row := by
  induction members generalizing c with
  | nil => rfl
  | cons m members ih => simp [ih, row_add]

end Counts

namespace Roster

theorem among_counts {tiers : List Tier} (distinct : tiers.Nodup) (r : Roster) :
    r.counts.among tiers = r.entries.countP fun e => e.tier ∈ tiers := by
  have tally := Counts.among_tally distinct {} r.members
  rw [Counts.among_nobody, Nat.zero_add] at tally
  calc r.counts.among tiers
      = r.members.countP (fun m => m.tier ∈ tiers) := tally
    _ = (r.members.map Member.entry).countP (fun e => e.tier ∈ tiers) := by
        rw [List.countP_map]
        rfl

/-- The count of a tier is the number of shown entries with this tier, and the count of a tier and those
above the number of entries with such tiers. In a row where each member adds one at the rank of its tier,
the one is the number at that rank and the other the sum from there on. -/
theorem counts_of_entries (r : Roster) :
    let row := r.members.foldl (fun row m => row.modify m.tier.rank (· + 1)) (List.replicate 6 0)
    (∀ t, r.counts.count t = r.entries.countP (fun e => e.tier = t) ∧
      row[t.rank]? = some (r.counts.count t)) ∧
    (∀ t, r.counts.atLeast t = r.entries.countP (fun e => t ≤ e.tier) ∧
      (row.drop t.rank).sum = r.counts.atLeast t) ∧
    r.counts.ops = r.counts.atLeast .op ∧
    r.counts.total = r.size ∧ r.counts.atLeast .ordinary = r.size ∧ r.entries.length = r.size ∧
    r.entries.map (fun e => (e.nick, e.status, e.tier)) =
      r.members.map (fun m => (m.nick, m.status, m.tier)) ∧
    ∀ e ∈ r.entries, e.color = e.tier.color := by
  intro row
  have kept : r.counts.row = row := Counts.row_tally {} r.members
  have everyTier (t : Tier) : t ∈ Tier.all := by
    cases t <;> decide
  have distinct : Tier.all.Nodup := by decide
  have shown : r.entries.length = r.size := by
    rw [entries, members, Table.values, List.length_map, List.length_map, size, Table.size]
  have everyone : r.counts.total = r.size := by
    have counted : r.counts.total = _ := among_counts distinct r
    simpa [everyTier, shown] using counted
  refine ⟨?_, ?_, rfl, everyone, everyone, shown, ?_, ?_⟩
  · intro t
    have counted := among_counts (List.nodup_singleton t) r
    refine ⟨?_, kept ▸ r.counts.row_rank t⟩
    simpa [Counts.among] using counted
  · intro t
    have counted : r.counts.atLeast t = _ := among_counts (distinct.filter (t ≤ ·)) r
    refine ⟨?_, kept ▸ r.counts.sum_row_drop t⟩
    simpa [everyTier] using counted
  · simp [entries, Member.entry]
  · intro e there
    obtain ⟨m, -, rfl⟩ := List.mem_map.mp there
    rfl

example :
    let r := ({} : Roster).setMembers [("ann", some '~'), ("bo", some '@'), ("cy", none), ("di", some '@')]
    r.counts.count .op = 2 ∧ r.counts.ops = 3 ∧ r.counts.total = 4 := by decide

end Roster

end ChatDisplay
