import ChatDisplay.Proofs.Roster.Changes

/-! Each change that is no announcement looks at nicks alone, so ranking the members first and changing the
roster afterwards is the same as the other way round. -/
namespace ChatDisplay

/-- The member with the tier that these symbols give its status. -/
def SymbolMap.rank (symbols : SymbolMap) (m : Member) : Member :=
  { m with tier := symbols.tierOf m.status }

namespace Roster

/-- A change is an announcement of symbols. -/
def Change.announces : Change → Bool
  | .ranked _ => true
  | _ => false

def rankAll (symbols : SymbolMap) (t : Table String Member) : Table String Member :=
  t.map fun _ => symbols.rank

theorem vacate_rank (symbols : SymbolMap) (new : String) (index : Nat) (t : Table String Member) :
    vacate new index (rankAll symbols t) =
      Prod.map id (rankAll symbols) (vacate new index t) := by
  rw [vacate, rankAll, Table.indexOf?_map, vacate]
  cases t.indexOf? new with
  | none => rfl
  | some other => simp only [← Table.map_eraseAt, Prod.map, id, rankAll]

variable (r : Roster) (symbols : SymbolMap)

theorem insert_setSymbols (nick : String) (status : Option Char) :
    (r.setSymbols symbols).insert nick status = (r.insert nick status).setSymbols symbols := by
  have same : (r.setSymbols symbols).contains nick = r.contains nick := Table.contains_map ..
  rw [insert, insert, same]
  split
  · refine congrArg (Roster.mk · symbols) ?_
    simp only [setSymbols, Table.modify, Table.map_map]
    congr 1
    funext k m
    split <;> rfl
  · have last := r.table.map_push (fun _ => symbols.rank) nick
      ⟨nick, status, r.symbols.tierOf status⟩
    exact congrArg (Roster.mk · symbols) last.symm

theorem remove_setSymbols (nick : String) :
    ((r.setSymbols symbols).remove nick).2 = (r.remove nick).2.setSymbols symbols :=
  congrArg (Roster.mk · symbols) (r.table.map_erase _ nick).symm

theorem rename_setSymbols (old new : String) :
    ((r.setSymbols symbols).rename old new).2 = (r.rename old new).2.setSymbols symbols := by
  have ranked : (r.setSymbols symbols).table = rankAll symbols r.table := rfl
  have place : (rankAll symbols r.table).indexOf? old = r.table.indexOf? old :=
    r.table.indexOf?_map _ old
  simp only [rename, ranked, place]
  cases r.table.indexOf? old with
  | none => rfl
  | some index =>
    -- Room for the new nick is made at the same places, whatever the tiers are.
    have room : (if old = new then (index, rankAll symbols r.table)
        else vacate new index (rankAll symbols r.table)) =
        Prod.map id (rankAll symbols)
          (if old = new then (index, r.table) else vacate new index r.table) := by
      split
      · rfl
      · exact vacate_rank symbols new index r.table
    simp only [room]
    generalize (if old = new then (index, r.table) else vacate new index r.table) = left
    obtain ⟨index, table⟩ := left
    have there : (rankAll symbols table).entries[index]? =
        table.entries[index]?.map fun e => (e.1, symbols.rank e.2) := List.getElem?_map
    simp only [Prod.map, id, there]
    cases table.entries[index]? with
    | none => rfl
    | some e =>
      have placed := (table.eraseAt index).map_insertAt (fun _ => symbols.rank) index new
        { e.2 with nick := new }
      rw [Table.map_eraseAt] at placed
      exact congrArg (Roster.mk · symbols) placed.symm

theorem setMembers_setSymbols (listed : List (String × Option Char)) :
    (r.setSymbols symbols).setMembers listed = (r.setMembers listed).setSymbols symbols := by
  induction listed using List.reverseRecOn with
  | nil => rfl
  | append_singleton listed last ih =>
    rw [setMembers_concat, setMembers_concat, ih, insert_setSymbols]

/-- Symbols that come before a change do what they do after it. -/
theorem after_setSymbols {c : Change} (quiet : c.announces = false) :
    (r.setSymbols symbols).after c = (r.after c).setSymbols symbols := by
  cases c with
  | inserted nick status => exact insert_setSymbols r symbols nick status
  | removed nick => exact remove_setSymbols r symbols nick
  | renamed old new => exact rename_setSymbols r symbols old new
  | listed everyone => exact setMembers_setSymbols r symbols everyone
  | cleared => rfl
  | ranked => contradiction

theorem afterAll_setSymbols {changes : List Change} (quiet : ∀ c ∈ changes, c.announces = false) :
    (r.setSymbols symbols).afterAll changes = (r.afterAll changes).setSymbols symbols := by
  induction changes generalizing r with
  | nil => rfl
  | cons c rest ih =>
    have first := after_setSymbols r symbols (quiet c List.mem_cons_self)
    have others := ih (r.after c) fun d later => quiet d (List.mem_cons_of_mem c later)
    calc (r.setSymbols symbols).afterAll (c :: rest)
        = ((r.setSymbols symbols).after c).afterAll rest := rfl
      _ = ((r.after c).setSymbols symbols).afterAll rest := by rw [first]
      _ = (r.afterAll (c :: rest)).setSymbols symbols := others

theorem setSymbols_again (later : SymbolMap) :
    (r.setSymbols symbols).setSymbols later = r.setSymbols later := by
  simp [setSymbols, Table.map_map]

theorem afterAll_append (before behind : List Change) :
    r.afterAll (before ++ behind) = (r.afterAll before).afterAll behind := List.foldl_append

variable {r}

/-- A roster whose members are ranked by its symbols stays so, and its members are those that all changes
but the announcements give, ranked by the last symbols. -/
theorem afterAll_ranked (ranked : r.setSymbols r.symbols = r) (changes : List Change) :
    r.afterAll changes = (r.afterAll (changes.filter fun c => !c.announces)).setSymbols
      (changes.foldl Change.symbolsAfter r.symbols) := by
  induction changes using List.reverseRecOn with
  | nil => exact ranked.symm
  | append_singleton changes c ih =>
    rw [afterAll_append, List.filter_append, afterAll_append, List.foldl_append, ih]
    cases announces : c.announces with
    | true =>
      obtain ⟨symbols, rfl⟩ : ∃ symbols, c = .ranked symbols := by
        cases c with
        | ranked symbols => exact ⟨symbols, rfl⟩
        | _ => contradiction
      exact setSymbols_again _ _ symbols
    | false =>
      have kept (symbols : SymbolMap) : c.symbolsAfter symbols = symbols := by
        cases c with
        | ranked => contradiction
        | _ => rfl
      simp only [List.filter_singleton, announces, Bool.not_false, cond_true, List.foldl_cons,
        List.foldl_nil, kept]
      exact after_setSymbols _ _ announces

/-- Each member has the tier that the symbols in use give its status. Of any history only the last
announcement counts, wherever it was, and the members are those there are without it, with other tiers. -/
theorem ranking_at_any_time (changes : List Change) :
    let r := ({} : Roster).afterAll changes
    (∀ m ∈ r.members, m.tier = r.symbols.tierOf m.status) ∧
    (∀ (symbols : SymbolMap) (before behind : List Change),
      (∀ c ∈ before ++ behind, c.announces = false) →
        r.afterAll (before ++ .ranked symbols :: behind) =
          (r.afterAll (before ++ behind)).setSymbols symbols) ∧
    r = (({} : Roster).afterAll (changes.filter fun c => !c.announces)).setSymbols
      (changes.foldl Change.symbolsAfter .standard) := by
  intro r
  have last := afterAll_ranked (r := {}) rfl changes
  refine ⟨?_, ?_, last⟩
  · intro m member
    have symbols : r.symbols = changes.foldl Change.symbolsAfter .standard :=
      congrArg Roster.symbols last
    have members : r.members = _ := congrArg Roster.members last
    rw [members, Roster.members, setSymbols, Table.values_map] at member
    obtain ⟨e, -, rfl⟩ := List.mem_map.mp member
    rw [symbols]
  · intro symbols before behind quiet
    have after : ∀ c ∈ behind, c.announces = false :=
      fun c later => quiet c (List.mem_append_right before later)
    calc r.afterAll (before ++ .ranked symbols :: behind)
        = ((r.afterAll before).setSymbols symbols).afterAll behind := afterAll_append r before _
      _ = ((r.afterAll before).afterAll behind).setSymbols symbols :=
          afterAll_setSymbols _ symbols after
      _ = (r.afterAll (before ++ behind)).setSymbols symbols := by rw [afterAll_append]

/-- A symbol that means nothing where nothing is announced, announced when its member is there. -/
example : (({} : Roster).afterAll [.inserted "ann" (some '!'), .renamed "ann" "bo",
    .ranked (.ofText "(qov)!@+")]).members = [⟨"bo", some '!', .owner⟩] := by decide

end Roster

end ChatDisplay
