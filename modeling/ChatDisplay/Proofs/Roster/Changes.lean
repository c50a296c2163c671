import ChatDisplay.Proofs.Table
import ChatDisplay.Roster.Basic
import Mathlib.Data.List.Induction
import Mathlib.Data.List.TakeWhile

/-! Whatever happens to a roster is an edit of the list of its members that says nothing of how members are
found: a member is put in its place or at the end, left out, or given another nick where it stands. -/
namespace ChatDisplay.Roster

/-- What can happen to a roster. -/
inductive Change where
  | inserted (nick : String) (status : Option Char)
  | removed (nick : String)
  | renamed (old new : String)
  | listed (members : List (String × Option Char))
  | cleared
  | ranked (symbols : SymbolMap)

def after (r : Roster) : Change → Roster
  | .inserted nick status => r.insert nick status
  | .removed nick => (r.remove nick).2
  | .renamed old new => (r.rename old new).2
  | .listed members => r.setMembers members
  | .cleared => r.clear
  | .ranked symbols => r.setSymbols symbols

def afterAll (r : Roster) (changes : List Change) : Roster := changes.foldl after r

section Edits

/-- A member takes the place of the one with its nick, if there is one, and else comes last. -/
def put (m : Member) (members : List Member) : List Member :=
  if m.nick ∈ members.map Member.nick then members.map fun x => if x.nick = m.nick then m else x
  else members ++ [m]

def leaveOut (nick : String) (members : List Member) : List Member :=
  members.filter fun m => m.nick != nick

/-- The member `old` gets the nick `new` between the members before it and those after it, without
another one named `new`. -/
def renameIn (old new : String) (members : List Member) : List Member :=
  match members.dropWhile fun m => m.nick != old with
  | [] => members
  | m :: rest =>
    leaveOut new (members.takeWhile fun m => m.nick != old) ++
      { m with nick := new } :: leaveOut new rest

/-- The members of a list, one after the other put into an empty roster. -/
def putAll (symbols : SymbolMap) (listed : List (String × Option Char)) : List Member :=
  listed.foldl (fun members m => put ⟨m.1, m.2, symbols.tierOf m.2⟩ members) []

/-- The members after a change, where `symbols` rank the members that come. -/
def Change.edit (symbols : SymbolMap) (members : List Member) : Change → List Member
  | .inserted nick status => put ⟨nick, status, symbols.tierOf status⟩ members
  | .removed nick => leaveOut nick members
  | .renamed old new => renameIn old new members
  | .listed everyone => putAll symbols everyone
  | .cleared => []
  | .ranked symbols => members.map fun m => { m with tier := symbols.tierOf m.status }

def Change.symbolsAfter (symbols : SymbolMap) : Change → SymbolMap
  | .ranked symbols => symbols
  | _ => symbols

/-- The members after changes, one after the other. -/
def editAll (symbols : SymbolMap) (members : List Member) : List Change → List Member
  | [] => members
  | c :: rest => editAll (c.symbolsAfter symbols) (c.edit symbols members) rest

end Edits

section Places
variable {members : List Member} {m : Member} {old new nick : String}

theorem nicks_put (m : Member) (members : List Member) :
    (put m members).map Member.nick =
      if m.nick ∈ members.map Member.nick then members.map Member.nick
      else members.map Member.nick ++ [m.nick] := by
  unfold put
  split
  · have keeps (x : Member) : (if x.nick = m.nick then m else x).nick = x.nick := by
      split
      · rename_i same
        exact same.symm
      · rfl
    simp only [List.map_map]
    exact List.map_congr_left fun x _ => keeps x
  · simp

theorem nodup_put (distinct : (members.map Member.nick).Nodup) :
    ((put m members).map Member.nick).Nodup := by
  rw [nicks_put]
  split
  · exact distinct
  · rename_i fresh
    simp only [List.nodup_append, distinct, true_and, List.nodup_singleton, List.mem_singleton]
    rintro a member b rfl rfl
    exact fresh member

theorem mem_put {x : Member} (there : x ∈ put m members) : x = m ∨ x ∈ members ∧ x.nick ≠ m.nick := by
  unfold put at there
  split at there
  · obtain ⟨y, member, rfl⟩ := List.mem_map.mp there
    split
    · exact .inl rfl
    · rename_i other
      exact .inr ⟨member, other⟩
  · rename_i fresh
    rcases List.mem_append.mp there with member | last
    · right
      refine ⟨member, ?_⟩
      intro same
      exact fresh (same ▸ List.mem_map_of_mem member)
    · exact .inl (List.mem_singleton.mp last)

section Renaming
variable {before rest : List Member}

theorem renameIn_split (here : m.nick = old) (fore : ∀ x ∈ before, x.nick ≠ old) :
    renameIn old new (before ++ m :: rest) =
      leaveOut new before ++ { m with nick := new } :: leaveOut new rest := by
  have skipped : ∀ x ∈ before, (x.nick != old) = true := by simpa using fore
  have stops : (m.nick != old) = false := by simp [here]
  simp [renameIn, List.takeWhile_append_of_pos skipped, List.dropWhile_append_of_pos skipped, stops]

theorem renameIn_absent (absent : ∀ x ∈ members, x.nick ≠ old) :
    renameIn old new members = members := by
  have skipped : (members.dropWhile fun m => m.nick != old) = [] := by
    rw [List.dropWhile_eq_nil_iff]
    simpa using absent
  simp only [renameIn, skipped]

theorem renameIn_self (distinct : (members.map Member.nick).Nodup) (nick : String) :
    renameIn nick nick members = members := by
  by_cases there : nick ∈ members.map Member.nick
  · obtain ⟨before, m, rest, rfl, rfl, fore, aft⟩ := Keyed.split distinct there
    rw [renameIn_split rfl fore]
    simp only [leaveOut, Keyed.filter_others fore, Keyed.filter_others aft]
  · exact renameIn_absent (Keyed.not_mem_keys.mp there)

end Renaming

theorem nodup_leaveOut (distinct : (members.map Member.nick).Nodup) (nick : String) :
    ((leaveOut nick members).map Member.nick).Nodup :=
  distinct.sublist (List.filter_sublist.map Member.nick)

theorem not_mem_leaveOut (nick : String) (members : List Member) :
    nick ∉ (leaveOut nick members).map Member.nick := by
  intro there
  obtain ⟨m, member, same⟩ := List.mem_map.mp there
  have other := List.of_mem_filter member
  simp [same] at other

theorem nodup_renameIn (distinct : (members.map Member.nick).Nodup) (old new : String) :
    ((renameIn old new members).map Member.nick).Nodup := by
  by_cases there : old ∈ members.map Member.nick
  · obtain ⟨before, m, rest, rfl, here, fore, -⟩ := Keyed.split distinct there
    rw [renameIn_split here fore]
    have others : ((before ++ rest).map Member.nick).Nodup := by
      refine distinct.sublist (List.Sublist.map Member.nick ?_)
      exact (List.Sublist.refl before).append (List.sublist_cons_self m rest)
    have left : ((leaveOut new (before ++ rest)).map Member.nick).Nodup :=
      nodup_leaveOut others new
    have fresh := not_mem_leaveOut new (before ++ rest)
    simp only [leaveOut, List.filter_append, List.map_append] at left fresh
    simp only [leaveOut, List.map_append, List.map_cons]
    exact List.nodup_middle.mpr (List.nodup_cons.mpr ⟨fresh, left⟩)
  · rw [renameIn_absent (Keyed.not_mem_keys.mp there)]
    exact distinct

end Places

section Listed
variable {symbols : SymbolMap} {listed : List (String × Option Char)}

theorem putAll_concat (symbols : SymbolMap) (listed : List (String × Option Char))
    (last : String × Option Char) :
    putAll symbols (listed ++ [last]) =
      put ⟨last.1, last.2, symbols.tierOf last.2⟩ (putAll symbols listed) := by
  simp [putAll]

theorem nodup_putAll (symbols : SymbolMap) (listed : List (String × Option Char)) :
    ((putAll symbols listed).map Member.nick).Nodup := by
  induction listed using List.reverseRecOn with
  | nil => exact List.nodup_nil
  | append_singleton listed last ih =>
    rw [putAll_concat]
    exact nodup_put ih

theorem nicks_putAll (symbols : SymbolMap) (listed : List (String × Option Char)) :
    (putAll symbols listed).map Member.nick = (listed.map Prod.fst).eraseDups := by
  induction listed using List.reverseRecOn with
  | nil => rfl
  | append_singleton listed last ih =>
    rw [putAll_concat, nicks_put, ih, List.map_append, List.eraseDups_append]
    by_cases again : last.1 ∈ listed.map Prod.fst
    · simp [again, List.removeAll]
    · simp [again, List.removeAll, List.eraseDups_cons]

theorem status_putAll {m : Member} (member : m ∈ putAll symbols listed) :
    (listed.reverse.find? fun x => x.1 == m.nick).map Prod.snd = some m.status := by
  induction listed using List.reverseRecOn with
  | nil => cases member
  | append_singleton listed last ih =>
    rw [putAll_concat] at member
    rcases mem_put member with rfl | ⟨earlier, other⟩
    · simp
    · have skipped : (last.1 == m.nick) = false := by simpa using Ne.symm other
      simp only [List.reverse_append, List.reverse_singleton, List.singleton_append,
        List.find?_cons, skipped]
      exact ih earlier

end Listed

theorem nodup_edit {members : List Member} (distinct : (members.map Member.nick).Nodup)
    (symbols : SymbolMap) (c : Change) : ((c.edit symbols members).map Member.nick).Nodup := by
  cases c with
  | inserted nick status => exact nodup_put distinct
  | removed nick => exact nodup_leaveOut distinct nick
  | renamed old new => exact nodup_renameIn distinct old new
  | listed everyone => exact nodup_putAll symbols everyone
  | cleared => exact List.nodup_nil
  | ranked symbols =>
    simp only [Change.edit, List.map_map]
    exact distinct

theorem nodup_editAll {members : List Member} (distinct : (members.map Member.nick).Nodup)
    (symbols : SymbolMap) (changes : List Change) :
    ((editAll symbols members changes).map Member.nick).Nodup := by
  induction changes generalizing symbols members with
  | nil => exact distinct
  | cons c rest ih => exact ih (nodup_edit distinct symbols c) _

/-- The table that has each member under its own nick. -/
def named (members : List Member) : Table String Member := ⟨members.map fun m => (m.nick, m)⟩

section Named
variable {members : List Member} {symbols : SymbolMap} {nick : String}

theorem values_named (members : List Member) : (named members).values = members := by
  simp [named, Table.values, Function.comp_def]

theorem keys_named (members : List Member) : (named members).keys = members.map Member.nick := by
  simp [named, Table.keys, Function.comp_def]

theorem mem_named {m : Member} :
    (nick, m) ∈ (named members).entries ↔ m ∈ members ∧ m.nick = nick := by
  simp only [named, List.mem_map, Prod.mk.injEq]
  constructor
  · rintro ⟨x, member, here, rfl⟩
    exact ⟨member, here⟩
  · rintro ⟨member, here⟩
    exact ⟨m, member, here, rfl⟩

theorem insert_named (symbols : SymbolMap) (members : List Member) (nick : String)
    (status : Option Char) : (Roster.mk (named members) symbols).insert nick status =
      ⟨named (put ⟨nick, status, symbols.tierOf status⟩ members), symbols⟩ := by
  have present : (named members).contains nick = true ↔ nick ∈ members.map Member.nick := by
    rw [Table.contains_iff, keys_named]
  simp only [insert, contains, put, present]
  split
  · congr 1
    simp only [named, Table.modify, Table.map, List.map_map]
    congr 1
    refine List.map_congr_left fun m _ => ?_
    simp only [Function.comp_apply]
    split
    · rename_i same
      rw [same]
    · rfl
  · simp [named, Table.push]

theorem setMembers_concat (r : Roster) (listed : List (String × Option Char))
    (last : String × Option Char) :
    r.setMembers (listed ++ [last]) = (r.setMembers listed).insert last.1 last.2 := by
  simp [setMembers]

theorem setMembers_eq (r : Roster) (listed : List (String × Option Char)) :
    r.setMembers listed = ⟨named (putAll r.symbols listed), r.symbols⟩ := by
  induction listed using List.reverseRecOn with
  | nil => rfl
  | append_singleton listed last ih =>
    rw [setMembers_concat, ih, insert_named, putAll_concat]

theorem erase_named (distinct : (members.map Member.nick).Nodup) (nick : String) :
    (named members).erase nick = named (leaveOut nick members) := by
  rw [leaveOut, ← Keyed.eraseP_eq_filter distinct, Table.erase, named, List.eraseP_map]
  rfl

end Named

section Renaming
variable {before rest : List Member} {m : Member} {old new : String}

theorem vacate_table (new : String) (index : Nat) (t : Table String Member) :
    (vacate new index t).2 = t.erase new := by
  unfold vacate
  split
  · rename_i found
    exact Table.eraseAt_indexOf? found
  · rename_i none
    exact (Table.erase_absent (Table.get?_eq_none.mpr (Table.indexOf?_eq_none.mp none))).symm

/-- The index goes down with the number of members before it who leave. -/
theorem vacate_index (new : String) (before rest : List (String × Member)) :
    (vacate new before.length ⟨before ++ rest⟩).1 =
      (before.eraseP fun e => e.1 == new).length := by
  unfold vacate Table.indexOf?
  rw [List.findIdx?_append, List.eraseP_eq_eraseIdx]
  -- the first entry under `new` is before the place, from there on, or nowhere
  cases found : before.findIdx? fun e => e.1 == new with
  | some k =>
    have inside : k < before.length := (List.findIdx?_eq_some_iff_findIdx_eq.mp found).1
    simp [inside, List.length_eraseIdx]
  | none =>
    cases rest.findIdx? fun e => e.1 == new with
    | some k =>
      have behind : ¬ k + before.length < before.length := by omega
      simp [behind]
    | none => rfl

theorem vacate_named (distinct : ((before ++ m :: rest).map Member.nick).Nodup)
    (other : m.nick ≠ new) :
    vacate new before.length (named (before ++ m :: rest)) =
      ((leaveOut new before).length, named (leaveOut new before ++ m :: leaveOut new rest)) := by
  have earlier : (before.map Member.nick).Nodup :=
    distinct.sublist ((List.sublist_append_left before (m :: rest)).map Member.nick)
  have left : leaveOut new (before ++ m :: rest) =
      leaveOut new before ++ m :: leaveOut new rest := by
    simp [leaveOut, other]
  have erased := congrArg (fun t => t.entries.length) (erase_named earlier new)
  have index := vacate_index new (named before).entries (named (m :: rest)).entries
  refine Prod.ext ?_ ?_
  · simpa [named, Table.erase] using index.trans erased
  · rw [vacate_table, erase_named distinct, left]

theorem insertIdx_between {α : Type} (before rest : List α) (a : α) :
    (before ++ rest).insertIdx before.length a = before ++ a :: rest := by
  induction before with
  | nil => rfl
  | cons x before ih => simp [ih]

theorem insertAt_named (m : Member) (fore : m.nick ∉ before.map Member.nick)
    (aft : m.nick ∉ rest.map Member.nick) :
    (named (before ++ rest)).insertAt before.length m.nick m = named (before ++ m :: rest) := by
  have absent : (named (before ++ rest)).get? m.nick = none := by
    rw [Table.get?_eq_none, keys_named, List.map_append, List.mem_append]
    exact not_or.mpr ⟨fore, aft⟩
  have between := insertIdx_between (named before).entries (named rest).entries (m.nick, m)
  rw [Table.insertAt, Table.erase_absent absent]
  simpa [named] using between

theorem rename_absent {r : Roster} (absent : old ∉ r.nicks) (new : String) :
    r.rename old new = (false, r) := by
  simp only [rename, Table.indexOf?_eq_none.mpr absent]

theorem rename_named {members : List Member} (distinct : (members.map Member.nick).Nodup)
    (symbols : SymbolMap) (there : old ∈ members.map Member.nick) (new : String) :
    (Roster.mk (named members) symbols).rename old new =
      (true, ⟨named (renameIn old new members), symbols⟩) := by
  obtain ⟨before, m, rest, rfl, rfl, fore, aft⟩ := Keyed.split distinct there
  have place : (named (before ++ m :: rest)).indexOf? m.nick = some before.length := by
    have skipped : before.findIdx? (fun x => x.nick == m.nick) = none := by
      simpa [List.findIdx?_eq_none_iff] using fore
    rw [Table.indexOf?, named, List.findIdx?_map, List.findIdx?_append]
    simp [Function.comp_def, skipped, List.findIdx?_cons]
  -- nobody else is named `new` once there is room
  have room : (if m.nick = new then (before.length, named (before ++ m :: rest))
      else vacate new before.length (named (before ++ m :: rest))) =
      ((leaveOut new before).length, named (leaveOut new before ++ m :: leaveOut new rest)) := by
    split
    · rename_i same
      subst same
      simp only [leaveOut, Keyed.filter_others fore, Keyed.filter_others aft]
    · rename_i other
      exact vacate_named distinct other
  have found : (named (leaveOut new before ++ m :: leaveOut new rest)).entries[
      (leaveOut new before).length]? = some (m.nick, m) := by
    simp [named]
  have taken : (named (leaveOut new before ++ m :: leaveOut new rest)).eraseAt
      (leaveOut new before).length = named (leaveOut new before ++ leaveOut new rest) := by
    simp [named, Table.eraseAt, List.eraseIdx_append_of_length_le]
  have placed : (named (leaveOut new before ++ leaveOut new rest)).insertAt
      (leaveOut new before).length new { m with nick := new } =
      named (leaveOut new before ++ { m with nick := new } :: leaveOut new rest) :=
    insertAt_named { m with nick := new } (not_mem_leaveOut new before) (not_mem_leaveOut new rest)
  simp only [rename, place, room, found, taken, placed, renameIn_split rfl fore]

end Renaming

section Histories
variable {members : List Member}

/-- Every change is the edit of the list that goes by its name. -/
theorem after_named (distinct : (members.map Member.nick).Nodup) (symbols : SymbolMap) (c : Change) :
    (Roster.mk (named members) symbols).after c =
      ⟨named (c.edit symbols members), c.symbolsAfter symbols⟩ := by
  cases c with
  | inserted nick status => exact insert_named symbols members nick status
  | removed nick => exact congrArg (Roster.mk · symbols) (erase_named distinct nick)
  | renamed old new =>
    simp only [after, Change.edit]
    by_cases there : old ∈ members.map Member.nick
    · rw [rename_named distinct symbols there]
      rfl
    · have absent : old ∉ (Roster.mk (named members) symbols).nicks := by
        rw [nicks, keys_named]
        exact there
      rw [rename_absent absent, renameIn_absent (Keyed.not_mem_keys.mp there)]
      rfl
  | listed everyone => exact setMembers_eq _ everyone
  | cleared => rfl
  | ranked symbols => simp [after, setSymbols, Change.edit, Change.symbolsAfter, named, Table.map]

theorem afterAll_named (distinct : (members.map Member.nick).Nodup) (symbols : SymbolMap)
    (changes : List Change) : (Roster.mk (named members) symbols).afterAll changes =
      ⟨named (editAll symbols members changes), changes.foldl Change.symbolsAfter symbols⟩ := by
  induction changes generalizing symbols members with
  | nil => rfl
  | cons c rest ih =>
    have first := after_named distinct symbols c
    have others := ih (nodup_edit distinct symbols c) (c.symbolsAfter symbols)
    rw [← first] at others
    exact others

theorem nodup_afterAll (changes : List Change) : (({} : Roster).afterAll changes).nicks.Nodup := by
  have nobody : (([] : List Member).map Member.nick).Nodup := List.nodup_nil
  have made : ({} : Roster).afterAll changes = _ := afterAll_named nobody .standard changes
  rw [made, nicks, keys_named]
  exact nodup_editAll nobody .standard changes

end Histories

/-- After any changes to a new roster its members are the edits of the list, one after the other, each under
its own nick, and no nick comes twice. A member that is not there cannot be renamed, and one who gets the
old nick again stays as is. When everyone is listed, a nick keeps its first place and has its last status;
new symbols change no nick, no status and no place. -/
theorem list_without_duplicates (changes : List Change) :
    let r := ({} : Roster).afterAll changes
    r.members = editAll .standard [] changes ∧
    r.nicks.Nodup ∧
    (∀ e ∈ r.table.entries, e.2.nick = e.1) ∧
    (∀ nick m, r.get? nick = some m ↔ m ∈ r.members ∧ m.nick = nick) ∧
    (∀ nick m, (r.remove nick).1 = some m ↔ m ∈ r.members ∧ m.nick = nick) ∧
    (∀ old new, r.rename old new =
      if old ∈ r.nicks then (true, { r with table := named (renameIn old new r.members) })
      else (false, r)) ∧
    (∀ nick, (r.rename nick nick).2 = r) ∧
    (∀ listed, (r.setMembers listed).nicks = (listed.map Prod.fst).eraseDups ∧
      ∀ m ∈ (r.setMembers listed).members,
        (listed.reverse.find? fun x => x.1 == m.nick).map Prod.snd = some m.status) ∧
    (∀ symbols, (r.setSymbols symbols).members.map (fun m => (m.nick, m.status)) =
      r.members.map fun m => (m.nick, m.status)) := by
  have nobody : (([] : List Member).map Member.nick).Nodup := List.nodup_nil
  have distinct := nodup_editAll nobody .standard changes
  have made : ({} : Roster).afterAll changes = _ := afterAll_named nobody .standard changes
  generalize editAll .standard [] changes = members at distinct made ⊢
  intro r
  have once : r.nicks.Nodup := nodup_afterAll changes
  have table : r.table = named members := congrArg Roster.table made
  have looked (nick : String) (m : Member) : r.get? nick = some m ↔ m ∈ r.members ∧ m.nick = nick := by
    rw [get?, Table.get?_eq_some once, Roster.members, table, values_named, mem_named]
  refine ⟨by rw [Roster.members, table, values_named], once, ?_, looked, looked, ?_, ?_, ?_, ?_⟩
  all_goals simp only [r, made, Roster.members, nicks, values_named, keys_named]
  · intro e there
    exact (mem_named.mp there).2
  · intro old new
    split
    · rename_i there
      exact rename_named distinct _ there new
    · rename_i absent
      exact rename_absent (by rwa [nicks, keys_named]) new
  · intro nick
    by_cases there : nick ∈ members.map Member.nick
    · rw [rename_named distinct _ there, renameIn_self distinct]
    · rw [rename_absent (by rwa [nicks, keys_named])]
  · intro listed
    rw [setMembers_eq, values_named, keys_named]
    exact ⟨nicks_putAll _ listed, fun m member => status_putAll member⟩
  · intro symbols
    simp [setSymbols, named, Table.map, Table.values]

example :
    let r := ({} : Roster).afterAll [.listed [("ann", none), ("bo", some '@'), ("cy", none)],
      .renamed "cy" "ann", .inserted "bo" none]
    r.members.map (fun m => (m.nick, m.status)) = [("bo", none), ("ann", none)] := by decide

end ChatDisplay.Roster
