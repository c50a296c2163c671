import ChatDisplay.Proofs.Roster.Announcement
import Mathlib.Data.List.Basic

namespace ChatDisplay

namespace Tier

theorem le_owner (t : Tier) : t ≤ .owner := by
  cases t <;> decide

theorem ordinary_le (t : Tier) : .ordinary ≤ t := Nat.zero_le t.rank

/-- The tier that a mode letter grants. -/
def granted? (mode : Char) : Option Tier :=
  [('q', .owner), ('a', .admin), ('o', .op), ('h', .halfOp), ('v', .voice)].lookup mode

/-- The usual tier of a symbol. -/
def usual? (symbol : Char) : Option Tier :=
  [('~', .owner), ('&', .admin), ('@', .op), ('%', .halfOp), ('+', .voice)].lookup symbol

theorem ofModeLetter?_eq (mode : Char) : ofModeLetter? mode = granted? mode := by
  simp only [ofModeLetter?, granted?, all, List.find?_cons, List.lookup_cons, modeLetter,
    Option.some_beq_some, Option.none_beq_some, BEq.comm (b := mode), List.find?_nil,
    List.lookup_nil]

theorem usual?_eq (symbol : Char) : usual? symbol =
    if ofSymbol (some symbol) = .ordinary then none else some (ofSymbol (some symbol)) := by
  unfold ofSymbol
  split
  case h_6 => grind [usual?]
  all_goals
    rename_i same
    obtain rfl := Option.some.inj same
    rfl

theorem badge_ofSymbol {status : Option Char} :
    ofSymbol status ≠ .ordinary → (ofSymbol status).badge = status := by
  fun_cases ofSymbol status with
  | case6 => exact fun ranked => absurd rfl ranked
  | _ => exact fun _ => rfl

theorem usual?_eq_some {t : Tier} {symbol : Char} : usual? symbol = some t ↔ t.badge = some symbol := by
  constructor
  · intro usual
    rw [usual?_eq] at usual
    split at usual
    · contradiction
    · rename_i ranked
      obtain rfl := Option.some.inj usual
      exact badge_ofSymbol ranked
  · intro badge
    cases t with
    | ordinary => contradiction
    | _ =>
      obtain rfl := Option.some.inj badge
      rfl

theorem modeLetter_of_granted? {t : Tier} {mode : Char} (granted : granted? mode = some t) :
    t.modeLetter = some mode := by
  rw [← ofModeLetter?_eq] at granted
  simpa using List.find?_some granted

end Tier

/-- The tiers that the symbols have of their own, place by place: the one that the mode letter at the place
grants, or else the usual one of the symbol. -/
def Announcement.ownTiers (a : Announcement) : List (Option Tier) :=
  a.symbols.mapIdx fun i symbol => (a.modes[i]?.bind Tier.granted?).or (Tier.usual? symbol)

namespace SymbolMap

theorem explicit?_eq (mode : Option Char) (symbol : Char) :
    explicit? mode symbol = (mode.bind Tier.granted?).or (Tier.usual? symbol) := by
  have letters : mode.bind Tier.ofModeLetter? = mode.bind Tier.granted? :=
    congrArg mode.bind (funext Tier.ofModeLetter?_eq)
  unfold explicit?
  rw [letters, Tier.usual?_eq]
  cases mode.bind Tier.granted? <;> rfl

theorem ordinary_not_mem_ownTiers (a : Announcement) : some .ordinary ∉ a.ownTiers := by
  intro there
  obtain ⟨i, inside, same⟩ := List.mem_mapIdx.mp there
  rcases Option.or_eq_some_iff.mp same with granted | ⟨-, usual⟩
  · obtain ⟨letter, -, granted⟩ := Option.bind_eq_some_iff.mp granted
    have letters := Tier.modeLetter_of_granted? granted
    contradiction
  · have badge := Tier.usual?_eq_some.mp usual
    contradiction

/-- Tiers in a row, where each that is missing is the one before it, and `above` is before all. -/
def inherit (above : Tier) : List (Option Tier) → List Tier
  | [] => []
  | own :: rest => own.getD above :: inherit (own.getD above) rest

/-- The tier is that of the nearest place up to `i` with a tier of its own, and `above` if there is none. -/
def FromNearest (above : Tier) (own : List (Option Tier)) (i : Nat) (t : Tier) : Prop :=
  (∃ j ≤ i, own[j]? = some (some t) ∧ ∀ k, j < k → k ≤ i → own[k]? = some none) ∨
    t = above ∧ ∀ k ≤ i, own[k]? = some none

section Inheriting
variable {above : Tier} {own : List (Option Tier)} {i : Nat} {t : Tier}

theorem FromNearest.cons {o : Option Tier} (later : FromNearest (o.getD above) own i t) :
    FromNearest above (o :: own) (i + 1) t := by
  have behind {j : Nat} (missing : ∀ k, j < k + 1 → k ≤ i → own[k]? = some none) :
      ∀ k, j < k → k ≤ i + 1 → (o :: own)[k]? = some none := by
    intro k after upTo
    cases k with
    | zero => omega
    | succ k => exact missing k after (by omega)
  rcases later with ⟨j, upTo, there, between⟩ | ⟨rfl, missing⟩
  · exact .inl ⟨j + 1, by omega, there, behind fun k after => between k (by omega)⟩
  · cases o with
    | some u => exact .inl ⟨0, by omega, rfl, behind fun k _ => missing k⟩
    | none =>
      refine .inr ⟨rfl, fun k upTo => ?_⟩
      cases k with
      | zero => rfl
      | succ k => exact missing k (by omega)

theorem inherit_nearest (there : (inherit above own)[i]? = some t) : FromNearest above own i t := by
  induction own generalizing above i with
  | nil => contradiction
  | cons o rest ih =>
    cases i with
    | succ i => exact (ih there).cons
    | zero =>
      obtain rfl : o.getD above = t := Option.some.inj there
      cases o with
      | some u => exact .inl ⟨0, by omega, rfl, fun k after upTo => by omega⟩
      | none => exact .inr ⟨rfl, fun k upTo => by simp [Nat.le_zero.mp upTo]⟩

theorem inherit_own (there : own[i]? = some (some t)) : (inherit above own)[i]? = some t := by
  induction own generalizing above i with
  | nil => contradiction
  | cons o rest ih =>
    cases i with
    | zero =>
      obtain rfl : o = some t := Option.some.inj there
      rfl
    | succ i => exact ih there

/-- If the tiers of their own never go up, no tier goes up. The tier in front stands for the last one that
was given out. -/
theorem inherit_descends (descending : (above :: own.filterMap id).Pairwise (· ≥ ·)) :
    (above :: inherit above own).Pairwise (· ≥ ·) := by
  induction own generalizing above with
  | nil => exact descending
  | cons o rest ih =>
    have step : o.getD above ≤ above ∧
        (o.getD above :: rest.filterMap id).Pairwise (· ≥ ·) := by
      cases o with
      | none => exact ⟨Nat.le_refl above.rank, descending⟩
      | some u =>
        obtain ⟨below, later⟩ := List.pairwise_cons.mp descending
        exact ⟨below u List.mem_cons_self, later⟩
    have later := ih step.2
    refine List.pairwise_cons.mpr ⟨?_, later⟩
    intro t there
    rcases List.mem_cons.mp there with rfl | there
    · exact step.1
    · exact Nat.le_trans ((List.pairwise_cons.mp later).1 t there) step.1

theorem tier_descends {tiers : List Tier} (descending : tiers.Pairwise (· ≥ ·)) {i j : Nat} (order : i ≤ j) :
    tiers[j]?.getD .ordinary ≤ tiers[i]?.getD .ordinary := by
  by_cases inside : j < tiers.length
  · have earlier : i < tiers.length := Nat.lt_of_le_of_lt order inside
    simp only [List.getElem?_eq_getElem inside, List.getElem?_eq_getElem earlier, Option.getD_some]
    rcases Nat.eq_or_lt_of_le order with rfl | before
    · exact Nat.le_refl _
    · exact List.pairwise_iff_getElem.mp descending i j earlier inside before
  · rw [List.getElem?_eq_none (Nat.le_of_not_lt inside)]
    exact Tier.ordinary_le _

theorem ordinary_not_mem_inherit (high : above ≠ .ordinary) (ranked : some .ordinary ∉ own) :
    .ordinary ∉ inherit above own := by
  induction own generalizing above with
  | nil => exact List.not_mem_nil
  | cons o rest ih =>
    have here : o.getD above ≠ .ordinary := by
      cases o with
      | none => exact high
      | some u =>
        rintro rfl
        exact ranked List.mem_cons_self
    intro there
    rcases List.mem_cons.mp there with same | later
    · exact here same.symm
    · exact ih here (fun member => ranked (List.mem_cons_of_mem o member)) later

end Inheriting

section Assigned
variable {a : Announcement} {c d : Char} {t : Tier}

theorem ownTiers_cons (modes symbols : List Char) (s : Char) :
    (Announcement.mk modes (s :: symbols)).ownTiers =
      explicit? modes.head? s :: (Announcement.mk modes.tail symbols).ownTiers := by
  simp [Announcement.ownTiers, explicit?_eq, List.mapIdx_cons, List.head?_eq_getElem?]

theorem symbols_assign (above : Tier) (modes symbols : List Char) :
    (assign above modes symbols).map Prod.fst = symbols := by
  induction symbols generalizing above modes with
  | nil => rfl
  | cons s symbols ih => simp [assign, ih]

theorem tiers_assign (above : Tier) (modes symbols : List Char) :
    (assign above modes symbols).map Prod.snd =
      inherit above (Announcement.mk modes symbols).ownTiers := by
  induction symbols generalizing above modes with
  | nil => rfl
  | cons s symbols ih => simp [assign, ownTiers_cons, inherit, ih]

theorem entries_symbols (a : Announcement) : (ofAnnouncement a).entries.map Prod.fst = a.symbols :=
  symbols_assign .owner a.modes a.symbols

theorem entries_tiers (a : Announcement) :
    (ofAnnouncement a).entries.map Prod.snd = inherit .owner a.ownTiers :=
  tiers_assign .owner a.modes a.symbols

theorem tierOf_first (a : Announcement) (c : Char) : (ofAnnouncement a).tierOf (some c) =
    ((inherit .owner a.ownTiers)[a.symbols.idxOf c]?).getD .ordinary := by
  -- the entry that is looked up stands at the first place of the symbol among the names
  rw [← entries_symbols, ← entries_tiers, List.idxOf, List.findIdx_map, List.getElem?_map, tierOf,
    List.find?_eq_getElem?_findIdx]
  simp only [Function.comp_def]
  cases (ofAnnouncement a).entries[(ofAnnouncement a).entries.findIdx fun e => e.1 == c]? <;> rfl

theorem tierOf_own (own : a.ownTiers[a.symbols.idxOf c]? = some (some t)) :
    (ofAnnouncement a).tierOf (some c) = t := by
  simp only [tierOf_first, inherit_own own, Option.getD_some]

theorem contains_iff : (ofAnnouncement a).contains c = true ↔ c ∈ a.symbols := by
  rw [← entries_symbols]
  simp [contains]

theorem contains_iff_ranked :
    (ofAnnouncement a).contains c = true ↔ (ofAnnouncement a).tierOf (some c) ≠ .ordinary := by
  have never : .ordinary ∉ (ofAnnouncement a).entries.map Prod.snd := by
    rw [entries_tiers]
    exact ordinary_not_mem_inherit nofun (ordinary_not_mem_ownTiers a)
  simp only [contains, List.any_eq_true, tierOf]
  split
  · rename_i e found
    have listed := List.mem_of_find?_eq_some found
    have same := List.find?_some found
    have ranked : e.2 ≠ .ordinary := fun lowest => never (lowest ▸ List.mem_map_of_mem listed)
    exact ⟨fun _ => ranked, fun _ => ⟨e, listed, same⟩⟩
  · rename_i absent
    constructor
    · rintro ⟨e, listed, same⟩
      exact absurd same (List.find?_eq_none.mp absent e listed)
    · intro ranked
      contradiction

theorem head_splitListed (m : SymbolMap) (name : String) :
    (m.splitListed name).1 = some c ↔ name.toList.head? = some c ∧ m.contains c = true := by
  unfold splitListed
  split
  · rename_i first rest chars
    split
    · rename_i listed
      simp only [chars, List.head?_cons, Option.some.injEq]
      exact ⟨fun same => ⟨same, same ▸ listed⟩, And.left⟩
    · rename_i unlisted
      simp only [chars, List.head?_cons, Option.some.injEq]
      exact ⟨nofun, fun ⟨same, listed⟩ => absurd (same ▸ listed) unlisted⟩
  · rename_i chars
    simp [chars]

theorem splitListed_whole (m : SymbolMap) (name : String) :
    (m.splitListed name).1.elim "" String.singleton ++ (m.splitListed name).2 = name := by
  unfold splitListed
  split
  · rename_i first rest chars
    split
    · rw [← String.toList_inj]
      simp [chars]
    · simp
  · simp

theorem ofText_ofAnnouncement (text : String) : ∃ a, ofText text = ofAnnouncement a := by
  unfold ofText
  split
  · rename_i a _
    exact ⟨a, rfl⟩
  · exact ⟨_, rfl⟩

theorem ofText_bare {text : String} (bare : Announcement.Bare text) :
    ofText text = ofAnnouncement ⟨[], text.toList⟩ := by
  have read := Announcement.parse?_eq_some_iff.mpr (.inr ⟨bare, rfl⟩)
  simp only [ofText, read]

end Assigned

/-- A symbol has its own tier or else that of the nearest symbol before it with one of its own, and the
highest if there is none. So if the tiers that symbols have of their own never go up, no tier goes up, and
of two symbols the one listed first ranks at least as high. -/
theorem ranking_descends (a : Announcement) :
    let m := ofAnnouncement a
    m.entries.map Prod.fst = a.symbols ∧
    (∀ i t, (m.entries.map Prod.snd)[i]? = some t → FromNearest .owner a.ownTiers i t) ∧
    ((a.ownTiers.filterMap id).Pairwise (· ≥ ·) →
      (m.entries.map Prod.snd).Pairwise (· ≥ ·) ∧
      ∀ c d, a.symbols.idxOf c ≤ a.symbols.idxOf d →
        m.tierOf (some d) ≤ m.tierOf (some c)) := by
  intro m
  have tiers : m.entries.map Prod.snd = inherit .owner a.ownTiers := entries_tiers a
  refine ⟨entries_symbols a, ?_, ?_⟩
  · intro i t there
    rw [tiers] at there
    exact inherit_nearest there
  · intro ownDescending
    have highest : ∀ t ∈ a.ownTiers.filterMap id, .owner ≥ t := fun t _ => t.le_owner
    have descending := inherit_descends (List.pairwise_cons.mpr ⟨highest, ownDescending⟩)
    have later := (List.pairwise_cons.mp descending).2
    refine ⟨tiers ▸ later, ?_⟩
    intro c d order
    rw [tierOf_first, tierOf_first]
    exact tier_descends later order

/-- The mode letter counts before the usual meaning, and the first of two equal symbols before the second. -/
example : (ofText "(Yoq)!@@*").entries =
      [('!', .owner), ('@', .op), ('@', .owner), ('*', .owner)] ∧
    (ofText "(Yoq)!@@*").tierOf (some '@') = .op := by decide

/-- The symbols that an announcement lists, those that rank a member above the ordinary ones, and those that
are taken off a listed name are the same. -/
theorem symbols_agree (text : String) :
    let m := ofText text
    (∀ c, m.contains c = true ↔ m.tierOf (some c) ≠ .ordinary) ∧
    (Announcement.Bare text →
      (∀ c, m.contains c = true ↔ c ∈ text.toList) ∧
      ∀ c ∈ text.toList, ∀ t, t.badge = some c → m.tierOf (some c) = t) ∧
    (∀ name c, (m.splitListed name).1 = some c ↔
      name.toList.head? = some c ∧ m.tierOf (some c) ≠ .ordinary) ∧
    ∀ name, (m.splitListed name).1.elim "" String.singleton ++ (m.splitListed name).2 = name := by
  intro m
  have ranked : ∀ c, m.contains c = true ↔ m.tierOf (some c) ≠ .ordinary := by
    obtain ⟨a, announced⟩ := ofText_ofAnnouncement text
    intro c
    simp only [m, announced]
    exact contains_iff_ranked
  refine ⟨ranked, ?_, ?_, m.splitListed_whole⟩
  · intro bare
    have alone : m = ofAnnouncement ⟨[], text.toList⟩ := ofText_bare bare
    rw [alone]
    refine ⟨fun c => contains_iff, ?_⟩
    intro c there t badge
    apply tierOf_own
    have usual := Tier.usual?_eq_some.mpr badge
    simp [Announcement.ownTiers, there, usual]
  · intro name c
    rw [← ranked c]
    exact m.head_splitListed name

example : (ofText "@+").splitListed "@+ann" = (some '@', "+ann") := by decide

end SymbolMap

end ChatDisplay
