import ChatDisplay.Json.Records
import ChatDisplay.Proofs.Json.Variants

namespace ChatDisplay.Serial
open Json

/-- However the value is written, it is read as the same value. -/
def ReadsBack {α : Type} [Serial α] (a : α) : Prop := ∀ j, Variant (encode a) j → decode? j = some a

class Lawful (α : Type) [Serial α] : Prop where
  reads : ∀ a : α, ReadsBack a

/-- No value is written as null, so that null can stand for nothing. -/
class Solid (α : Type) [Serial α] : Prop where
  encode_ne_null : ∀ a : α, encode a ≠ .null

/-- Every value is read back, and what was read, however it was written, is written and read as the same. -/
structure Faithful (α : Type) [Serial α] : Prop where
  reads : ∀ a : α, ReadsBack a
  settles : ∀ (j : Json) (a : α), decode? j = some a → decode? (encode a) = some a

section Values

instance : Lawful Bool where
  reads b j written := by
    cases written
    rfl

instance : Lawful String where
  reads s j written := by
    cases written
    rfl

instance : Lawful Char where
  reads c j written := by
    cases written
    simp [encode, decode?]

theorem natBelow?_of_lt {n bound : Nat} (small : n < bound) :
    natBelow? bound (.integer n) = some n := by
  have range : 0 ≤ (n : Int) ∧ (n : Int) < bound := by omega
  simp [natBelow?, range]

instance : Lawful UInt8 where
  reads n j written := by
    cases written
    simp [encode, decode?, natBelow?_of_lt n.toNat_lt_size]

instance : Lawful UInt64 where
  reads n j written := by
    cases written
    simp [encode, decode?, natBelow?_of_lt n.toNat_lt_size]

instance : Solid UInt8 := ⟨fun _ => nofun⟩
instance : Solid Char := ⟨fun _ => nofun⟩
instance : Solid String := ⟨fun _ => nofun⟩
instance : Solid Color := ⟨fun _ => nofun⟩
instance {α : Type} [Serial α] : Solid (List α) := ⟨fun _ => nofun⟩

theorem decode?_some {α : Type} [Serial α] {j : Json} (other : j ≠ .null) :
    (decode? j : Option (Option α)) = (decode? j : Option α).map some := by
  cases j with
  | null => contradiction
  | _ => rfl

variable {α : Type} [Serial α] [Lawful α]

instance [Solid α] : Lawful (Option α) where
  reads a j written := by
    cases a with
    | none =>
      cases written
      rfl
    | some a =>
      have other : j ≠ .null := by
        rintro rfl
        exact Solid.encode_ne_null a written.of_null
      rw [decode?_some other, Lawful.reads a j written, Option.map_some]

theorem mapM_eq_some {β : Type} {f : Json → Option β} {items : List Json} {bs : List β} :
    items.mapM f = some bs ↔ List.Forall₂ (fun j b => f j = some b) items bs := by
  induction items generalizing bs with
  | nil => simp [eq_comm]
  | cons j items ih =>
    simp only [List.mapM_cons, Option.bind_eq_bind, Option.pure_def, Option.bind_eq_some_iff, ih,
      Option.some.injEq, List.forall₂_cons_left_iff]
    constructor
    · rintro ⟨b, first, rest, later, rfl⟩
      exact ⟨b, rest, first, later, rfl⟩
    · rintro ⟨b, rest, first, later, rfl⟩
      exact ⟨b, first, rest, later, rfl⟩

instance : Lawful (List α) where
  reads as j written := by
    obtain ⟨items, rfl, each⟩ := written.of_array
    rw [List.forall₂_map_left_iff] at each
    exact mapM_eq_some.mpr (each.imp Lawful.reads).flip

theorem present_reads {a : α} {j : Json} (written : Variant (encode a) j) :
    present (some j) = some a := Lawful.reads a j written

theorem orNone_reads [Solid α] {a : Option α} {j : Json} (written : Variant (encode a) j) :
    orNone (some j) = some a := Lawful.reads a j written

theorem orDefault_reads {a value : α} {j : Json} (written : Variant (encode a) j) :
    orDefault value (some j) = some a := Lawful.reads a j written

theorem Lawful.faithful : Faithful α := ⟨Lawful.reads, fun _ a _ => Lawful.reads a _ (.same _)⟩

end Values

section Records

instance : Lawful Color where
  reads c j written := by
    match written.fields_found (by simp) with
    | ⟨_, .cons red (.cons green (.cons blue .nil)), found⟩ =>
      simp only [List.map] at found
      simp [decode?, found, present_reads red, present_reads green, present_reads blue]

instance : Lawful Style where
  reads s j written := by
    match written.fields_found (by simp) with
    | ⟨_, .cons fg (.cons bg (.cons bold (.cons italic (.cons underline (.cons strikethrough
        (.cons reverse .nil)))))), found⟩ =>
      simp only [List.map] at found
      simp [decode?, found, orNone_reads fg, orNone_reads bg, present_reads bold,
        present_reads italic, present_reads underline, present_reads strikethrough,
        present_reads reverse]

instance : Lawful Font where
  reads f j written := by
    cases written
    cases f <;> rfl

instance : Lawful Appearance where
  reads a j written := by
    match written.fields_found (by simp) with
    | ⟨_, .cons fg (.cons bg (.cons font (.cons underline (.cons strikethrough .nil)))), found⟩ =>
      simp only [List.map] at found
      simp [decode?, found, present_reads fg, orNone_reads bg, present_reads font,
        present_reads underline, present_reads strikethrough]

instance : Lawful Run where
  reads r j written := by
    match written.fields_found (by simp) with
    | ⟨_, .cons text (.cons style (.cons resolved .nil)), found⟩ =>
      simp only [List.map] at found
      simp [decode?, found, present_reads text, present_reads style, present_reads resolved]

instance : Lawful Tier where
  reads t j written := by
    cases written
    cases t <;> rfl

instance : Lawful Member where
  reads m j written := by
    match written.fields_found (by simp) with
    | ⟨_, .cons nick (.cons status (.cons tier .nil)), found⟩ =>
      simp only [List.map] at found
      simp [decode?, found, present_reads nick, orNone_reads status, present_reads tier]

instance : Lawful Entry where
  reads e j written := by
    match written.fields_found (by simp) with
    | ⟨_, .cons nick (.cons status (.cons tier (.cons color .nil))), found⟩ =>
      simp only [List.map] at found
      simp [decode?, found, present_reads nick, orNone_reads status, present_reads tier,
        orNone_reads color]

instance : Lawful ConversationId where
  reads id j written := by
    have value : decode? j = some id.value := Lawful.reads id.value j written
    change (decode? j).map ConversationId.mk = some id
    rw [value, Option.map_some]

instance : Lawful ConversationKind where
  reads k j written := by
    cases written
    cases k <;> rfl

instance : Lawful Tab where
  reads t j written := by
    match written.fields_found (by simp) with
    | ⟨_, .cons id (.cons kind (.cons name .nil)), found⟩ =>
      simp only [List.map] at found
      simp [decode?, found, present_reads id, present_reads kind, present_reads name]

instance : Lawful Server where
  reads s j written := by
    match written.fields_found (by simp) with
    | ⟨_, .cons name (.cons children .nil), found⟩ =>
      simp only [List.map] at found
      simp [decode?, found, present_reads name, present_reads children]

instance : Lawful Listing where
  reads l j written := by
    match written.fields_found (by simp) with
    | ⟨_, .cons servers .nil, found⟩ =>
      simp only [List.map] at found
      simp [decode?, found, present_reads servers]

instance : Lawful Settings where
  reads s j written := by
    match written.fields_found (by simp) with
    | ⟨_, .cons suffix (.cons encoding (.cons strip (.cons palette .nil))), found⟩ =>
      simp only [List.map] at found
      simp [decode?, someFields?_of_fields? found, orDefault_reads suffix, orNone_reads encoding,
        orDefault_reads strip, orNone_reads palette]

end Records

section Tallies
variable {bound : Nat} {c : Counts}

def Fits (c : Counts) : Prop := ∀ t, c.count t < UInt64.size

theorem mapM_natBelow? {ns : List Nat} {items : List Json} (small : ∀ n ∈ ns, n < bound)
    (each : List.Forall₂ Variant (ns.map fun n : Nat => .integer n) items) :
    items.mapM (natBelow? bound) = some ns := by
  rw [List.forall₂_map_left_iff] at each
  have both := (List.forall₂_and_left _ _).mpr ⟨small, each⟩
  refine mapM_eq_some.mpr (both.imp ?_).flip
  rintro n j ⟨small, written⟩
  cases written
  exact natBelow?_of_lt small

theorem natBelow?_lt {j : Json} {n : Nat} (read : natBelow? bound j = some n) : n < bound := by
  cases j with
  | integer k =>
    simp only [natBelow?] at read
    split at read
    · rename_i range
      obtain rfl := Option.some.inj read
      omega
    · contradiction
  | _ => contradiction

theorem counts_read (fits : Fits c) : ReadsBack c := by
  intro j written
  match written.fields_found (by simp) with
  | ⟨_, .cons tiers .nil, found⟩ =>
    obtain ⟨others, rfl, each⟩ := tiers.of_array
    have small : ∀ n ∈ [c.ordinary, c.voice, c.halfOp, c.op, c.admin, c.owner], n < UInt64.size := by
      simp only [List.forall_mem_cons]
      exact ⟨fits .ordinary, fits .voice, fits .halfOp, fits .op, fits .admin, fits .owner, by simp⟩
    have numbers := mapM_natBelow? small each
    simp only [List.map] at found
    simp [decode?, found, numbers]

theorem counts_fit {j : Json} (read : decode? j = some c) : Fits c := by
  simp only [decode?, Option.bind_eq_bind, Option.bind_eq_some_iff] at read
  obtain ⟨found, -, read⟩ := read
  split at read
  · simp only [Option.bind_eq_some_iff] at read
    obtain ⟨numbers, taken, read⟩ := read
    split at read
    · obtain rfl := Option.some.inj read
      match mapM_eq_some.mp taken with
      | .cons ordinary (.cons voice (.cons halfOp (.cons op (.cons admin (.cons owner .nil))))) =>
        intro t
        cases t with
        | ordinary => exact natBelow?_lt ordinary
        | voice => exact natBelow?_lt voice
        | halfOp => exact natBelow?_lt halfOp
        | op => exact natBelow?_lt op
        | admin => exact natBelow?_lt admin
        | owner => exact natBelow?_lt owner
    · contradiction
  · contradiction

theorem counts_read_iff : ReadsBack c ↔ Fits c :=
  ⟨fun reads => counts_fit (reads _ (.same _)), counts_read⟩

end Tallies

/-- Every record is read back from whatever it can be written as, and so is all that was ever read. Only
counts that are no numbers of 64 bits are not, and none of those is ever read. -/
theorem records_read_back :
    Faithful Color ∧ Faithful Style ∧ Faithful Font ∧ Faithful Appearance ∧ Faithful Run ∧
    Faithful Tier ∧ Faithful Member ∧ Faithful Entry ∧ Faithful ConversationId ∧
    Faithful ConversationKind ∧ Faithful Tab ∧ Faithful Server ∧ Faithful Listing ∧
    Faithful Settings ∧ (∀ c : Counts, ReadsBack c ↔ Fits c) ∧
    ∀ (j : Json) (c : Counts), decode? j = some c → decode? (encode c) = some c := by
  refine ⟨Lawful.faithful, Lawful.faithful, Lawful.faithful, Lawful.faithful, Lawful.faithful,
    Lawful.faithful, Lawful.faithful, Lawful.faithful, Lawful.faithful, Lawful.faithful,
    Lawful.faithful, Lawful.faithful, Lawful.faithful, Lawful.faithful, fun _ => counts_read_iff, ?_⟩
  intro j c read
  exact counts_read (counts_fit read) _ (.same _)

/-- Other members are passed over, but an array has to have all fields. -/
example : decode? (.object [("b", .integer 3), ("alpha", .array []), ("r", .integer 1),
      ("g", .integer 2)]) = some (⟨1, 2, 3⟩ : Color) ∧
    decode? (.array [.integer 1, .integer 2]) = (none : Option Color) := by
  decide

end ChatDisplay.Serial
