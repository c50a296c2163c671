import ChatDisplay.Proofs.Markup.Visible

/-! A sequence of one to four bytes spells a code point with the bits that the marks of its bytes leave free.
It counts only if no shorter sequence could spell the same, and if the code point is that of a character,
neither a surrogate nor beyond the last one. -/
namespace ChatDisplay

namespace Charset

theorem toNat_ofNat {n : Nat} (valid : n.isValidChar) : (Char.ofNat n).toNat = n := by
  rw [Char.ofNat, dif_pos valid]
  rfl

theorem toNat_ofNat_byte (b : UInt8) : (Char.ofNat b.toNat).toNat = b.toNat := by
  have top := b.toNat_lt
  exact toNat_ofNat (.inl (by omega))

namespace Utf8

/-- The number beside the mark of a byte. -/
def field (mark size : Nat) (b : UInt8) : Option Nat :=
  if mark ≤ b.toNat ∧ b.toNat < mark + size then some (b.toNat - mark) else none

/-- The number that the bytes spell, if their marks say that they belong together. -/
def number? : List UInt8 → Option Nat
  | [a] => field 0x00 0x80 a
  | [a, b] => do
    let x ← field 0xc0 0x20 a
    let y ← field 0x80 0x40 b
    return x * 0x40 + y
  | [a, b, c] => do
    let x ← field 0xe0 0x10 a
    let y ← field 0x80 0x40 b
    let z ← field 0x80 0x40 c
    return (x * 0x40 + y) * 0x40 + z
  | [a, b, c, d] => do
    let w ← field 0xf0 0x08 a
    let x ← field 0x80 0x40 b
    let y ← field 0x80 0x40 c
    let z ← field 0x80 0x40 d
    return ((w * 0x40 + x) * 0x40 + y) * 0x40 + z
  | _ => none

/-- The least number for which so many bytes are needed. -/
def least : Nat → Nat
  | 0 | 1 => 0
  | 2 => 0x80
  | 3 => 0x800
  | _ => 0x10000

/-- The bytes are the one sequence for a code point. -/
structure Spells (part : List UInt8) (n : Nat) : Prop where
  bits : number? part = some n
  shortest : least part.length ≤ n
  noSurrogate : n < 0xd800 ∨ 0xdfff < n
  withinUnicode : n ≤ 0x10ffff

def WellFormed (raw : List UInt8) : Prop :=
  ∃ parts : List (List UInt8), parts.flatten = raw ∧ ∀ part ∈ parts, ∃ n, Spells part n

section Sequences

theorem field_eq_some {mark size n : Nat} {b : UInt8} :
    field mark size b = some n ↔ n < size ∧ b.toNat = n + mark := by
  rw [field]
  split
  · simp only [Option.some.injEq]
    omega
  · simp only [reduceCtorEq, false_iff]
    omega

theorem field_ofNat {mark size n : Nat} (fits : n < size) (byte : mark + size ≤ 0x100) :
    field mark size (UInt8.ofNat (n + mark)) = some n := by
  rw [field_eq_some, UInt8.toNat_ofNat']
  omega

theorem ofNat_field {mark size n : Nat} {b : UInt8} (found : field mark size b = some n) :
    n < size ∧ b = UInt8.ofNat (n + mark) := by
  obtain ⟨fits, value⟩ := field_eq_some.mp found
  exact ⟨fits, by rw [← value, UInt8.ofNat_toNat]⟩

section Encoding
variable {n : Nat}

/-- The bytes that a code point is written with. -/
def encode (n : Nat) : List UInt8 :=
  if n ≤ 0x7f then [UInt8.ofNat n]
  else if n ≤ 0x7ff then [UInt8.ofNat (n / 64 % 32 + 0xc0), UInt8.ofNat (n % 64 + 0x80)]
  else if n ≤ 0xffff then
    [UInt8.ofNat (n / 4096 % 16 + 0xe0), UInt8.ofNat (n / 64 % 64 + 0x80), UInt8.ofNat (n % 64 + 0x80)]
  else
    [UInt8.ofNat (n / 262144 % 8 + 0xf0), UInt8.ofNat (n / 4096 % 64 + 0x80),
      UInt8.ofNat (n / 64 % 64 + 0x80), UInt8.ofNat (n % 64 + 0x80)]

theorem encode_eq (c : Char) : String.utf8EncodeChar c = encode c.toNat := rfl

theorem number?_encode (within : n ≤ 0x10ffff) :
    number? (encode n) = some n ∧ least (encode n).length ≤ n := by
  have tail (m : Nat) : field 0x80 0x40 (UInt8.ofNat (m % 64 + 0x80)) = some (m % 64) :=
    field_ofNat (Nat.mod_lt m (by decide)) (by decide)
  rw [encode]
  split
  · rename_i one
    have only : field 0x00 0x80 (UInt8.ofNat n) = some n :=
      @field_ofNat 0x00 0x80 n (Nat.lt_succ_of_le one) (by decide)
    exact ⟨only, Nat.zero_le n⟩
  · rename_i longer
    split
    · have lead : field 0xc0 0x20 (UInt8.ofNat (n / 64 % 32 + 0xc0)) = some (n / 64 % 32) :=
        field_ofNat (Nat.mod_lt _ (by decide)) (by decide)
      have sum : n / 64 % 32 * 0x40 + n % 64 = n := by omega
      rw [number?, lead, tail]
      exact ⟨congrArg some sum, Nat.lt_of_not_le longer⟩
    · rename_i longer
      split
      · have lead : field 0xe0 0x10 (UInt8.ofNat (n / 4096 % 16 + 0xe0)) = some (n / 4096 % 16) :=
          field_ofNat (Nat.mod_lt _ (by decide)) (by decide)
        have sum : (n / 4096 % 16 * 0x40 + n / 64 % 64) * 0x40 + n % 64 = n := by omega
        rw [number?, lead, tail, tail]
        exact ⟨congrArg some sum, Nat.lt_of_not_le longer⟩
      · rename_i longer
        have lead : field 0xf0 0x08 (UInt8.ofNat (n / 262144 % 8 + 0xf0)) = some (n / 262144 % 8) :=
          field_ofNat (Nat.mod_lt _ (by decide)) (by decide)
        have sum : ((n / 262144 % 8 * 0x40 + n / 4096 % 64) * 0x40 + n / 64 % 64) * 0x40 + n % 64 =
            n := by omega
        rw [number?, lead, tail, tail, tail]
        exact ⟨congrArg some sum, Nat.lt_of_not_le longer⟩

theorem encode_of_number? {part : List UInt8} (bits : number? part = some n)
    (shortest : least part.length ≤ n) : encode n = part := by
  match part with
  | [] => contradiction
  | [a] =>
    obtain ⟨fits, rfl⟩ := ofNat_field bits
    have one : n ≤ 0x7f := Nat.le_of_lt_succ fits
    rw [encode, if_pos one]
    rfl
  | [a, b] =>
    simp only [number?, Option.bind_eq_bind, Option.bind_eq_some_iff] at bits
    obtain ⟨x, hx, y, hy, sum⟩ := bits
    obtain ⟨lead, rfl⟩ := ofNat_field hx
    obtain ⟨last, rfl⟩ := ofNat_field hy
    cases sum
    have longer : ¬ x * 0x40 + y ≤ 0x7f := Nat.not_le_of_lt shortest
    have first : (x * 0x40 + y) / 64 % 32 = x := by omega
    have second : (x * 0x40 + y) % 64 = y := by omega
    rw [encode, if_neg longer, if_pos (by omega), first, second]
  | [a, b, c] =>
    simp only [number?, Option.bind_eq_bind, Option.bind_eq_some_iff] at bits
    obtain ⟨x, hx, y, hy, z, hz, sum⟩ := bits
    obtain ⟨lead, rfl⟩ := ofNat_field hx
    obtain ⟨middle, rfl⟩ := ofNat_field hy
    obtain ⟨last, rfl⟩ := ofNat_field hz
    cases sum
    have longer : ¬ (x * 0x40 + y) * 0x40 + z ≤ 0x7ff := Nat.not_le_of_lt shortest
    have first : ((x * 0x40 + y) * 0x40 + z) / 4096 % 16 = x := by omega
    have second : ((x * 0x40 + y) * 0x40 + z) / 64 % 64 = y := by omega
    have third : ((x * 0x40 + y) * 0x40 + z) % 64 = z := by omega
    rw [encode, if_neg (by omega), if_neg longer, if_pos (by omega), first, second, third]
  | [a, b, c, d] =>
    simp only [number?, Option.bind_eq_bind, Option.bind_eq_some_iff] at bits
    obtain ⟨w, hw, x, hx, y, hy, z, hz, sum⟩ := bits
    obtain ⟨lead, rfl⟩ := ofNat_field hw
    obtain ⟨upper, rfl⟩ := ofNat_field hx
    obtain ⟨middle, rfl⟩ := ofNat_field hy
    obtain ⟨last, rfl⟩ := ofNat_field hz
    cases sum
    have longer : ¬ ((w * 0x40 + x) * 0x40 + y) * 0x40 + z ≤ 0xffff := Nat.not_le_of_lt shortest
    have first : (((w * 0x40 + x) * 0x40 + y) * 0x40 + z) / 262144 % 8 = w := by omega
    have second : (((w * 0x40 + x) * 0x40 + y) * 0x40 + z) / 4096 % 64 = x := by omega
    have third : (((w * 0x40 + x) * 0x40 + y) * 0x40 + z) / 64 % 64 = y := by omega
    have fourth : (((w * 0x40 + x) * 0x40 + y) * 0x40 + z) % 64 = z := by omega
    rw [encode, if_neg (by omega), if_neg (by omega), if_neg longer, first, second, third, fourth]
  | _ :: _ :: _ :: _ :: _ :: _ => contradiction

end Encoding

theorem spells_iff {part : List UInt8} {n : Nat} :
    Spells part n ↔ ∃ c : Char, c.toNat = n ∧ String.utf8EncodeChar c = part := by
  constructor
  · intro spells
    have valid : n.isValidChar := by
      have := spells.noSurrogate
      have := spells.withinUnicode
      simp only [Nat.isValidChar]
      omega
    have value := toNat_ofNat valid
    refine ⟨Char.ofNat n, value, ?_⟩
    rw [encode_eq, value]
    exact encode_of_number? spells.bits spells.shortest
  · rintro ⟨c, rfl, rfl⟩
    have valid : c.toNat < 0xd800 ∨ 0xdfff < c.toNat ∧ c.toNat < 0x110000 := c.valid
    have within : c.toNat ≤ 0x10ffff := by omega
    obtain ⟨bits, shortest⟩ := number?_encode within
    exact ⟨bits, shortest, by omega, within⟩

end Sequences

theorem chars_spelled {parts : List (List UInt8)} (spelled : ∀ part ∈ parts, ∃ n, Spells part n) :
    ∃ cs : List Char, Text.bytes cs = parts.flatten := by
  induction parts with
  | nil => exact ⟨[], rfl⟩
  | cons part rest ih =>
    obtain ⟨n, first⟩ := spelled part List.mem_cons_self
    obtain ⟨c, -, rfl⟩ := spells_iff.mp first
    obtain ⟨cs, others⟩ := ih fun later there => spelled later (List.mem_cons_of_mem _ there)
    exact ⟨c :: cs, by rw [Text.bytes_cons, others, List.flatten_cons]⟩

theorem wellFormed_iff (raw : ByteArray) :
    WellFormed raw.data.toList ↔ ∃ text : String, text.toUTF8 = raw := by
  constructor
  · rintro ⟨parts, whole, spelled⟩
    obtain ⟨cs, same⟩ := chars_spelled spelled
    refine ⟨String.ofList cs, ByteArray.ext (Array.toList_inj.mp ?_)⟩
    rw [Text.toUTF8_bytes, String.toList_ofList, same, whole]
  · rintro ⟨text, rfl⟩
    refine ⟨text.toList.map String.utf8EncodeChar, ?_, ?_⟩
    · rw [Text.toUTF8_bytes, Text.bytes, List.flatMap_def]
    · intro part there
      obtain ⟨c, -, rfl⟩ := List.mem_map.mp there
      exact ⟨c.toNat, spells_iff.mpr ⟨c, rfl, rfl⟩⟩

end Utf8

end Charset

namespace Fallback

theorem decode_other {raw : ByteArray} (other : ¬ Charset.Utf8.WellFormed raw.data.toList)
    (f : Fallback) : f.decode raw = String.ofList (f.decodeBytes raw.data.toList) := by
  have invalid : ¬ raw.IsValidUTF8 := by
    rintro ⟨cs, rfl⟩
    refine other ((Charset.Utf8.wellFormed_iff _).mpr ⟨String.ofList cs, ?_⟩)
    rw [String.toUTF8_eq_toByteArray, String.toByteArray_ofList]
  have none : String.fromUTF8? raw = none := dif_neg invalid
  rw [decode, none]

/-- The bytes of a text are read as that text, whatever the fallback. Bytes are those of a text just if
they are made up of shortest sequences that spell characters. All other bytes are one character each in
Latin-1, the one with the byte as its code point, and the characters give the bytes back. -/
theorem utf8_first (f g : Fallback) (palette : Palette) (stripped : Bool) (text : String)
    (raw : ByteArray) :
    f.decode text.toUTF8 = text ∧
    Scanner.read ⟨palette, f, stripped⟩ text.toUTF8 =
      Scanner.read ⟨palette, g, stripped⟩ text.toUTF8 ∧
    (Charset.Utf8.WellFormed raw.data.toList ↔ ∃ text : String, text.toUTF8 = raw) ∧
    (¬ Charset.Utf8.WellFormed raw.data.toList →
      let chars := (latin1.decode raw).toList
      chars.map Char.toNat = raw.data.toList.map UInt8.toNat ∧
      chars.map (fun c => UInt8.ofNat c.toNat) = raw.data.toList) := by
  refine ⟨f.decode_utf8 text, ?_, Charset.Utf8.wellFormed_iff raw, ?_⟩
  · simp only [Scanner.read, decode_utf8]
    rfl
  · intro other chars
    have each : chars = raw.data.toList.map fun b => Char.ofNat b.toNat := by
      simp only [chars, decode_other other, String.toList_ofList]
      rfl
    constructor
    · rw [each, List.map_map]
      exact List.map_congr_left fun b _ => Charset.toNat_ofNat_byte b
    · have back (b : UInt8) : UInt8.ofNat (Char.ofNat b.toNat).toNat = b := by
        rw [Charset.toNat_ofNat_byte, UInt8.ofNat_toNat]
      rw [each, List.map_map]
      exact (List.map_congr_left fun b _ => back b).trans (List.map_id _)

/-- The mark at the beginning of a text stays; a sequence that is longer than it need be is no UTF-8. -/
example : latin1.decode ⟨#[0xef, 0xbb, 0xbf, 0x61]⟩ = "\uFEFFa" ∧
    latin1.decode ⟨#[0xc0, 0xaf]⟩ = "À¯" := by decide +kernel

end Fallback

end ChatDisplay
