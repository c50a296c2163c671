import ChatDisplay.Proofs.Markup.Safety

namespace ChatDisplay

namespace Color
open Text Scanner

def hexDigits : List Char := "0123456789abcdefABCDEF".toList

/-- The text is six digits, with or without a sign before them. -/
structure Spelled (digits : List Char) (s : String) : Prop where
  six : digits.length = 6
  hex : ∀ d ∈ digits, d ∈ hexDigits
  signed : s.toList = digits ∨ s.toList = '#' :: digits

section Digits
variable {c : Char} {n : Nat}

theorem hexDigit?_ascii (read : hexDigit? c = some n) : c.toNat < 0x80 := by
  have below {top : Char} (range : c ≤ top) (ascii : top.toNat < 0x80) : c.toNat < 0x80 :=
    Nat.lt_of_le_of_lt (Char.le_def.mp range) ascii
  simp only [hexDigit?] at read
  split at read
  · rename_i range
    exact below range.2 (by decide)
  · split at read
    · rename_i range
      exact below range.2 (by decide)
    · split at read
      · rename_i range
        exact below range.2 (by decide)
      · contradiction

theorem hexDigit?_reads (read : hexDigit? c = some n) :
    n < 16 ∧ hexDigit n = c.toLower ∧ c ∈ hexDigits := by
  have all : ∀ k < 0x80, ∀ n ∈ hexDigit? (Char.ofNat k),
      n < 16 ∧ hexDigit n = (Char.ofNat k).toLower ∧ Char.ofNat k ∈ hexDigits := by decide +kernel
  have here := all c.toNat (hexDigit?_ascii read)
  rw [Char.ofNat_toNat] at here
  exact here n read

theorem hexDigit?_some (digit : c ∈ hexDigits) : ∃ n, hexDigit? c = some n := by
  have all : (hexDigits.all fun d => (hexDigit? d).isSome) = true := by decide
  exact Option.isSome_iff_exists.mp (List.all_eq_true.mp all c digit)

theorem hexDigit_ascii (digit : c ∈ hexDigits) : c.toNat < 0x80 := by
  obtain ⟨n, read⟩ := hexDigit?_some digit
  exact hexDigit?_ascii read

end Digits

section Bytes
variable {high low : Char} {b : UInt8}

theorem hexByte?_some (first : high ∈ hexDigits) (second : low ∈ hexDigits) :
    ∃ b, hexByte? high low = some b := by
  obtain ⟨h, readHigh⟩ := hexDigit?_some first
  obtain ⟨l, readLow⟩ := hexDigit?_some second
  simp [hexByte?, readHigh, readLow]

theorem hexByte?_reads (read : hexByte? high low = some b) :
    hexByte b = [high.toLower, low.toLower] ∧ high ∈ hexDigits ∧ low ∈ hexDigits := by
  simp only [hexByte?] at read
  split at read
  · rename_i h l readHigh readLow
    obtain ⟨smallHigh, lowerHigh, digitHigh⟩ := hexDigit?_reads readHigh
    obtain ⟨smallLow, lowerLow, digitLow⟩ := hexDigit?_reads readLow
    obtain rfl := Option.some.inj read
    have value : (UInt8.ofNat (h * 16 + l)).toNat = h * 16 + l := by
      rw [UInt8.toNat_ofNat']
      omega
    have quotient : (h * 16 + l) / 16 = h := by omega
    have remainder : (h * 16 + l) % 16 = l := by omega
    simp only [hexByte, value, quotient, remainder, lowerHigh, lowerLow]
    exact ⟨trivial, digitHigh, digitLow⟩
  · contradiction

theorem hexByte?_hexByte (b : UInt8) :
    hexByte? (hexDigit (b.toNat / 16)) (hexDigit (b.toNat % 16)) = some b := by
  have top := b.toNat_lt
  have high : b.toNat / 16 < 16 := by omega
  have low : b.toNat % 16 < 16 := Nat.mod_lt _ (by decide)
  have whole : b.toNat / 16 * 16 + b.toNat % 16 = b.toNat := by omega
  simp [hexByte?, hexDigit?_hexDigit high, hexDigit?_hexDigit low, whole]

end Bytes

section Reading
variable {cs digits : List Char} {c : Color}

theorem ofDigits?_some (six : cs.length = 6) (hex : ∀ d ∈ cs, d ∈ hexDigits) :
    ∃ c, ofDigits? cs = some c := by
  match cs, six with
  | [r₁, r₀, g₁, g₀, b₁, b₀], _ =>
    simp only [List.forall_mem_cons] at hex
    obtain ⟨r, red⟩ := hexByte?_some hex.1 hex.2.1
    obtain ⟨g, green⟩ := hexByte?_some hex.2.2.1 hex.2.2.2.1
    obtain ⟨b, blue⟩ := hexByte?_some hex.2.2.2.2.1 hex.2.2.2.2.2.1
    exact ⟨⟨r, g, b⟩, by simp [ofDigits?, red, green, blue]⟩

theorem ofDigits?_reads (read : ofDigits? cs = some c) :
    cs.length = 6 ∧ (∀ d ∈ cs, d ∈ hexDigits) ∧ c.hex = String.ofList ('#' :: cs.map Char.toLower) := by
  simp only [ofDigits?] at read
  split at read
  · split at read
    · rename_i r g b red green blue
      obtain ⟨writtenRed, digitsRed⟩ := hexByte?_reads red
      obtain ⟨writtenGreen, digitsGreen⟩ := hexByte?_reads green
      obtain ⟨writtenBlue, digitsBlue⟩ := hexByte?_reads blue
      obtain rfl := Option.some.inj read
      simp [hex, writtenRed, writtenGreen, writtenBlue, digitsRed, digitsGreen, digitsBlue]
    · contradiction
  · contradiction

theorem sign_not_digit : '#' ∉ hexDigits := by decide

theorem spelled_iff {s : String} : Spelled digits s ↔
    dropSign s.toList = digits ∧ digits.length = 6 ∧ ∀ d ∈ digits, d ∈ hexDigits := by
  constructor
  · rintro ⟨six, hex, plain | signed⟩
    · refine ⟨?_, six, hex⟩
      rw [plain]
      cases digits with
      | nil => rfl
      | cons d digits =>
        have other : d ≠ '#' := fun same => sign_not_digit (same ▸ hex d List.mem_cons_self)
        simp [dropSign, other]
    · exact ⟨by rw [signed, dropSign], six, hex⟩
  · rintro ⟨rest, six, hex⟩
    refine ⟨six, hex, ?_⟩
    rw [← rest]
    cases s.toList with
    | nil => exact .inl rfl
    | cons d cs =>
      by_cases sign : d = '#'
      · subst sign
        exact .inr rfl
      · exact .inl (by simp [dropSign, sign])

end Reading

section Checked

def isDigitByte (b : UInt8) : Bool :=
  (0x30 ≤ b && b ≤ 0x39) || (0x41 ≤ b && b ≤ 0x46) || (0x61 ≤ b && b ≤ 0x66)

/-- The number that begins with `n` and goes on with these digits, unless it is too big for a byte. -/
def numberFrom? (n : Nat) : List Char → Option UInt8
  | [] => some (UInt8.ofNat n)
  | c :: cs => do
    let digit ← hexDigit? c
    if n * 16 + digit < 0x100 then numberFrom? (n * 16 + digit) cs else none

/-- The number of a text in base 16, in which a plus sign may stand before the digits. -/
def numberOf? (text : String) : Option UInt8 :=
  match text.toList with
  | [] | ['+'] | ['-'] => none
  | '+' :: cs => numberFrom? 0 cs
  | cs => numberFrom? 0 cs

def checkedChannel (digits : String) (start : Nat) : Except Fault (Option UInt8) := do
  let pair ← checkedSlice digits start (start + 2)
  return numberOf? pair

def checkedParse (s : String) : Except Fault (Option Color) := do
  let digits := String.ofList (dropSign s.toList)
  if digits.utf8ByteSize = 6 ∧ digits.toUTF8.data.toList.all isDigitByte = true then
    match ← checkedChannel digits 0 with
    | none => return none
    | some r =>
      match ← checkedChannel digits 2 with
      | none => return none
      | some g =>
        match ← checkedChannel digits 4 with
        | none => return none
        | some b => return some ⟨r, g, b⟩
  else return none

theorem isDigitByte_ascii {b : UInt8} (digit : isDigitByte b = true) : b.toNat < 0x80 := by
  simp only [isDigitByte, Bool.or_eq_true, Bool.and_eq_true, decide_eq_true_eq,
    UInt8.le_iff_toNat_le] at digit
  have tops : (0x39 : UInt8).toNat = 0x39 ∧ (0x46 : UInt8).toNat = 0x46 ∧ (0x66 : UInt8).toNat = 0x66 :=
    ⟨rfl, rfl, rfl⟩
  omega

theorem isDigitByte_encode (c : Char) :
    (String.utf8EncodeChar c).all isDigitByte = true ↔ c ∈ hexDigits := by
  by_cases ascii : c.toNat < 0x80
  · have all : ∀ k < 0x80, [UInt8.ofNat k].all isDigitByte = true ↔ Char.ofNat k ∈ hexDigits := by
      decide +kernel
    have here := all c.toNat ascii
    rwa [Char.ofNat_toNat, ← encode_ascii ascii] at here
  · constructor
    · intro digits
      -- any byte of such a character is beyond ASCII
      obtain ⟨b, there⟩ := List.exists_mem_of_ne_nil _ (@String.utf8EncodeChar_ne_nil c)
      have low := isDigitByte_ascii (List.all_eq_true.mp digits b there)
      have high := encode_not_ascii (Nat.le_of_not_lt ascii) b there
      omega
    · intro digit
      exact absurd (hexDigit_ascii digit) ascii

theorem isDigitByte_bytes (cs : List Char) :
    (bytes cs).all isDigitByte = true ↔ ∀ d ∈ cs, d ∈ hexDigits := by
  induction cs with
  | nil => simp
  | cons c cs ih =>
    rw [bytes_cons, List.all_append, Bool.and_eq_true, isDigitByte_encode, ih, List.forall_mem_cons]

theorem counted_iff (cs : List Char) :
    (String.ofList cs).utf8ByteSize = 6 ∧
      (String.ofList cs).toUTF8.data.toList.all isDigitByte = true ↔
    cs.length = 6 ∧ ∀ d ∈ cs, d ∈ hexDigits := by
  rw [toUTF8_bytes, String.toList_ofList, isDigitByte_bytes, String.utf8ByteSize_ofList]
  -- only of digits are bytes and characters equally many
  refine and_congr_left fun hex => ?_
  rw [utf8Len_ascii fun d there => hexDigit_ascii (hex d there)]

theorem numberOf?_pair {high low : Char} (first : high ∈ hexDigits) (second : low ∈ hexDigits) :
    numberOf? (String.ofList [high, low]) = hexByte? high low := by
  obtain ⟨h, readHigh⟩ := hexDigit?_some first
  obtain ⟨l, readLow⟩ := hexDigit?_some second
  have smallHigh := (hexDigit?_reads readHigh).1
  have smallLow := (hexDigit?_reads readLow).1
  have plus : high ≠ '+' := by
    rintro rfl
    contradiction
  have fits : h < 256 ∧ h * 16 + l < 256 := by omega
  simp [numberOf?, numberFrom?, hexByte?, plus, readHigh, readLow, fits]

theorem checkedChannel_eq {before after : List Char} {high low : Char}
    (hex : ∀ d ∈ before ++ [high, low] ++ after, d ∈ hexDigits) :
    checkedChannel (String.ofList (before ++ [high, low] ++ after)) before.length =
      .ok (hexByte? high low) := by
  have ascii : ∀ d ∈ before ++ [high, low] ++ after, d.toNat < 0x80 :=
    fun d there => hexDigit_ascii (hex d there)
  have start : String.utf8Len before = before.length :=
    utf8Len_ascii fun d there => ascii d (by simp [there])
  have size : String.utf8Len [high, low] = 2 :=
    utf8Len_ascii fun d there => ascii d (List.mem_append_left _ (List.mem_append_right _ there))
  have cut := checkedSlice_chars before after [high, low]
  rw [slice, String.extract_of_valid, start, size] at cut
  rw [checkedChannel, cut, ok_bind, numberOf?_pair (hex high (by simp)) (hex low (by simp))]
  rfl

theorem checkedParse_eq (s : String) : checkedParse s = .ok (parse? s) := by
  simp only [checkedParse, counted_iff, parse?]
  generalize dropSign s.toList = cs
  split
  · rename_i good
    obtain ⟨six, hex⟩ := good
    match cs, six with
    | [r₁, r₀, g₁, g₀, b₁, b₀], _ =>
      let digits := String.ofList [r₁, r₀, g₁, g₀, b₁, b₀]
      have red : checkedChannel digits 0 = .ok (hexByte? r₁ r₀) :=
        @checkedChannel_eq [] [g₁, g₀, b₁, b₀] r₁ r₀ hex
      have green : checkedChannel digits 2 = .ok (hexByte? g₁ g₀) :=
        @checkedChannel_eq [r₁, r₀] [b₁, b₀] g₁ g₀ hex
      have blue : checkedChannel digits 4 = .ok (hexByte? b₁ b₀) :=
        @checkedChannel_eq [r₁, r₀, g₁, g₀] [] b₁ b₀ hex
      rw [red, green, blue]
      simp only [ok_bind, ofDigits?]
      cases hexByte? r₁ r₀ with
      | none => rfl
      | some r =>
        cases hexByte? g₁ g₀ with
        | none => rfl
        | some g => cases hexByte? b₁ b₀ <;> rfl
  · rename_i bad
    cases read : ofDigits? cs with
    | none => rfl
    | some c =>
      obtain ⟨six, hex, -⟩ := ofDigits?_reads read
      exact absurd ⟨six, hex⟩ bad

end Checked

theorem parse?_hex (c : Color) : parse? c.hex = some c := by
  simp [parse?, hex, dropSign, hexByte, ofDigits?, hexByte?_hexByte]

end Color

namespace Palette

structure FirstFault (entries : List String) (index : Nat) (entry : String) : Prop where
  found : entries[index]? = some entry
  unread : Color.parse? entry = none
  earlier : ∀ i < index, ∀ other, entries[i]? = some other → (Color.parse? other).isSome

/-- What the entries of a palette come to. -/
inductive Outcome (entries : List String) : Except SettingsError Palette → Prop where
  | miscounted (other : entries.length ≠ 16) :
      Outcome entries (.error (.paletteSize entries.length))
  | faulty {index : Nat} {entry : String} (counted : entries.length = 16)
      (fault : FirstFault entries index entry) : Outcome entries (.error (.invalidColor index entry))
  | colored {p : Palette} (counted : entries.length = 16)
      (read : ∀ index, entries[index % 16]?.bind Color.parse? = some (p.get index))
      (foreground : p.foreground = standard.foreground)
      (inverted : p.inverted = standard.inverted) : Outcome entries (.ok p)

section Entries
variable {entries : List String} {index start : Nat} {entry : String} {cs : List Color}
  {e : SettingsError} {r t : Except SettingsError Palette}

theorem FirstFault.cons (fault : FirstFault entries index entry) {first : String}
    (read : (Color.parse? first).isSome) : FirstFault (first :: entries) (index + 1) entry := by
  refine ⟨fault.found, fault.unread, ?_⟩
  intro i before other there
  cases i with
  | zero => exact Option.some.inj there ▸ read
  | succ i => exact fault.earlier i (Nat.lt_of_succ_lt_succ before) other there

theorem FirstFault.le {index' : Nat} {entry' : String} (fault : FirstFault entries index entry)
    (other : FirstFault entries index' entry') : index ≤ index' := by
  by_contra later
  have read := fault.earlier index' (Nat.lt_of_not_le later) entry' other.found
  simp [other.unread] at read

theorem readColors_ok (read : readColors start entries = .ok cs) :
    cs.length = entries.length ∧ ∀ i : Nat, entries[i]?.bind Color.parse? = cs[i]? := by
  induction entries generalizing start cs with
  | nil =>
    cases read
    simp
  | cons first rest ih =>
    simp only [readColors] at read
    split at read
    · contradiction
    · rename_i c color
      split at read
      · contradiction
      · rename_i later colors
        cases read
        obtain ⟨many, behind⟩ := ih colors
        refine ⟨congrArg (· + 1) many, ?_⟩
        intro i
        cases i with
        | zero => simp [color]
        | succ i => simpa using behind i

theorem readColors_error (failed : readColors start entries = .error e) :
    ∃ index entry, e = .invalidColor (start + index) entry ∧ FirstFault entries index entry := by
  induction entries generalizing start with
  | nil => contradiction
  | cons first rest ih =>
    simp only [readColors] at failed
    split at failed
    · rename_i unread
      cases failed
      exact ⟨0, first, rfl, rfl, unread, fun i before => absurd before (Nat.not_lt_zero i)⟩
    · rename_i c color
      split at failed
      · rename_i later
        cases failed
        obtain ⟨index, entry, rfl, fault⟩ := ih later
        refine ⟨index + 1, entry, ?_, fault.cons (by simp [color])⟩
        congr 1
        omega
      · contradiction

theorem get_eq (p : Palette) (index : Nat) : p.get index = p.colors[index % 16] := rfl

theorem outcome_ofEntries (entries : List String) : Outcome entries (ofEntries entries) := by
  simp only [ofEntries]
  split
  · rename_i other
    exact .miscounted other
  · rename_i counted
    have counted : entries.length = 16 := Decidable.not_not.mp counted
    split
    · rename_i e failed
      obtain ⟨index, entry, rfl, fault⟩ := readColors_error failed
      rw [Nat.zero_add]
      exact .faulty counted fault
    · rename_i cs colors
      obtain ⟨many, read⟩ := readColors_ok colors
      refine .colored counted ?_ rfl rfl
      intro index
      have inside : index % 16 < cs.length := by omega
      rw [read]
      simp [get_eq, inside]

theorem FirstFault.refuted (fault : FirstFault entries index entry) (counted : entries.length = 16)
    {p : Palette} (read : ∀ i, entries[i % 16]?.bind Color.parse? = some (p.get i)) : False := by
  obtain ⟨inside, -⟩ := List.getElem?_eq_some_iff.mp fault.found
  have here := read index
  rw [Nat.mod_eq_of_lt (by omega), fault.found, Option.bind_some, fault.unread] at here
  contradiction

theorem ext_get {p q : Palette} (same : ∀ i, p.get i = q.get i)
    (foreground : p.foreground = q.foreground) (inverted : p.inverted = q.inverted) : p = q := by
  have colors : p.colors = q.colors := by
    apply Vector.ext
    intro i inside
    have here := same i
    simpa [get_eq, Nat.mod_eq_of_lt inside] using here
  cases p
  cases q
  simp_all

theorem Outcome.unique (one : Outcome entries r) (other : Outcome entries t) : r = t := by
  cases one with
  | miscounted many =>
    cases other with
    | miscounted => rfl
    | faulty counted fault => contradiction
    | colored counted read => contradiction
  | @faulty index entry counted fault =>
    cases other with
    | miscounted => contradiction
    | @faulty index' entry' counted' fault' =>
      obtain rfl := Nat.le_antisymm (fault.le fault') (fault'.le fault)
      obtain rfl := Option.some.inj (fault.found.symm.trans fault'.found)
      rfl
    | colored counted' read => exact (fault.refuted counted read).elim
  | colored counted read foreground inverted =>
    cases other with
    | miscounted => contradiction
    | faulty counted' fault => exact (fault.refuted counted read).elim
    | colored counted' read' foreground' inverted' =>
      have same (i : Nat) := Option.some.inj ((read i).symm.trans (read' i))
      rw [ext_get same (foreground.trans foreground'.symm) (inverted.trans inverted'.symm)]

theorem outcome_iff : ofEntries entries = r ↔ Outcome entries r := by
  constructor
  · rintro rfl
    exact outcome_ofEntries entries
  · exact (outcome_ofEntries entries).unique

theorem ofEntries_ok_iff : (∃ p, ofEntries entries = .ok p) ↔
    entries.length = 16 ∧ ∀ entry ∈ entries, (Color.parse? entry).isSome := by
  constructor
  · rintro ⟨p, made⟩
    cases outcome_iff.mp made with
    | colored counted read =>
      refine ⟨counted, ?_⟩
      intro entry there
      obtain ⟨i, inside, rfl⟩ := List.getElem_of_mem there
      have here := read i
      rw [Nat.mod_eq_of_lt (by omega), List.getElem?_eq_getElem inside, Option.bind_some] at here
      simp [here]
  · rintro ⟨counted, read⟩
    cases made : ofEntries entries with
    | ok p => exact ⟨p, rfl⟩
    | error e =>
      cases outcome_iff.mp made with
      | miscounted => contradiction
      | faulty _ fault =>
        have here := read _ (List.mem_of_getElem? fault.found)
        simp [fault.unread] at here

end Entries

end Palette

/-- A text is a color just if it is six digits with at most one sign before them. The color is written with
the same digits in lowercase, and every color that is written is read back. Entries that are not sixteen
are refused for their number, others for the first of them that is no color. -/
theorem colors_as_written (s : String) (c : Color) (entries : List String)
    (outcome : Except SettingsError Palette) :
    Color.checkedParse s = .ok (Color.parse? s) ∧
    ((Color.parse? s).isSome ↔ ∃ digits, Color.Spelled digits s) ∧
    (∀ digits, Color.Spelled digits s → Color.parse? s = some c →
      c.hex = String.ofList ('#' :: digits.map Char.toLower)) ∧
    Color.parse? c.hex = some c ∧
    (Palette.ofEntries entries = outcome ↔ Palette.Outcome entries outcome) := by
  refine ⟨Color.checkedParse_eq s, ?_, ?_, Color.parse?_hex c, Palette.outcome_iff⟩
  · constructor
    · intro read
      obtain ⟨c, read⟩ := Option.isSome_iff_exists.mp read
      obtain ⟨six, hex, -⟩ := Color.ofDigits?_reads read
      exact ⟨_, Color.spelled_iff.mpr ⟨rfl, six, hex⟩⟩
    · rintro ⟨digits, spelled⟩
      obtain ⟨rest, six, hex⟩ := Color.spelled_iff.mp spelled
      obtain ⟨c, read⟩ := Color.ofDigits?_some six hex
      rw [Color.parse?, rest, read, Option.isSome_some]
  · intro digits spelled read
    rw [Color.parse?, (Color.spelled_iff.mp spelled).1] at read
    exact (Color.ofDigits?_reads read).2.2

/-- A second sign, a sign of a number and a character of two bytes are no digits. -/
example : Color.parse? "##00ff00" = none ∧ Color.parse? "+0+1+2" = none ∧
    Color.parse? "é0000" = none ∧ Color.parse? "00FF0a" = some ⟨0, 255, 10⟩ := by decide

end ChatDisplay
