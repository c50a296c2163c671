import ChatDisplay.Markup.Item
import ChatDisplay.Markup.Scanner
import Mathlib.Data.String.Basic

/-! Control characters, digits and the comma are single bytes, and no byte of another character looks like
one of them, so codes can be read from the bytes. -/
namespace ChatDisplay.Text

/-- The bytes of characters in UTF-8. -/
def bytes (cs : List Char) : List UInt8 := cs.flatMap String.utf8EncodeChar

@[simp] theorem bytes_nil : bytes [] = [] := rfl

theorem bytes_cons (c : Char) (cs : List Char) :
    bytes (c :: cs) = String.utf8EncodeChar c ++ bytes cs := List.flatMap_cons

theorem bytes_append (cs ds : List Char) : bytes (cs ++ ds) = bytes cs ++ bytes ds :=
  List.flatMap_append

theorem toUTF8_bytes (text : String) : text.toUTF8.data.toList = bytes text.toList := by
  rw [String.toUTF8_eq_toByteArray, ← String.utf8Encode_toList, List.utf8Encode,
    List.toList_data_toByteArray, bytes]

theorem encode_ascii {c : Char} (ascii : c.toNat < 0x80) :
    String.utf8EncodeChar c = [UInt8.ofNat c.toNat] := by
  have low : c.val.toNat ≤ 0x7f := Nat.le_of_lt_succ ascii
  simp only [String.utf8EncodeChar, low, if_true, Char.toNat]

theorem utf8Size_ascii {c : Char} (ascii : c.toNat < 0x80) : c.utf8Size = 1 := by
  rw [← String.length_utf8EncodeChar, encode_ascii ascii, List.length_singleton]

theorem encode_not_ascii {c : Char} (other : 0x80 ≤ c.toNat) :
    ∀ b ∈ String.utf8EncodeChar c, 0x80 ≤ b.toNat := by
  intro b hb
  have high : ¬ c.val.toNat ≤ 0x7f := Nat.not_le_of_lt other
  simp only [String.utf8EncodeChar, high, if_false] at hb
  split at hb
  · simp only [List.mem_cons, List.not_mem_nil, or_false] at hb
    rcases hb with rfl | rfl <;> simp only [UInt8.toNat_ofNat'] <;> omega
  · split at hb
    · simp only [List.mem_cons, List.not_mem_nil, or_false] at hb
      rcases hb with rfl | rfl | rfl <;> simp only [UInt8.toNat_ofNat'] <;> omega
    · simp only [List.mem_cons, List.not_mem_nil, or_false] at hb
      rcases hb with rfl | rfl | rfl | rfl <;> simp only [UInt8.toNat_ofNat'] <;> omega

theorem ascii_byte_toNat {c : Char} (ascii : c.toNat < 0x80) :
    (UInt8.ofNat c.toNat).toNat = c.toNat := by
  rw [UInt8.toNat_ofNat']
  omega

theorem ascii_byte_inj {c d : Char} (hc : c.toNat < 0x80) (hd : d.toNat < 0x80)
    (same : UInt8.ofNat c.toNat = UInt8.ofNat d.toNat) : c = d := by
  have h := congrArg UInt8.toNat same
  rw [ascii_byte_toNat hc, ascii_byte_toNat hd] at h
  exact Char.toNat_inj.mp h

theorem control_ascii {c : Char} (control : isControl c = true) : c.toNat < 0x80 := by
  simp only [isControl, Bool.or_eq_true, Bool.and_eq_true, decide_eq_true_eq, beq_iff_eq] at control
  rcases control with ⟨⟨⟨low, -⟩, -⟩, -⟩ | rfl
  · exact Nat.lt_of_le_of_lt (Char.le_def.mp low) (by decide)
  · decide

/-- The scanner and the grammar have the same controls. -/
theorem isControlByte_ascii {c : Char} (ascii : c.toNat < 0x80) :
    isControlByte (UInt8.ofNat c.toNat) = isControl c := by
  have all : ∀ k < 0x80, isControlByte (UInt8.ofNat k) = isControl (Char.ofNat k) := by decide +kernel
  have here := all c.toNat ascii
  rwa [Char.ofNat_toNat] at here

/-- No byte of a visible character ends a span. -/
theorem visible_bytes {c : Char} (visible : isControl c = false) :
    ∀ b ∈ String.utf8EncodeChar c, isControlByte b = false := by
  intro b hb
  by_cases ascii : c.toNat < 0x80
  · rw [encode_ascii ascii, List.mem_singleton] at hb
    rw [hb, isControlByte_ascii ascii, visible]
  · have high := encode_not_ascii (Nat.le_of_not_lt ascii) b hb
    have beyond : ¬ b < 0x20 := by
      rw [UInt8.lt_iff_toNat_lt]
      exact Nat.not_lt_of_le (Nat.le_trans (by decide) high)
    have other : b ≠ 0x7f := by
      rintro rfl
      contradiction
    simp [isControlByte, beyond, other]

theorem digit_ascii {c : Char} (digit : isDigit c = true) : c.toNat < 0x80 := by
  simp only [isDigit, digit?] at digit
  split at digit
  · rename_i range
    have upper : c.toNat ≤ '9'.toNat := Char.le_def.mp range.2
    exact Nat.lt_of_le_of_lt upper (by decide)
  · contradiction

theorem digit?_ascii {c : Char} (ascii : c.toNat < 0x80) :
    Code.digit? (UInt8.ofNat c.toNat) = digit? c := by
  have value := ascii_byte_toNat ascii
  have lower : (0x30 : UInt8) ≤ UInt8.ofNat c.toNat ↔ '0' ≤ c := by
    rw [UInt8.le_iff_toNat_le, value, Char.le_def, UInt32.le_iff_toNat_le]
    rfl
  have upper : UInt8.ofNat c.toNat ≤ (0x39 : UInt8) ↔ c ≤ '9' := by
    rw [UInt8.le_iff_toNat_le, value, Char.le_def, UInt32.le_iff_toNat_le]
    rfl
  simp only [Code.digit?, digit?, lower, upper, value]
  rfl

theorem length_bytes (cs : List Char) : (bytes cs).length = String.utf8Len cs := by
  induction cs with
  | nil => rfl
  | cons c cs ih =>
    rw [bytes_cons, List.length_append, String.length_utf8EncodeChar, ih, String.utf8Len_cons,
      Nat.add_comm]

theorem utf8Len_ascii {cs : List Char} (ascii : ∀ c ∈ cs, c.toNat < 0x80) :
    String.utf8Len cs = cs.length := by
  induction cs with
  | nil => rfl
  | cons c cs ih =>
    rw [String.utf8Len_cons, utf8Size_ascii (ascii c List.mem_cons_self),
      ih fun d hd => ascii d (List.mem_cons_of_mem c hd), List.length_cons]

theorem drop_bytes_ascii {cs : List Char} (ascii : ∀ c ∈ cs, c.toNat < 0x80) (rest : List Char) :
    (bytes (cs ++ rest)).drop cs.length = bytes rest := by
  rw [bytes_append, ← utf8Len_ascii ascii, ← length_bytes, List.drop_left]

theorem head_not_ascii {c : Char} (other : 0x80 ≤ c.toNat) (cs : List Char) :
    ∃ b rest, bytes (c :: cs) = b :: rest ∧ 0x80 ≤ b.toNat := by
  have high := encode_not_ascii other
  rw [bytes_cons]
  cases encoded : String.utf8EncodeChar c with
  | nil => exact absurd encoded String.utf8EncodeChar_ne_nil
  | cons b rest =>
    rw [encoded] at high
    exact ⟨b, rest ++ bytes cs, rfl, high b List.mem_cons_self⟩

theorem head_digit? (cs : List Char) :
    (bytes cs).head?.bind Code.digit? = cs.head?.bind digit? := by
  cases cs with
  | nil => rfl
  | cons c cs =>
    by_cases ascii : c.toNat < 0x80
    · rw [bytes_cons, encode_ascii ascii]
      exact digit?_ascii ascii
    · obtain ⟨b, rest, hb, high⟩ := head_not_ascii (Nat.le_of_not_lt ascii) cs
      have noDigit : digit? c = none := by
        cases h : digit? c with
        | none => rfl
        | some n => exact absurd (digit_ascii (by rw [isDigit, h]; rfl)) ascii
      have noByte : Code.digit? b = none := by
        rw [Code.digit?, if_neg]
        intro range
        have upper : b.toNat ≤ 0x39 := UInt8.le_iff_toNat_le.mp range.2
        omega
      rw [hb]
      simp only [List.head?_cons, Option.bind_some, noDigit, noByte]

theorem head_ascii {d : Char} (ascii : d.toNat < 0x80) (cs : List Char) :
    (bytes cs).head? = some (UInt8.ofNat d.toNat) ↔ cs.head? = some d := by
  cases cs with
  | nil => simp
  | cons c cs =>
    by_cases single : c.toNat < 0x80
    · rw [bytes_cons, encode_ascii single]
      simp only [List.cons_append, List.head?_cons, Option.some.injEq]
      exact ⟨ascii_byte_inj single ascii, fun same => by rw [same]⟩
    · obtain ⟨b, rest, hb, high⟩ := head_not_ascii (Nat.le_of_not_lt single) cs
      rw [hb]
      simp only [List.head?_cons, Option.some.injEq]
      constructor
      · intro same
        rw [same, ascii_byte_toNat ascii] at high
        omega
      · intro same
        exact absurd (same ▸ ascii) single

end ChatDisplay.Text
