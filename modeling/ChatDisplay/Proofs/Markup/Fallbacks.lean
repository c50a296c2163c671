import ChatDisplay.Proofs.Charset.Utf8
import ChatDisplay.Proofs.Markup.Attributes

/-! Encodings with one character for each byte differ outside ASCII alone. Controls and the arguments they
take along are ASCII, so texts that are alike are cut into items and runs that are alike. -/
namespace ChatDisplay

namespace Charset

/-- Characters that are the same as far as ASCII goes. -/
def Alike (c d : Char) : Prop := c = d ∨ 0x80 ≤ c.toNat ∧ 0x80 ≤ d.toNat

namespace Alike
variable {c d : Char} {cs ds : List Char}

theorem symm (alike : Alike c d) : Alike d c := by
  obtain same | ⟨hc, hd⟩ := alike
  · exact .inl same.symm
  · exact .inr ⟨hd, hc⟩

theorem eq_of_ascii (alike : Alike c d) (ascii : c.toNat < 0x80) : c = d := by
  obtain same | ⟨hc, -⟩ := alike
  · exact same
  · omega

theorem ascii_iff (alike : Alike c d) {a : Char} (ascii : a.toNat < 0x80) : c = a ↔ d = a := by
  constructor
  · rintro rfl
    exact (alike.eq_of_ascii ascii).symm
  · rintro rfl
    exact (alike.symm.eq_of_ascii ascii).symm

theorem isControl_eq (alike : Alike c d) : isControl c = isControl d := by
  rw [Bool.eq_iff_iff]
  constructor
  · intro control
    rwa [← alike.eq_of_ascii (Text.control_ascii control)]
  · intro control
    rwa [← alike.symm.eq_of_ascii (Text.control_ascii control)]

theorem texts_refl (cs : List Char) : List.Forall₂ Alike cs cs :=
  List.forall₂_same.mpr fun _ _ => .inl rfl

theorem texts_symm (alike : List.Forall₂ Alike cs ds) : List.Forall₂ Alike ds cs :=
  alike.flip.imp fun _ _ => symm

theorem texts_eq (alike : List.Forall₂ Alike cs ds) (ascii : ∀ c ∈ cs, c.toNat < 0x80) :
    cs = ds := by
  induction alike with
  | nil => rfl
  | @cons c d cs ds first _ ih =>
    rw [first.eq_of_ascii (ascii c List.mem_cons_self),
      ih fun e later => ascii e (List.mem_cons_of_mem c later)]

theorem texts_getElem? (alike : List.Forall₂ Alike cs ds) (i : Nat) {a : Char}
    (ascii : a.toNat < 0x80) : cs[i]? = some a ↔ ds[i]? = some a := by
  induction alike generalizing i with
  | nil => rfl
  | cons first _ ih =>
    cases i with
    | zero => simpa using first.ascii_iff ascii
    | succ i => simpa using ih i

end Alike

/-- ASCII bytes are the ASCII characters, and no other byte is one of them. -/
structure KeepsAscii (char : UInt8 → Char) : Prop where
  ascii : ∀ b, b.toNat < 0x80 → char b = Char.ofNat b.toNat
  other : ∀ b, 0x80 ≤ b.toNat → 0x80 ≤ (char b).toNat

theorem KeepsAscii.alike {char cipher : UInt8 → Char} (hc : KeepsAscii char)
    (hd : KeepsAscii cipher) (b : UInt8) : Alike (char b) (cipher b) := by
  by_cases ascii : b.toNat < 0x80
  · exact .inl ((hc.ascii b ascii).trans (hd.ascii b ascii).symm)
  · have high := Nat.le_of_not_lt ascii
    exact .inr ⟨hc.other b high, hd.other b high⟩

theorem latin1_keepsAscii : KeepsAscii fun b => Char.ofNat b.toNat where
  ascii _ _ := rfl
  other b high := by rwa [toNat_ofNat_byte]

/-- No table has an ASCII character. -/
theorem upperHalf_other (e : Encoding) :
    ∀ n ∈ (upperHalf? e).getD [], 0x80 ≤ (Char.ofNat n).toNat := by
  cases e <;> decide +kernel

theorem byteChar_keepsAscii {upper : List Nat} (other : ∀ n ∈ upper, 0x80 ≤ (Char.ofNat n).toNat) :
    KeepsAscii (byteChar upper) where
  ascii b low := by
    rw [byteChar, if_pos (UInt8.lt_iff_toNat_lt.mpr low)]
  other b high := by
    rw [byteChar, if_neg (by simpa [UInt8.lt_iff_toNat_lt] using high)]
    split
    · rename_i n found
      exact other n (List.mem_of_getElem? found)
    · decide

theorem decode_single {e : Encoding} (single : (upperHalf? e).isSome = true) (bytes : List UInt8) :
    e.decode bytes = bytes.map (byteChar ((upperHalf? e).getD [])) := by
  cases e <;> first | rfl | contradiction

end Charset

open Charset

namespace Fallback

/-- Whether there is one character for each byte. -/
def isSingleByte : Fallback → Bool
  | .latin1 => true
  | .named e => (upperHalf? e).isSome
  | .multiByte _ _ => false

theorem decodeBytes_single {f : Fallback} (single : f.isSingleByte = true) :
    ∃ char, KeepsAscii char ∧ ∀ bytes, f.decodeBytes bytes = bytes.map char := by
  cases f with
  | latin1 => exact ⟨_, latin1_keepsAscii, fun _ => rfl⟩
  | named e => exact ⟨_, byteChar_keepsAscii (upperHalf_other e), decode_single single⟩
  | multiByte => contradiction

theorem decode_alike {f g : Fallback} (hf : f.isSingleByte = true) (hg : g.isSingleByte = true)
    (raw : ByteArray) : List.Forall₂ Alike (f.decode raw).toList (g.decode raw).toList := by
  by_cases utf8 : Utf8.WellFormed raw.data.toList
  · obtain ⟨text, rfl⟩ := (Utf8.wellFormed_iff raw).mp utf8
    rw [decode_utf8, decode_utf8]
    exact Alike.texts_refl _
  · obtain ⟨char, hc, decoded⟩ := decodeBytes_single hf
    obtain ⟨cipher, hd, ciphered⟩ := decodeBytes_single hg
    rw [decode_other utf8, decode_other utf8, decoded, ciphered, String.toList_ofList,
      String.toList_ofList, List.forall₂_map_left_iff, List.forall₂_map_right_iff,
      List.forall₂_same]
    exact fun b _ => hc.alike hd b

end Fallback

namespace Control

theorem argument_ascii {p : List Char} (argument : isArgument p = true) :
    ∀ c ∈ p, c.toNat < 0x80 := by
  have digits {n : List Char} (number : isNumber n = true) : ∀ c ∈ n, c.toNat < 0x80 :=
    fun c there => Text.digit_ascii ((isNumber_iff.mp number).2 c there)
  obtain one | ⟨f, b, rfl, first, second⟩ := isArgument_iff.mp argument
  · exact digits one
  · intro c there
    rcases List.mem_append.mp there with before | after
    · exact digits first c before
    · rcases List.mem_cons.mp after with rfl | later
      · decide
      · exact digits second c later

theorem longestArgument_alike {cs ds : List Char} (alike : List.Forall₂ Alike cs ds) (n : Nat) :
    longestArgument cs n = longestArgument ds n := by
  induction n with
  | zero => rfl
  | succ n ih =>
    have begun := List.forall₂_take (n + 1) alike
    rw [longestArgument, longestArgument]
    by_cases argument : isArgument (cs.take (n + 1)) = true
    · rw [← Alike.texts_eq begun (argument_ascii argument), if_pos argument, if_pos argument]
    · have neither : ¬ isArgument (ds.take (n + 1)) = true := fun other =>
        argument (Alike.texts_eq (Alike.texts_symm begun) (argument_ascii other) ▸ other)
      rw [if_neg argument, if_neg neither, ih]

theorem ofChar_alike {cs ds : List Char} (alike : List.Forall₂ Alike cs ds) (c : Char) :
    ofChar c cs = ofChar c ds := by
  rw [ofChar, ofChar, alike.length_eq, longestArgument_alike alike]

end Control

namespace Item

/-- The same control, or visible characters that are alike. -/
inductive Alike : Item → Item → Prop
  | visible {c d : Char} (alike : Charset.Alike c d) : Alike (.visible c) (.visible d)
  | control (k : Control) : Alike (.control k) (.control k)

theorem ofChars_alike (cs : List Char) :
    ∀ ds, List.Forall₂ Charset.Alike cs ds → List.Forall₂ Alike (ofChars cs) (ofChars ds) := by
  fun_induction ofChars cs with
  | case1 =>
    intro ds alike
    cases alike
    rw [ofChars]
    exact .nil
  | case2 c cs control k ih =>
    intro ds alike
    cases alike with
    | @cons _ d _ ds first rest =>
      cases first.eq_of_ascii (Text.control_ascii control)
      rw [ofChars, if_pos control, ← Control.ofChar_alike rest]
      exact .cons (.control k) (ih _ (List.forall₂_drop _ rest))
  | case3 c cs visible ih =>
    intro ds alike
    cases alike with
    | @cons _ d _ ds first rest =>
      rw [ofChars, if_neg (first.isControl_eq ▸ visible)]
      exact .cons (.visible first) (ih _ rest)

def LikeSpans (a b : List Control × List Char) : Prop :=
  a.1 = b.1 ∧ List.Forall₂ Charset.Alike a.2 b.2

theorem spans_alike {items others : List Item} (alike : List.Forall₂ Alike items others)
    (controls : List Control) {cs ds : List Char} (begun : List.Forall₂ Charset.Alike cs ds) :
    List.Forall₂ LikeSpans (spans controls cs items) (spans controls ds others) := by
  induction alike generalizing controls cs ds with
  | nil => exact .cons ⟨rfl, begun⟩ .nil
  | cons first _ ih =>
    cases first with
    | visible both => exact ih controls (List.rel_append begun (.cons both .nil))
    | control k => exact .cons ⟨rfl, begun⟩ (ih (controls ++ [k]) .nil)

theorem shown_alike {items others : List Item} (alike : List.Forall₂ Alike items others) :
    List.Forall₂ LikeSpans (shown items) (shown others) := by
  refine List.rel_filter ?_ (spans_alike alike [] .nil)
  rintro ⟨_, cs⟩ ⟨_, ds⟩ ⟨-, texts⟩
  cases texts <;> simp

end Item

/-- Runs in the same style and look, with texts of one length that agree on where ASCII is. -/
structure Run.Alike (a b : Run) : Prop where
  style : a.style = b.style
  appearance : a.appearance = b.appearance
  length : a.text.length = b.text.length
  ascii : ∀ (i : Nat) (c : Char), c.toNat < 0x80 →
    (a.text.toList[i]? = some c ↔ b.text.toList[i]? = some c)

theorem Scanner.runOf_alike (palette : Palette) (f g : Fallback) (stripped : Bool)
    {a b : List Control × List Char} (alike : Item.LikeSpans a b) :
    Run.Alike (runOf ⟨palette, f, stripped⟩ a) (runOf ⟨palette, g, stripped⟩ b) := by
  obtain ⟨controls, cs⟩ := a
  obtain ⟨_, ds⟩ := b
  obtain ⟨rfl, texts⟩ := alike
  refine ⟨rfl, rfl, ?_, ?_⟩
  · simpa [runOf, Run.styled] using texts.length_eq
  · intro i c ascii
    simpa [runOf, Run.styled] using Alike.texts_getElem? texts i ascii

/-- Two scanners that differ in the fallback alone, each with one character for each byte, make as many runs
of any bytes, one by one in the same styles and looks, as long as each other in characters, and with every
ASCII character at the same place. -/
theorem Fallback.formatting_of_bytes {f g : Fallback} (hf : f.isSingleByte = true)
    (hg : g.isSingleByte = true) (palette : Palette) (stripped : Bool) (raw : ByteArray) :
    List.Forall₂ Run.Alike (Scanner.read ⟨palette, f, stripped⟩ raw)
      (Scanner.read ⟨palette, g, stripped⟩ raw) := by
  have items := Item.ofChars_alike _ _ (decode_alike hf hg raw)
  rw [Scanner.read, Scanner.read, Scanner.readText_shown, Scanner.readText_shown,
    List.forall₂_map_left_iff, List.forall₂_map_right_iff]
  exact (Item.shown_alike items).imp fun _ _ => Scanner.runOf_alike palette f g stripped

theorem Fallback.formatting_of_russian_bytes :
    let raw : ByteArray := ⟨#[0xf0, 0x03, 0x34, 0xd2, 0x2c, 0x02, 0xe9]⟩
    let latin := Scanner.read ⟨.standard, .latin1, false⟩ raw
    let russian := Scanner.read ⟨.standard, .named .koi8R, false⟩ raw
    latin.map Run.text = ["ð", "Ò,", "é"] ∧ russian.map Run.text = ["П", "р,", "И"] ∧
      List.Forall₂ Run.Alike latin russian :=
  ⟨by decide +kernel, by decide +kernel,
    formatting_of_bytes (by decide) (by decide) .standard false _⟩

/-- Such are the usual encodings of Europe, and the one without characters of its own. -/
example : ∀ e ∈ [Encoding.windows1250, .windows1251, .windows1252, .windows1253, .windows1257,
    .iso8859_2, .iso8859_5, .iso8859_15, .koi8R, .koi8U, .ibm866, .userDefined],
    (Fallback.named e).isSingleByte = true := by decide

end ChatDisplay
