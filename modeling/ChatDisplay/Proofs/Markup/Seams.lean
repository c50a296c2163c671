import ChatDisplay.Proofs.Markup.Attributes

/-! Where the second part of a message begins with a control, the first part is read as if it stood alone.
What carries over is the style, and after a reset not even that. -/
namespace ChatDisplay
open Text

namespace Control

theorem digit_visible {c : Char} (digit : isDigit c = true) : isControl c = false := by
  have all : ∀ k < 0x80, isDigit (Char.ofNat k) = true → isControl (Char.ofNat k) = false := by
    decide +kernel
  have here := all c.toNat (digit_ascii digit)
  rw [Char.ofNat_toNat] at here
  exact here digit

theorem argument_visible {p : List Char} (argument : isArgument p = true) :
    ∀ c ∈ p, isControl c = false := by
  rcases isArgument_iff.mp argument with one | ⟨f, b, rfl, first, second⟩
  · exact fun c hc => digit_visible ((isNumber_iff.mp one).2 c hc)
  · intro c hc
    rcases List.mem_append.mp hc with before | later
    · exact digit_visible ((isNumber_iff.mp first).2 c before)
    · rcases List.mem_cons.mp later with rfl | after
      · decide
      · exact digit_visible ((isNumber_iff.mp second).2 c after)

theorem argument_before {p cs ds : List Char} {c : Char} (control : isControl c = true)
    (argument : isArgument p = true) (beginning : p <+: cs ++ c :: ds) : p <+: cs := by
  rcases List.prefix_or_prefix_of_prefix beginning (List.prefix_append cs (c :: ds)) with
    within | ⟨rest, rfl⟩
  · exact within
  · cases rest with
    | nil => simp
    | cons d rest =>
      have same : d = c := by
        have h := (List.prefix_append_right_inj cs).mp beginning
        exact (List.cons_prefix_cons.mp h).1
      have visible := argument_visible argument d (by simp)
      rw [same, control] at visible
      contradiction

theorem longestArgument_before {c : Char} (control : isControl c = true) (cs ds : List Char) :
    longestArgument (cs ++ c :: ds) (cs ++ c :: ds).length = longestArgument cs cs.length := by
  obtain ⟨within, good, most⟩ := longestArgument_longest cs cs.length
  refine longestArgument_eq (within.trans (List.prefix_append cs _)) good ?_
  intro p beginning argument
  have inside := argument_before control argument beginning
  exact most p inside inside.length_le argument

theorem ofChar_before (b : Char) {c : Char} (control : isControl c = true) (cs ds : List Char) :
    ofChar b (cs ++ c :: ds) = ofChar b cs := by
  rw [ofChar, ofChar, longestArgument_before control]

theorem ofChar_char (c : Char) (cs : List Char) : (ofChar c cs).char = c := by
  rw [ofChar]
  split <;> rfl

theorem argument_within (b : Char) (cs : List Char) : (ofChar b cs).argument.length ≤ cs.length := by
  rw [ofChar]
  split
  · exact (longestArgument_longest cs cs.length).1.length_le
  · exact Nat.zero_le _

end Control

namespace Item

theorem ofChars_append {c : Char} (control : isControl c = true) (cs ds : List Char) :
    ofChars (cs ++ c :: ds) = ofChars cs ++ ofChars (c :: ds) := by
  fun_induction ofChars cs with
  | case1 => rfl
  | case2 b cs first k ih =>
    have fits : k.argument.length ≤ cs.length := Control.argument_within b cs
    have same : Control.ofChar b (cs ++ c :: ds) = k := Control.ofChar_before b control cs ds
    rw [List.cons_append, ofChars, if_pos first, same]
    show Item.control k :: ofChars ((cs ++ c :: ds).drop k.argument.length) = _
    rw [List.drop_append_of_le_length fits, ih]
    rfl
  | case3 b cs first ih =>
    rw [List.cons_append, ofChars, if_neg first, ih]
    rfl

theorem visibleChars_append (items more : List Item) :
    visibleChars (items ++ more) = visibleChars items ++ visibleChars more := by
  induction items with
  | nil => rfl
  | cons item items ih =>
    cases item with
    | visible c => simp only [List.cons_append, visibleChars, ih]
    | control k => simp only [List.cons_append, visibleChars, ih]

theorem spans_control_append (k : Control) (before : List Control) (visible : List Char)
    (items more : List Item) :
    spans before visible (items ++ .control k :: more) =
      spans before visible items ++ spans (before ++ controls items ++ [k]) [] more := by
  induction items generalizing before visible with
  | nil => simp [spans, controls]
  | cons item items ih =>
    cases item with
    | visible c => simp only [List.cons_append, spans, controls, ih]
    | control j =>
      simp only [List.cons_append, spans, controls, ih, List.append_assoc, List.nil_append]

def behind (ahead : List Control) (span : List Control × List Char) : List Control × List Char :=
  (ahead ++ span.1, span.2)

theorem spans_behind (ahead before : List Control) (visible : List Char) (items : List Item) :
    spans (ahead ++ before) visible items = (spans before visible items).map (behind ahead) := by
  induction items generalizing before visible with
  | nil => rfl
  | cons item items ih =>
    cases item with
    | visible c => exact ih before (visible ++ [c])
    | control k =>
      simp only [spans, List.append_assoc, ih, List.map_cons]
      rfl

theorem shown_behind (ahead : List Control) (items : List Item) :
    ((spans ahead [] items).filter fun span => !span.2.isEmpty) =
      (shown items).map (behind ahead) := by
  have later := spans_behind ahead [] [] items
  rw [List.append_nil] at later
  rw [later, List.filter_map]
  rfl

theorem shown_control (k : Control) (items : List Item) :
    shown (.control k :: items) = (shown items).map (behind [k]) := by
  rw [shown, spans, List.nil_append, List.filter_cons_of_neg (by simp), shown_behind]

theorem shown_append (k : Control) (items more : List Item) :
    shown (items ++ .control k :: more) =
      shown items ++ (shown (.control k :: more)).map (behind (controls items)) := by
  have twice : behind (controls items ++ [k]) = behind (controls items) ∘ behind [k] := by
    funext span
    simp [behind]
  rw [shown, spans_control_append, List.filter_append, List.nil_append,
    shown_behind (controls items ++ [k]), twice, shown_control, List.map_map]
  rfl

theorem styleAfter_reset {k : Control} (resets : k.char = Control.reset)
    (ahead rest : List Control) : styleAfter (ahead ++ k :: rest) = styleAfter (k :: rest) := by
  simp only [styleAfter, List.foldl_append, List.foldl_cons, Control.apply_reset resets]

end Item

theorem Text.begins_control {text : String} {b : UInt8}
    (begins : text.toUTF8.data.toList.head? = some b) (control : isControlByte b = true) :
    ∃ c cs, text.toList = c :: cs ∧ isControl c = true ∧ b = UInt8.ofNat c.toNat := by
  rw [toUTF8_bytes] at begins
  cases chars : text.toList with
  | nil =>
    rw [chars] at begins
    contradiction
  | cons c cs =>
    rw [chars, bytes_cons] at begins
    cases coded : isControl c with
    | true =>
      rw [encode_ascii (control_ascii coded)] at begins
      exact ⟨c, cs, rfl, coded, (Option.some.inj begins).symm⟩
    | false =>
      rw [List.head?_append_of_ne_nil _ String.utf8EncodeChar_ne_nil] at begins
      have visible := visible_bytes coded b (List.mem_of_head? begins)
      rw [control] at visible
      contradiction

namespace Scanner

theorem read_utf8 (s : Scanner) (text : String) :
    s.read text.toUTF8 = (Item.shown (Item.ofChars text.toList)).map s.runOf := by
  rw [read, Fallback.decode_utf8, readText_shown]

/-- Let the second of two texts begin with a control byte. Then the runs of the first come first in the
message that both make up, and its visible text is that of the first and then that of the second. If the
control is a reset, the runs are those of the first and then those of the second. -/
theorem read_composes (s : Scanner) (a b : String) {k : UInt8}
    (begins : b.toUTF8.data.toList.head? = some k) (control : isControlByte k = true) :
    s.read a.toUTF8 <+: s.read (a.toUTF8 ++ b.toUTF8) ∧
    s.visibleText (a.toUTF8 ++ b.toUTF8) = s.visibleText a.toUTF8 ++ s.visibleText b.toUTF8 ∧
    (k = 0x0f → s.read (a.toUTF8 ++ b.toUTF8) = s.read a.toUTF8 ++ s.read b.toUTF8) := by
  obtain ⟨c, cs, chars, coded, byte⟩ := Text.begins_control begins control
  have whole : a.toUTF8 ++ b.toUTF8 = (a ++ b).toUTF8 := by
    simp only [String.toUTF8_eq_toByteArray, String.toByteArray_append]
  have items : Item.ofChars (a ++ b).toList = Item.ofChars a.toList ++ Item.ofChars b.toList := by
    rw [String.toList_append, chars, Item.ofChars_append coded]
  obtain ⟨more, second⟩ : ∃ more, Item.ofChars b.toList = .control (Control.ofChar c cs) :: more := by
    rw [chars, Item.ofChars, if_pos coded]
    exact ⟨_, rfl⟩
  have runs : s.read (a ++ b).toUTF8 = s.read a.toUTF8 ++
      ((Item.shown (Item.ofChars b.toList)).map
        (Item.behind (Item.controls (Item.ofChars a.toList)))).map s.runOf := by
    rw [read_utf8, items, second, Item.shown_append, List.map_append, ← read_utf8]
  rw [whole]
  refine ⟨?_, ?_, ?_⟩
  · rw [runs]
    exact List.prefix_append _ _
  · rw [← String.toList_inj, String.toList_append, visibleText_utf8, visibleText_utf8,
      visibleText_utf8, items, Item.visibleChars_append]
  · intro reset
    have resets : (Control.ofChar c cs).char = Control.reset := by
      rw [Control.ofChar_char]
      exact ascii_byte_inj (control_ascii coded) (by decide) (byte.symm.trans reset)
    rw [runs, read_utf8 s b, second, Item.shown_control, List.map_map, List.map_map, List.map_map]
    congr 2
    funext span
    simp only [Function.comp_apply, runOf, Item.behind, List.singleton_append,
      Item.styleAfter_reset resets]

theorem read_composes_unfinished_color :
    let a := "hé\x034,"
    let b := "\x0f12"
    b.toUTF8.data.toList.head? = some 0x0f ∧ isControlByte 0x0f = true ∧
      Scanner.standard.read (a.toUTF8 ++ b.toUTF8) =
        [Run.styled "hé" .plain .standard, Run.styled "," { fg := some 4 } .standard,
          Run.styled "12" .plain .standard] := by
  intro a b
  have begins : b.toUTF8.data.toList.head? = some 0x0f := by decide
  have control : isControlByte 0x0f = true := by decide
  refine ⟨begins, control, ?_⟩
  rw [(read_composes .standard a b begins control).2.2 rfl]
  decide +kernel

end Scanner

end ChatDisplay
