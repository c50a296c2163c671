import ChatDisplay.Proofs.Markup.Reading

/-! The scanner walks over bytes and remembers places; the grammar reads characters and knows no places. They
find the same spans in the same styles. -/
namespace ChatDisplay
open Text

namespace Scanner

theorem spans_nil (style : Style) (start i : Nat) : spans style start i [] = [⟨start, i, style⟩] := by
  rw [spans]

theorem spans_visible (style : Style) (start i : Nat) (passed rest : List UInt8)
    (visible : ∀ b ∈ passed, isControlByte b = false) :
    spans style start i (passed ++ rest) = spans style start (i + passed.length) rest := by
  induction passed generalizing i with
  | nil => rfl
  | cons b passed ih =>
    have hb := visible b List.mem_cons_self
    rw [List.cons_append, spans, hb, if_neg Bool.false_ne_true,
      ih (i + 1) fun d hd => visible d (List.mem_cons_of_mem b hd), List.length_cons]
    congr 1
    omega

theorem spans_control (style : Style) (start i : Nat) {c : Char} {cs : List Char} {k : Control}
    (control : isControl c = true) (isK : Control.ofChar c cs = k) :
    spans style start i (bytes (c :: cs)) =
      ⟨start, i, style⟩ :: spans (k.apply style) (i + 1 + k.argument.length)
        (i + 1 + k.argument.length) (bytes (cs.drop k.argument.length)) := by
  have ascii := control_ascii control
  have reads := Control.read_reads control cs
  rw [isK] at reads
  rw [bytes_cons, encode_ascii ascii, List.singleton_append, spans, isControlByte_ascii ascii,
    control, if_pos rfl]
  simp only [← reads.drop_bytes, reads.style, reads.used]

def cutFrom (text : String) (span : Span) : String × Style :=
  (slice text span.start span.stop, span.style)

theorem cutFrom_chars (before span after : List Char) (style : Style) :
    cutFrom (String.ofList (before ++ span ++ after))
      ⟨String.utf8Len before, String.utf8Len before + String.utf8Len span, style⟩ =
      (String.ofList span, style) := by
  rw [cutFrom, slice, String.extract_of_valid]

end Scanner

def Item.styled (span : List Control × List Char) : String × Style :=
  (String.ofList span.2, Item.styleAfter span.1)

theorem Item.styleAfter_concat (controls : List Control) (k : Control) :
    styleAfter (controls ++ [k]) = k.apply (styleAfter controls) := by
  rw [styleAfter, List.foldl_append]
  rfl

/-- From any place of a text, with the visible characters that were just passed and the controls that
came before them, the scanner finds the spans of the grammar. -/
theorem Scanner.spans_eq (before visible cs : List Char) (controls : List Control) :
    (spans (Item.styleAfter controls) (String.utf8Len before)
      (String.utf8Len before + String.utf8Len visible) (bytes cs)).map
        (cutFrom (String.ofList (before ++ visible ++ cs))) =
      (Item.spans controls visible (Item.ofChars cs)).map Item.styled := by
  fun_induction Item.ofChars cs generalizing before visible controls with
  | case1 =>
    rw [bytes_nil, spans_nil, Item.spans]
    simp only [List.map_cons, List.map_nil, cutFrom_chars, Item.styled]
  | case2 c cs control k ih =>
    have reads : Control.Reads k cs _ := Control.read_reads control cs
    have text : before ++ visible ++ c :: cs =
        before ++ visible ++ c :: k.argument ++ [] ++ cs.drop k.argument.length := by
      have split := List.prefix_iff_eq_append.mp reads.beginning
      rw [List.append_nil, List.append_assoc _ (c :: k.argument), List.cons_append, split]
    have place : String.utf8Len before + String.utf8Len visible + 1 + k.argument.length =
        String.utf8Len (before ++ visible ++ c :: k.argument) := by
      simp only [String.utf8Len_append, String.utf8Len_cons, utf8Len_ascii reads.ascii,
        utf8Size_ascii (control_ascii control)]
      omega
    have next := ih (before ++ visible ++ c :: k.argument) [] (controls ++ [k])
    rw [← text, Item.styleAfter_concat, String.utf8Len_nil, Nat.add_zero] at next
    rw [spans_control _ _ _ control rfl, Item.spans, List.map_cons, List.map_cons, cutFrom_chars,
      place, next]
    rfl
  | case3 c cs control ih =>
    have text : before ++ visible ++ c :: cs = before ++ (visible ++ [c]) ++ cs := by simp
    have place : String.utf8Len before + String.utf8Len visible + c.utf8Size =
        String.utf8Len before + String.utf8Len (visible ++ [c]) := by
      simp [Nat.add_assoc]
    rw [bytes_cons, spans_visible _ _ _ _ _ (visible_bytes (by simpa using control)),
      String.length_utf8EncodeChar, place, text, ih, Item.spans]

def Scanner.runOf? (s : Scanner) (span : String × Style) : Option Run :=
  if span.1.isEmpty then none
  else some (Run.styled span.1 (if s.stripped then .plain else span.2) s.palette)

theorem Scanner.readText_eq (s : Scanner) (text : String) :
    s.readText text =
      ((Item.spans [] [] (Item.ofChars text.toList)).map Item.styled).filterMap s.runOf? := by
  have found := spans_eq [] [] text.toList []
  simp only [List.nil_append, String.ofList_toList, String.utf8Len_nil, Nat.add_zero] at found
  rw [← found, List.filterMap_map, readText, toUTF8_bytes]
  rfl

/-- The two bytes 0xc4 0xe3 of gbk are one character, to be read behind a control byte as anywhere. -/
example :
    let gbk : Fallback := .multiByte .gbk fun bytes =>
      if bytes = [0x02, 0xc4, 0xe3] then ['\x02', '你'] else []
    Scanner.read { fallback := gbk } ⟨#[0x02, 0xc4, 0xe3]⟩ =
      [Run.styled "你" { bold := true } .standard] := by decide +kernel

end ChatDisplay
