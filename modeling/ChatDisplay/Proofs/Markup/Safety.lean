import ChatDisplay.Proofs.Markup.Attributes

/-! The reading of a message with every operation checked that can go wrong. Whole characters are passed
over, and what a code takes along is ASCII, so the text is only cut between characters. -/
namespace ChatDisplay.Scanner
open Text

/-- What would end the reading of a message without runs. -/
inductive Fault where
  | outOfRange
  | insideCharacter
  | overflow
  /-- There were more rounds than bytes. -/
  | endless
  deriving DecidableEq, Repr

section Checked

def checkedByte (text : String) (place : Nat) : Except Fault UInt8 :=
  match text.toUTF8.data.toList[place]? with
  | some b => .ok b
  | none => .error .outOfRange

def isBetween (text : String) (place : Nat) : Bool := String.Pos.Raw.isValid text ⟨place⟩

def checkedSlice (text : String) (start stop : Nat) : Except Fault String :=
  if start ≤ stop ∧ stop ≤ text.utf8ByteSize then
    if isBetween text start && isBetween text stop then .ok (slice text start stop)
    else .error .insideCharacter
  else .error .outOfRange

def checkedTail (text : String) (place : Nat) : Except Fault (List UInt8) :=
  if place ≤ text.utf8ByteSize then
    if isBetween text place then .ok (text.toUTF8.data.toList.drop place)
    else .error .insideCharacter
  else .error .outOfRange

def checkedSub (a b : UInt8) : Except Fault UInt8 :=
  if b ≤ a then .ok (a - b) else .error .overflow

def checkedAdd (a b : UInt8) : Except Fault UInt8 :=
  if a.toNat + b.toNat < 256 then .ok (a + b) else .error .overflow

def checkedMul (a b : UInt8) : Except Fault UInt8 :=
  if a.toNat * b.toNat < 256 then .ok (a * b) else .error .overflow

def checkedDigit (b : UInt8) : Except Fault (Option UInt8) :=
  if 0x30 ≤ b ∧ b ≤ 0x39 then do
    let value ← checkedSub b 0x30
    return some value
  else return none

def checkedNumber : List UInt8 → Except Fault (Option (UInt8 × Nat))
  | [] => return none
  | first :: rest => do
    match ← checkedDigit first with
    | none => return none
    | some tens =>
      match rest.head? with
      | none => return some (tens, 1)
      | some second =>
        match ← checkedDigit second with
        | none => return some (tens, 1)
        | some ones =>
          let shifted ← checkedMul tens 10
          let value ← checkedAdd shifted ones
          return some (value, 2)

/-- The style after a color control whose argument would begin at a place, and the length of it. -/
def checkedColor (text : String) (place : Nat) (style : Style) : Except Fault (Style × Nat) := do
  let rest ← checkedTail text place
  match ← checkedNumber rest with
  | none => return (style.clearColors, 0)
  | some (fg, used) =>
    let style := style.setForeground fg
    if rest[used]? = some 0x2c then
      let behind ← checkedTail text (place + used + 1)
      match ← checkedNumber behind with
      | none => return (style, used)
      | some (bg, more) => return (style.setBackground bg, used + 1 + more)
    else return (style, used)

def checkedCode (text : String) (place : Nat) (b : UInt8) (style : Style) :
    Except Fault (Style × Nat) :=
  if b = 0x03 then checkedColor text place style
  else return ((Code.read b []).1.apply style, 0)

/-- Adds the run of a span, if there is any text in it. -/
def checkedFlush (s : Scanner) (text : String) (start stop : Nat) (style : Style) (runs : List Run) :
    Except Fault (List Run) := do
  let visible ← checkedSlice text start stop
  if visible.isEmpty then return runs
  else return runs ++ [Run.styled visible (if s.stripped then .plain else style) s.palette]

/-- The rounds from byte `i` on, at most so many of them, where the span that is being read begins at
`start` and `runs` are finished. -/
def checkedRounds (s : Scanner) (text : String) :
    Nat → Nat → Nat → Style → List Run → Except Fault (List Run)
  | 0, _, _, _, _ => .error .endless
  | rounds + 1, start, i, style, runs =>
    if i < text.utf8ByteSize then do
      let b ← checkedByte text i
      if isControlByte b then
        let runs ← checkedFlush s text start i style runs
        let (style, used) ← checkedCode text (i + 1) b style
        checkedRounds s text rounds (i + 1 + used) (i + 1 + used) style runs
      else checkedRounds s text rounds start (i + 1) style runs
    else checkedFlush s text start text.utf8ByteSize style runs

/-- A round for each byte, and one at the end. -/
def checkedRead (s : Scanner) (raw : ByteArray) : Except Fault (List Run) :=
  let text := s.fallback.decode raw
  checkedRounds s text (text.utf8ByteSize + 1) 0 0 .plain []

end Checked

theorem ok_bind {α β : Type} (a : α) (f : α → Except Fault β) : (Except.ok a >>= f) = f a := rfl

section Places
variable (before after : List Char)

theorem isBetween_chars :
    isBetween (String.ofList (before ++ after)) (String.utf8Len before) = true := by
  rw [isBetween, String.Pos.Raw.isValid_eq_true_iff, String.Pos.Raw.isValid_iff_exists_append]
  exact ⟨String.ofList before, String.ofList after, String.ofList_append,
    (String.rawEndPos_ofList before).symm⟩

theorem checkedTail_chars :
    checkedTail (String.ofList (before ++ after)) (String.utf8Len before) = .ok (bytes after) := by
  have within : String.utf8Len before ≤ (String.ofList (before ++ after)).utf8ByteSize := by
    rw [String.utf8ByteSize_ofList, String.utf8Len_append]
    exact Nat.le_add_right _ _
  have rest : (String.ofList (before ++ after)).toUTF8.data.toList.drop (String.utf8Len before) =
      bytes after := by
    rw [toUTF8_bytes, String.toList_ofList, bytes_append, ← length_bytes, List.drop_left]
  rw [checkedTail, if_pos within, if_pos (isBetween_chars before after), rest]

theorem checkedSlice_chars (span : List Char) :
    checkedSlice (String.ofList (before ++ span ++ after)) (String.utf8Len before)
      (String.utf8Len before + String.utf8Len span) =
      .ok (slice (String.ofList (before ++ span ++ after)) (String.utf8Len before)
        (String.utf8Len before + String.utf8Len span)) := by
  have within : String.utf8Len before + String.utf8Len span ≤
      (String.ofList (before ++ span ++ after)).utf8ByteSize := by
    rw [String.utf8ByteSize_ofList, String.utf8Len_append, String.utf8Len_append]
    exact Nat.le_add_right _ _
  have start := isBetween_chars before (span ++ after)
  rw [← List.append_assoc] at start
  have stop := isBetween_chars (before ++ span) after
  rw [String.utf8Len_append] at stop
  rw [checkedSlice, if_pos ⟨Nat.le_add_right _ _, within⟩, start, stop]
  rfl

theorem checkedFlush_chars (s : Scanner) (span : List Char) (style : Style) (runs : List Run) :
    checkedFlush s (String.ofList (before ++ span ++ after)) (String.utf8Len before)
      (String.utf8Len before + String.utf8Len span) style runs =
      .ok (runs ++ (s.run? (String.ofList (before ++ span ++ after))
        ⟨String.utf8Len before, String.utf8Len before + String.utf8Len span, style⟩).toList) := by
  rw [checkedFlush, checkedSlice_chars, ok_bind, run?]
  split
  · simp [pure, Except.pure]
  · rfl

end Places

section Colors

theorem digit?_le {b : UInt8} {n : Nat} (digit : Code.digit? b = some n) : n ≤ 9 := by
  rw [Code.digit?] at digit
  split at digit
  · rename_i range
    have upper : b.toNat ≤ 0x39 := UInt8.le_iff_toNat_le.mp range.2
    cases digit
    omega
  · contradiction

theorem checkedDigit_eq (b : UInt8) :
    checkedDigit b = .ok ((Code.digit? b).map UInt8.ofNat) := by
  rw [checkedDigit, Code.digit?]
  split
  · rename_i range
    have value : b - 0x30 = UInt8.ofNat (b.toNat - 0x30) := by
      apply UInt8.toNat_inj.mp
      have top := b.toNat_lt
      rw [UInt8.toNat_sub_of_le b 0x30 range.1, UInt8.toNat_ofNat', Nat.mod_eq_of_lt (by omega)]
      rfl
    rw [checkedSub, if_pos range.1, ok_bind, value]
    rfl
  · rfl

theorem checkedMul_ten {a : Nat} (small : a * 10 < 256) :
    checkedMul (UInt8.ofNat a) 10 = .ok (UInt8.ofNat (a * 10)) := by
  have byte : (UInt8.ofNat a).toNat = a := by
    rw [UInt8.toNat_ofNat']
    omega
  have ten : (10 : UInt8).toNat = 10 := rfl
  rw [checkedMul, byte, ten, if_pos small, UInt8.ofNat_mul]
  rfl

theorem checkedAdd_ofNat {a b : Nat} (small : a + b < 256) :
    checkedAdd (UInt8.ofNat a) (UInt8.ofNat b) = .ok (UInt8.ofNat (a + b)) := by
  have sum : (UInt8.ofNat a).toNat + (UInt8.ofNat b).toNat < 256 := by
    rw [UInt8.toNat_ofNat', UInt8.toNat_ofNat']
    omega
  rw [checkedAdd, if_pos sum, UInt8.ofNat_add]

theorem checkedNumber_eq (bytes : List UInt8) : checkedNumber bytes =
    .ok ((Code.readNumber bytes).map fun number => (UInt8.ofNat number.1, number.2)) := by
  cases bytes with
  | nil => rfl
  | cons a rest =>
    rw [checkedNumber, Code.readNumber, checkedDigit_eq, ok_bind]
    cases first : Code.digit? a with
    | none => rfl
    | some tens =>
      cases rest with
      | nil => rfl
      | cons b rest =>
        simp only [Option.map_some, List.head?_cons, Option.bind_some, checkedDigit_eq, ok_bind]
        cases second : Code.digit? b with
        | none => rfl
        | some ones =>
          -- The greatest number of two digits is 99.
          have upper := digit?_le first
          have lower := digit?_le second
          have product : tens * 10 < 256 := by omega
          have sum : tens * 10 + ones < 256 := by omega
          simp only [Option.map_some, checkedMul_ten product, checkedAdd_ofNat sum, ok_bind]
          rfl

theorem checkedColor_eq (before cs : List Char) (style : Style) :
    checkedColor (String.ofList (before ++ cs)) (String.utf8Len before) style =
      .ok ((Code.readColor (bytes cs)).1.apply style, (Code.readColor (bytes cs)).2) := by
  have number := Control.readNumber_bytes cs
  rw [checkedColor, checkedTail_chars, ok_bind, checkedNumber_eq, ok_bind, Code.readColor, number]
  cases Control.number? (Control.leadingNumber cs) with
  | none => rfl
  | some fg =>
    simp only [Option.map_some]
    split
    · rename_i follows
      obtain ⟨more, comma⟩ := (Control.comma_iff cs).mp follows
      have behind := Control.drop_comma comma
      have ascii := Control.leadingNumber_comma_ascii cs
      generalize Control.leadingNumber cs = digits at comma behind ascii ⊢
      have text : before ++ cs = before ++ (digits ++ [',']) ++ more := by
        simp only [comma, List.append_assoc, List.singleton_append]
      have place : String.utf8Len before + digits.length + 1 =
          String.utf8Len (before ++ (digits ++ [','])) := by
        rw [String.utf8Len_append, utf8Len_ascii ascii, List.length_append, List.length_singleton]
        omega
      rw [text, place, checkedTail_chars, ok_bind, checkedNumber_eq, ok_bind, behind]
      cases Code.readNumber (bytes more) with
      | none => rfl
      | some bg => rfl
    · rfl

theorem read_lone {b : UInt8} (other : b ≠ 0x03) (rest : List UInt8) :
    Code.read b rest = ((Code.read b []).1, 0) := by
  unfold Code.read
  split
  case h_2 => contradiction
  all_goals rfl

theorem checkedCode_eq (before cs : List Char) {c : Char} (control : isControl c = true)
    (style : Style) :
    checkedCode (String.ofList (before ++ cs)) (String.utf8Len before) (UInt8.ofNat c.toNat) style =
      .ok ((Control.ofChar c cs).apply style, (Control.ofChar c cs).argument.length) := by
  have reads := Control.read_reads control cs
  rw [← reads.style, ← reads.used, checkedCode]
  split
  · rename_i colored
    rw [checkedColor_eq, colored]
    rfl
  · rename_i other
    rw [read_lone other (bytes cs)]
    rfl

end Colors

section Rounds

variable (s : Scanner)

theorem checkedRounds_visible {text : String} {passed : List UInt8}
    (visible : ∀ b ∈ passed, isControlByte b = false) {before after : List UInt8}
    (whole : text.toUTF8.data.toList = before ++ passed ++ after) (rounds start : Nat) (style : Style)
    (runs : List Run) :
    checkedRounds s text (rounds + passed.length) start before.length style runs =
      checkedRounds s text rounds start (before.length + passed.length) style runs := by
  induction passed generalizing before with
  | nil => rfl
  | cons b passed ih =>
    have size : text.utf8ByteSize = (before ++ b :: passed ++ after).length := by
      rw [← whole]
      rfl
    have inside : before.length < text.utf8ByteSize := by
      rw [size]
      simp
    have look : checkedByte text before.length = .ok b := by
      rw [checkedByte, whole]
      simp
    have here := visible b List.mem_cons_self
    have split : text.toUTF8.data.toList = before ++ [b] ++ passed ++ after := by
      simpa using whole
    have next := ih (fun d later => visible d (List.mem_cons_of_mem b later)) split
    rw [List.length_append, List.length_singleton] at next
    rw [List.length_cons, ← Nat.add_assoc, checkedRounds, if_pos inside, look, ok_bind, here,
      if_neg Bool.false_ne_true, next]
    congr 1
    omega

theorem checkedByte_chars (before cs : List Char) {c : Char} (ascii : c.toNat < 0x80) :
    checkedByte (String.ofList (before ++ c :: cs)) (String.utf8Len before) =
      .ok (UInt8.ofNat c.toNat) := by
  rw [checkedByte, toUTF8_bytes, String.toList_ofList, bytes_append, bytes_cons, encode_ascii ascii,
    ← length_bytes]
  simp

theorem utf8ByteSize_chars (before visible cs : List Char) :
    (String.ofList (before ++ visible ++ cs)).utf8ByteSize =
      String.utf8Len before + String.utf8Len visible + String.utf8Len cs := by
  rw [String.utf8ByteSize_ofList, String.utf8Len_append, String.utf8Len_append]

theorem filterMap_span (text : String) (span : Span) (spans : List Span) :
    (span :: spans).filterMap (s.run? text) =
      (s.run? text span).toList ++ spans.filterMap (s.run? text) := by
  rw [List.filterMap_cons]
  cases s.run? text span with
  | none => rfl
  | some run => rfl

/-- A control ends the span that is being read, and the round after it begins behind its argument. -/
theorem checkedRounds_control (before visible cs : List Char) {c : Char}
    (control : isControl c = true) (rounds : Nat) (style : Style) (runs : List Run) :
    let text := String.ofList (before ++ visible ++ c :: cs)
    let k := Control.ofChar c cs
    let place := String.utf8Len before + String.utf8Len visible
    checkedRounds s text (rounds + 1) (String.utf8Len before) place style runs =
      checkedRounds s text rounds (place + 1 + k.argument.length) (place + 1 + k.argument.length)
        (k.apply style) (runs ++ (s.run? text ⟨String.utf8Len before, place, style⟩).toList) := by
  intro text k place
  have ascii := control_ascii control
  have inside : place < text.utf8ByteSize := by
    rw [utf8ByteSize_chars, String.utf8Len_cons, utf8Size_ascii ascii]
    omega
  have look := checkedByte_chars (before ++ visible) cs ascii
  have code := checkedCode_eq (before ++ visible ++ [c]) cs control style
  rw [List.append_assoc _ [c], List.singleton_append] at code
  simp only [String.utf8Len_append, String.utf8Len_cons, String.utf8Len_nil, utf8Size_ascii ascii,
    Nat.zero_add] at look code
  rw [checkedRounds, if_pos inside, look, ok_bind, isControlByte_ascii ascii, if_pos control,
    checkedFlush_chars, ok_bind, code]
  rfl

/-- From any place of a text, with the visible characters that were just passed, the rounds end with the
runs of the spans that are left, if there is one round for each byte and one more. -/
theorem checkedRounds_eq (before visible cs : List Char) (style : Style) (runs : List Run)
    (spare : Nat) :
    checkedRounds s (String.ofList (before ++ visible ++ cs)) (String.utf8Len cs + spare + 1)
      (String.utf8Len before) (String.utf8Len before + String.utf8Len visible) style runs =
      .ok (runs ++ (spans style (String.utf8Len before)
        (String.utf8Len before + String.utf8Len visible) (bytes cs)).filterMap
          (s.run? (String.ofList (before ++ visible ++ cs)))) := by
  fun_induction Item.ofChars cs generalizing before visible style runs spare with
  | case1 =>
    have size := utf8ByteSize_chars before visible []
    rw [String.utf8Len_nil, Nat.add_zero] at size
    rw [checkedRounds, if_neg (by omega), size, checkedFlush_chars, bytes_nil, spans_nil,
      filterMap_span, List.filterMap_nil]
    simp
  | case2 c cs control k ih =>
    have ascii := control_ascii control
    have reads : Control.Reads k cs _ := Control.read_reads control cs
    have split := List.prefix_iff_eq_append.mp reads.beginning
    have argument := utf8Len_ascii reads.ascii
    have text : before ++ visible ++ c :: cs =
        before ++ visible ++ c :: k.argument ++ [] ++ cs.drop k.argument.length := by
      rw [List.append_nil, List.append_assoc _ (c :: k.argument), List.cons_append, split]
    have place : String.utf8Len before + String.utf8Len visible + 1 + k.argument.length =
        String.utf8Len (before ++ visible ++ c :: k.argument) := by
      simp only [String.utf8Len_append, String.utf8Len_cons, argument, utf8Size_ascii ascii]
      omega
    have rounds : String.utf8Len (c :: cs) + spare =
        String.utf8Len (cs.drop k.argument.length) + (spare + k.argument.length) + 1 := by
      rw [String.utf8Len_cons, utf8Size_ascii ascii, ← split, String.utf8Len_append, argument, split]
      omega
    have next := ih (before ++ visible ++ c :: k.argument) [] (k.apply style)
    simp only [← text, String.utf8Len_nil, Nat.add_zero, ← place] at next
    rw [checkedRounds_control s before visible cs control, spans_control _ _ _ control rfl,
      filterMap_span, rounds, ← List.append_assoc]
    exact next _ _
  | case3 c cs control ih =>
    have text : before ++ visible ++ c :: cs = before ++ (visible ++ [c]) ++ cs := by simp
    have place : String.utf8Len before + String.utf8Len visible + c.utf8Size =
        String.utf8Len before + String.utf8Len (visible ++ [c]) := by
      simp [Nat.add_assoc]
    have rounds : String.utf8Len (c :: cs) + spare + 1 =
        String.utf8Len cs + spare + 1 + (String.utf8EncodeChar c).length := by
      rw [String.utf8Len_cons, String.length_utf8EncodeChar]
      omega
    have whole : (String.ofList (before ++ visible ++ c :: cs)).toUTF8.data.toList =
        bytes (before ++ visible) ++ String.utf8EncodeChar c ++ bytes cs := by
      rw [toUTF8_bytes, String.toList_ofList, bytes_append, bytes_cons, List.append_assoc]
    have passed := checkedRounds_visible s (visible_bytes (by simpa using control)) whole
      (String.utf8Len cs + spare + 1) (String.utf8Len before) style runs
    rw [length_bytes, String.utf8Len_append] at passed
    rw [rounds, passed, bytes_cons, spans_visible _ _ _ _ _ (visible_bytes (by simpa using control)),
      String.length_utf8EncodeChar, place, text]
    exact ih before (visible ++ [c]) style runs spare

theorem checkedRead_eq (raw : ByteArray) : s.checkedRead raw = .ok (s.read raw) := by
  have rounds := checkedRounds_eq s [] [] (s.fallback.decode raw).toList .plain [] 0
  simp only [List.nil_append, String.ofList_toList, String.utf8Len_nil, Nat.add_zero,
    String.utf8Len_toList, ← toUTF8_bytes] at rounds
  exact rounds

end Rounds

section Runs

theorem colorIndex_lt (n : Nat) : Control.colorIndex n < 16 := by
  rw [UInt8.lt_iff_toNat_lt, Control.colorIndex, UInt8.toNat_ofNat']
  exact Nat.lt_of_le_of_lt (Nat.mod_le _ _) (Nat.mod_lt n (by decide))

theorem styleAfter_colors (controls : List Control) (index : UInt8) :
    ((Item.styleAfter controls).fg = some index → index < 16) ∧
      ((Item.styleAfter controls).bg = some index → index < 16) := by
  have sums := Item.styleAfter_sumsUp controls
  constructor
  · intro here
    rw [sums.fg] at here
    obtain ⟨n, -, rfl⟩ := Option.map_eq_some_iff.mp here
    exact colorIndex_lt n
  · intro here
    rw [sums.bg] at here
    obtain ⟨n, -, rfl⟩ := Option.map_eq_some_iff.mp here
    exact colorIndex_lt n

theorem shown_visible (cs : List Char) : ∀ span ∈ Item.shown (Item.ofChars cs),
    span.2 ≠ [] ∧ ∀ c ∈ span.2, isControl c = false := by
  intro span here
  refine ⟨by simpa using (List.mem_filter.mp here).2, ?_⟩
  intro c inside
  have there := List.mem_flatMap.mpr ⟨span, here, inside⟩
  rw [Item.flatMap_shown] at there
  exact Item.visibleChars_visible cs c there

end Runs

/-- Whatever the bytes, the fallback and the palette, nothing fails, with no more rounds than there are bytes
and one at the end. No run is without text or has a control in it, and its colors are in the palette. -/
theorem reading_never_fails (s : Scanner) (raw : ByteArray) :
    s.checkedRead raw = .ok (s.read raw) ∧
    ∀ run ∈ s.read raw, run.text ≠ "" ∧ hasControl run.text = false ∧
      ∀ index, (run.style.fg = some index → index < 16) ∧
        (run.style.bg = some index → index < 16) := by
  refine ⟨s.checkedRead_eq raw, ?_⟩
  intro run here
  rw [read, readText_shown] at here
  obtain ⟨span, there, rfl⟩ := List.mem_map.mp here
  obtain ⟨some, visible⟩ := shown_visible _ span there
  refine ⟨?_, ?_, ?_⟩
  · simpa [runOf, Run.styled] using some
  · rw [Text.hasControl_iff]
    simpa [runOf, Run.styled] using visible
  · intro index
    cases stripped : s.stripped with
    | true => simp [runOf, Run.styled, stripped, Style.plain]
    | false =>
      have colors := styleAfter_colors span.1 index
      simpa [runOf, Run.styled, stripped] using colors

/-- Begun in the middle of a character, or with too few rounds, the reading would fail. -/
example : checkedRounds .standard "é" 3 1 1 .plain [] = .error .insideCharacter ∧
    checkedRounds .standard "é" 2 0 0 .plain [] = .error .endless := by decide +kernel

end ChatDisplay.Scanner
