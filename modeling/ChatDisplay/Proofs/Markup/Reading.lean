import ChatDisplay.Proofs.Markup.Argument

namespace ChatDisplay.Control
open Text

theorem hexDigit?_digit {c : Char} {n : Nat} (digit : digit? c = some n) :
    hexDigit? c = some n := by
  simp only [digit?] at digit
  split at digit
  · rename_i range
    rw [hexDigit?, if_pos range, digit]
  · contradiction

theorem isDigit_eq_false {c : Char} (noDigit : digit? c = none) : isDigit c = false := by
  rw [isDigit, noDigit]
  rfl

theorem isDigit_of_digit? {c : Char} {n : Nat} (digit : digit? c = some n) : isDigit c = true := by
  rw [isDigit, digit]
  rfl

theorem readNumber_bytes (cs : List Char) : Code.readNumber (bytes cs) =
    (number? (leadingNumber cs)).map fun n => (n, (leadingNumber cs).length) := by
  have heads := head_digit? cs
  cases cs with
  | nil => rfl
  | cons c cs =>
    cases first : digit? c with
    | none =>
      have nothing : leadingNumber (c :: cs) = [] := by
        simp [leadingNumber, isDigit_eq_false first]
      rw [nothing]
      simp only [List.head?_cons, Option.bind_some, first] at heads
      cases shape : bytes (c :: cs) with
      | nil => rfl
      | cons b rest =>
        rw [shape] at heads
        simp only [List.head?_cons, Option.bind_some] at heads
        simp [Code.readNumber, heads, number?]
    | some tens =>
      have digit := isDigit_of_digit? first
      have ascii := digit_ascii digit
      have next := head_digit? cs
      rw [bytes_cons, encode_ascii ascii, List.singleton_append, Code.readNumber,
        digit?_ascii ascii, first]
      simp only [next]
      cases cs with
      | nil =>
        simp [leadingNumber, digit, number?, natOf, hexDigit?_digit first]
      | cons d cs =>
        simp only [List.head?_cons, Option.bind_some]
        cases second : digit? d with
        | none =>
          simp [leadingNumber, digit, isDigit_eq_false second, number?, natOf,
            hexDigit?_digit first]
        | some ones =>
          simp [leadingNumber, digit, isDigit_of_digit? second, number?, natOf,
            hexDigit?_digit first, hexDigit?_digit second]

theorem leadingNumber_ascii (cs : List Char) : ∀ c ∈ leadingNumber cs, c.toNat < 0x80 :=
  fun c hc => digit_ascii (leadingNumber_digits cs c hc)

theorem wrap_eq_colorIndex (n : Nat) : UInt8.ofNat n % 16 = colorIndex n := by
  have sixteen : (16 : UInt8).toNat = 16 := rfl
  apply UInt8.toNat_inj.mp
  rw [colorIndex, UInt8.toNat_mod, UInt8.toNat_ofNat', UInt8.toNat_ofNat', sixteen]
  omega

theorem number?_of_ne_nil {cs : List Char} (digits : cs ≠ []) :
    number? cs = some (natOf 10 cs) := by
  rw [number?, if_neg (by simpa using digits)]

theorem takeWhile_leadingNumber (cs : List Char) :
    (leadingNumber cs).takeWhile (· != ',') = leadingNumber cs :=
  List.takeWhile_eq_self_iff.mpr fun c hc => digit_ne_comma (leadingNumber_digits cs c hc)

theorem dropWhile_leadingNumber (cs : List Char) :
    (leadingNumber cs).dropWhile (· != ',') = [] :=
  List.dropWhile_eq_nil_iff.mpr fun c hc => digit_ne_comma (leadingNumber_digits cs c hc)

theorem apply_noColor (s : Style) : Code.noColor.apply s = (Control.mk color []).apply s := rfl

theorem apply_foreground {cs : List Char} (digits : leadingNumber cs ≠ []) (s : Style) :
    (Code.foreground (natOf 10 (leadingNumber cs))).apply s =
      (Control.mk color (leadingNumber cs)).apply s := by
  have fg : foreground? ⟨'\x03', leadingNumber cs⟩ = some (natOf 10 (leadingNumber cs)) := by
    rw [foreground?, takeWhile_leadingNumber, number?_of_ne_nil digits]
  have bg : background? ⟨'\x03', leadingNumber cs⟩ = none := by
    rw [background?, dropWhile_leadingNumber]
    rfl
  simp only [Control.apply, color, fg, bg, Code.apply, Style.setForeground, wrap_eq_colorIndex]

theorem apply_colors {cs ds : List Char} (digits : leadingNumber cs ≠ [])
    (another : leadingNumber ds ≠ []) (s : Style) :
    (Code.colors (natOf 10 (leadingNumber cs)) (natOf 10 (leadingNumber ds))).apply s =
      (Control.mk color (leadingNumber cs ++ ',' :: leadingNumber ds)).apply s := by
  have noComma : ∀ c ∈ leadingNumber cs, (c != ',') = true :=
    fun c hc => digit_ne_comma (leadingNumber_digits cs c hc)
  have fg : foreground? ⟨'\x03', leadingNumber cs ++ ',' :: leadingNumber ds⟩ =
      some (natOf 10 (leadingNumber cs)) := by
    simp [foreground?, List.takeWhile_append_of_pos noComma, number?_of_ne_nil digits]
  have bg : background? ⟨'\x03', leadingNumber cs ++ ',' :: leadingNumber ds⟩ =
      some (natOf 10 (leadingNumber ds)) := by
    simp [background?, List.dropWhile_append_of_pos noComma, number?_of_ne_nil another]
  simp only [Control.apply, color, fg, bg, Code.apply, Style.setForeground, Style.setBackground,
    wrap_eq_colorIndex]

/-- What was read after a control byte, a code and the number of bytes it took, is a control with an
argument at the beginning of `cs`. -/
structure Reads (k : Control) (cs : List Char) (read : Code × Nat) : Prop where
  beginning : k.argument <+: cs
  ascii : ∀ c ∈ k.argument, c.toNat < 0x80
  used : read.2 = k.argument.length
  style : ∀ s, read.1.apply s = k.apply s

theorem Reads.drop_bytes {k : Control} {cs : List Char} {read : Code × Nat}
    (reads : Reads k cs read) :
    (bytes cs).drop read.2 = bytes (cs.drop k.argument.length) := by
  obtain ⟨rest, rfl⟩ := reads.beginning
  rw [reads.used, drop_bytes_ascii reads.ascii, List.drop_left]

theorem Reads.bare {c : Char} {cs : List Char} {code : Code}
    (style : ∀ s, code.apply s = (Control.mk c []).apply s) : Reads ⟨c, []⟩ cs (code, 0) :=
  ⟨List.nil_prefix, fun _ hc => absurd hc List.not_mem_nil, rfl, style⟩

theorem Reads.foreground {cs : List Char} (digits : leadingNumber cs ≠ []) :
    Reads ⟨color, leadingNumber cs⟩ cs
      (.foreground (natOf 10 (leadingNumber cs)), (leadingNumber cs).length) :=
  ⟨leadingNumber_begins cs, leadingNumber_ascii cs, rfl, apply_foreground digits⟩

theorem Reads.colors {cs rest : List Char} (digits : leadingNumber cs ≠ [])
    (comma : leadingNumber cs ++ ',' :: rest = cs) (another : leadingNumber rest ≠ []) :
    Reads ⟨color, leadingNumber cs ++ ',' :: leadingNumber rest⟩ cs
      (.colors (natOf 10 (leadingNumber cs)) (natOf 10 (leadingNumber rest)),
        (leadingNumber cs).length + 1 + (leadingNumber rest).length) := by
  refine ⟨?_, ?_, ?_, apply_colors digits another⟩
  · obtain ⟨tail, split⟩ := leadingNumber_begins rest
    exact ⟨tail, by rw [List.append_assoc, List.cons_append, split, comma]⟩
  · intro c hc
    obtain first | rfl | second := by simpa using hc
    · exact leadingNumber_ascii cs c first
    · decide
    · exact leadingNumber_ascii rest c second
  · simp only [List.length_append, List.length_cons]
    omega

theorem leadingNumber_comma_ascii (cs : List Char) :
    ∀ c ∈ leadingNumber cs ++ [','], c.toNat < 0x80 := by
  intro c hc
  rcases List.mem_append.mp hc with digit | last
  · exact leadingNumber_ascii cs c digit
  · cases List.mem_singleton.mp last
    decide

/-- The comma after the first number of an argument can be looked for among the bytes. -/
theorem comma_iff (cs : List Char) : (bytes cs)[(leadingNumber cs).length]? = some 0x2c ↔
    ∃ more, cs = leadingNumber cs ++ ',' :: more := by
  obtain ⟨tail, split⟩ := leadingNumber_begins cs
  have rest : (bytes cs).drop (leadingNumber cs).length = bytes tail :=
    calc (bytes cs).drop (leadingNumber cs).length
        = (bytes (leadingNumber cs ++ tail)).drop (leadingNumber cs).length := by rw [split]
      _ = bytes tail := drop_bytes_ascii (leadingNumber_ascii cs) tail
  rw [← List.head?_drop, rest]
  refine (head_ascii (d := ',') (by decide) tail).trans ?_
  constructor
  · intro head
    obtain ⟨more, rfl⟩ := List.head?_eq_some_iff.mp head
    exact ⟨more, split.symm⟩
  · rintro ⟨more, comma⟩
    have same : tail = ',' :: more := List.append_cancel_left (split.trans comma)
    rw [same, List.head?_cons]

theorem drop_comma {cs more : List Char} (comma : cs = leadingNumber cs ++ ',' :: more) :
    (bytes cs).drop ((leadingNumber cs).length + 1) = bytes more := by
  have drop := drop_bytes_ascii (leadingNumber_comma_ascii cs) more
  rwa [List.append_assoc, List.singleton_append, ← comma, List.length_append,
    List.length_singleton] at drop

theorem readColor_reads (cs : List Char) :
    Reads ⟨color, longestArgument cs cs.length⟩ cs (Code.readColor (bytes cs)) := by
  have number := readNumber_bytes cs
  by_cases digits : leadingNumber cs = []
  · rw [digits] at number
    rw [longestArgument_none digits, Code.readColor, number]
    exact .bare apply_noColor
  · rw [number?_of_ne_nil digits] at number
    rw [Code.readColor, number]
    simp only [Option.map_some]
    split
    · rename_i follows
      obtain ⟨more, comma⟩ := (comma_iff cs).mp follows
      have second := readNumber_bytes more
      rw [drop_comma comma, second]
      by_cases another : leadingNumber more = []
      · have alone : ∀ other, cs = leadingNumber cs ++ ',' :: other → leadingNumber other = [] := by
          intro other eq
          have same : more = other := by
            have h := comma.symm.trans eq
            simpa using h
          rw [← same, another]
        rw [longestArgument_one digits alone, another]
        exact .foreground digits
      · rw [longestArgument_two digits comma another, number?_of_ne_nil another]
        exact .colors digits comma.symm another
    · rename_i follows
      have alone : ∀ other, cs = leadingNumber cs ++ ',' :: other → leadingNumber other = [] :=
        fun other comma => absurd ((comma_iff cs).mpr ⟨other, comma⟩) follows
      rw [longestArgument_one digits alone]
      exact .foreground digits

theorem read_reads {c : Char} (control : isControl c = true) (cs : List Char) :
    Reads (ofChar c cs) cs (Code.read (UInt8.ofNat c.toNat) (bytes cs)) := by
  have ascii := control_ascii control
  have char {d : Char} (hd : d.toNat < 0x80) (same : UInt8.ofNat c.toNat = UInt8.ofNat d.toNat) :
      c = d := ascii_byte_inj ascii hd same
  by_cases colored : c = color
  · rw [colored, ofChar, if_pos rfl]
    exact readColor_reads cs
  · rw [ofChar, if_neg colored]
    unfold Code.read
    split
    case h_1 h => cases char (d := '\x02') (by decide) h; exact .bare fun _ => rfl
    case h_2 h => exact absurd (char (d := color) (by decide) h) colored
    case h_3 h => cases char (d := '\x0f') (by decide) h; exact .bare fun _ => rfl
    case h_4 h => cases char (d := '\x16') (by decide) h; exact .bare fun _ => rfl
    case h_5 h => cases char (d := '\x1d') (by decide) h; exact .bare fun _ => rfl
    case h_6 h => cases char (d := '\x1e') (by decide) h; exact .bare fun _ => rfl
    case h_7 h => cases char (d := '\x1f') (by decide) h; exact .bare fun _ => rfl
    case h_8 h2 h3 hf h16 h1d h1e h1f =>
      refine .bare fun s => ?_
      unfold Control.apply
      have byte {d : Char} (h : c = d) : UInt8.ofNat c.toNat = UInt8.ofNat d.toNat := by rw [h]
      split
      case h_1 h => exact (h2 (byte h)).elim
      case h_2 h => exact (h1d (byte h)).elim
      case h_3 h => exact (h1f (byte h)).elim
      case h_4 h => exact (h1e (byte h)).elim
      case h_5 h => exact (h16 (byte h)).elim
      case h_6 h => exact (hf (byte h)).elim
      case h_7 h => exact (h3 (byte h)).elim
      case h_8 => rfl

end ChatDisplay.Control
