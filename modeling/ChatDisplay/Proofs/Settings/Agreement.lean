import ChatDisplay.Proofs.Markup.Colors
import ChatDisplay.Session.Basic
import ChatDisplay.Settings.Builder
import ChatDisplay.Settings.Document

namespace ChatDisplay.Settings

/-- The label means an encoding, and the palette is sixteen colors. -/
structure Correct (decoders : Decoders) (s : Settings) : Prop where
  encoding : ∀ label ∈ s.fallbackEncoding, ∃ f, Fallback.ofLabel decoders label = .ok f
  palette : ∀ entries ∈ s.palette, entries.length = 16 ∧
    ∀ entry ∈ entries, (Color.parse? entry).isSome

structure Describes (decoders : Decoders) (s : Settings) (scanner : Scanner) : Prop where
  standard : s.palette = none → scanner.palette = .standard
  palette : ∀ entries ∈ s.palette, Palette.Outcome entries (.ok scanner.palette)
  latin1 : s.fallbackEncoding = none → scanner.fallback = .latin1
  encoding : ∀ label ∈ s.fallbackEncoding, Fallback.ofLabel decoders label = .ok scanner.fallback
  stripped : scanner.stripped = s.stripFormatting

/-- The fault is the one that the check, the scanner and the session tell. -/
structure Told (decoders : Decoders) (s : Settings) (e : SettingsError) : Prop where
  validate : s.validate decoders = .error e
  scanner : s.scanner decoders = .error e
  start : Session.start decoders s = .error e

section Results
variable {α β : Type} {x : Except SettingsError α} {g : α → Except SettingsError β} {b : β}
  {e : SettingsError}

theorem bind_ok : x >>= g = .ok b ↔ ∃ a, x = .ok a ∧ g a = .ok b := by
  cases x <;> simp [bind, Except.bind]

theorem bind_error : x >>= g = .error e ↔ x = .error e ∨ ∃ a, x = .ok a ∧ g a = .error e := by
  cases x <;> simp [bind, Except.bind]

end Results

section Checking
variable {decoders : Decoders} {s : Settings} {scanner : Scanner} {session : Session} {p : Palette}
  {f : Fallback} {e : SettingsError}

theorem validate_ok_iff : s.validate decoders = .ok () ↔
    (∃ f, s.fallback decoders = .ok f) ∧ ∃ p, s.colors = .ok p := by
  simp [validate, bind_ok, pure, Except.pure]

theorem validate_error_iff : s.validate decoders = .error e ↔
    s.fallback decoders = .error e ∨ (∃ f, s.fallback decoders = .ok f) ∧ s.colors = .error e := by
  simp [validate, bind_error, pure, Except.pure]

theorem scanner_ok_iff : s.scanner decoders = .ok scanner ↔ s.colors = .ok scanner.palette ∧
    s.fallback decoders = .ok scanner.fallback ∧ scanner.stripped = s.stripFormatting := by
  simp only [Settings.scanner, bind_ok, pure, Except.pure, Except.ok.injEq]
  constructor
  · rintro ⟨p, colors, f, fallback, rfl⟩
    exact ⟨colors, fallback, rfl⟩
  · rintro ⟨colors, fallback, stripped⟩
    exact ⟨_, colors, _, fallback, by rw [← stripped]⟩

theorem scanner_error_iff : s.scanner decoders = .error e ↔
    s.colors = .error e ∨ (∃ p, s.colors = .ok p) ∧ s.fallback decoders = .error e := by
  simp [Settings.scanner, bind_error, pure, Except.pure]

theorem start_ok_iff : Session.start decoders s = .ok session ↔
    ∃ scanner, s.scanner decoders = .ok scanner ∧ Session.idle s scanner = session := by
  simp [Session.start, bind_ok, pure, Except.pure]

theorem start_error_iff : Session.start decoders s = .error e ↔ s.scanner decoders = .error e := by
  simp [Session.start, bind_error, pure, Except.pure]

theorem checked_ok_iff {t : Settings} :
    s.checked decoders = .ok t ↔ s.validate decoders = .ok () ∧ s = t := by
  simp only [checked, bind_ok, pure, Except.pure, Except.ok.injEq]
  exact ⟨fun ⟨_, right⟩ => right, fun right => ⟨(), right⟩⟩

theorem told_encoding (wrong : s.fallback decoders = .error e) (right : s.colors = .ok p) :
    s.Told decoders e := by
  have scanner : s.scanner decoders = .error e := scanner_error_iff.mpr (.inr ⟨⟨p, right⟩, wrong⟩)
  exact ⟨validate_error_iff.mpr (.inl wrong), scanner, start_error_iff.mpr scanner⟩

theorem told_palette (wrong : s.colors = .error e) (right : s.fallback decoders = .ok f) :
    s.Told decoders e := by
  have scanner : s.scanner decoders = .error e := scanner_error_iff.mpr (.inl wrong)
  exact ⟨validate_error_iff.mpr (.inr ⟨⟨f, right⟩, wrong⟩), scanner, start_error_iff.mpr scanner⟩

theorem fallback_exists_iff : (∃ f, s.fallback decoders = .ok f) ↔
    ∀ label ∈ s.fallbackEncoding, ∃ f, Fallback.ofLabel decoders label = .ok f := by
  rw [Settings.fallback]
  cases s.fallbackEncoding <;> simp

theorem colors_exists_iff : (∃ p, s.colors = .ok p) ↔ ∀ entries ∈ s.palette,
    entries.length = 16 ∧ ∀ entry ∈ entries, (Color.parse? entry).isSome := by
  rw [colors]
  cases s.palette <;> simp [Palette.ofEntries_ok_iff]

theorem validate_iff_correct : s.validate decoders = .ok () ↔ s.Correct decoders := by
  rw [validate_ok_iff, fallback_exists_iff, colors_exists_iff]
  exact ⟨fun right => ⟨right.1, right.2⟩, fun right => ⟨right.encoding, right.palette⟩⟩

theorem scanner_iff_correct : (∃ scanner, s.scanner decoders = .ok scanner) ↔ s.Correct decoders := by
  rw [← validate_iff_correct, validate_ok_iff]
  constructor
  · rintro ⟨scanner, made⟩
    obtain ⟨colors, fallback, -⟩ := scanner_ok_iff.mp made
    exact ⟨⟨_, fallback⟩, _, colors⟩
  · rintro ⟨⟨f, fallback⟩, p, colors⟩
    exact ⟨⟨p, f, s.stripFormatting⟩, scanner_ok_iff.mpr ⟨colors, fallback, rfl⟩⟩

theorem start_iff_correct : (∃ session, Session.start decoders s = .ok session) ↔ s.Correct decoders := by
  simp [start_ok_iff, ← scanner_iff_correct]

theorem colors_ok_iff : s.colors = .ok p ↔ (s.palette = none → p = .standard) ∧
    ∀ entries ∈ s.palette, Palette.Outcome entries (.ok p) := by
  rw [colors]
  cases s.palette with
  | none => simp [eq_comm]
  | some entries => simp [Palette.outcome_iff]

theorem fallback_ok_iff : s.fallback decoders = .ok f ↔ (s.fallbackEncoding = none → f = .latin1) ∧
    ∀ label ∈ s.fallbackEncoding, Fallback.ofLabel decoders label = .ok f := by
  rw [Settings.fallback]
  cases s.fallbackEncoding <;> simp [eq_comm]

theorem scanner_iff_describes : s.scanner decoders = .ok scanner ↔ s.Describes decoders scanner := by
  rw [scanner_ok_iff, colors_ok_iff, fallback_ok_iff]
  constructor
  · rintro ⟨⟨standard, palette⟩, ⟨latin1, encoding⟩, stripped⟩
    exact ⟨standard, palette, latin1, encoding, stripped⟩
  · rintro ⟨standard, palette, latin1, encoding, stripped⟩
    exact ⟨⟨standard, palette⟩, ⟨latin1, encoding⟩, stripped⟩

end Checking

section Building
variable {decoders : Decoders} {s t : Settings} {choices : List Choice}

def Choice.suffix? : Choice → Option String
  | .completionSuffix suffix => some suffix
  | _ => none

def Choice.label? : Choice → Option String
  | .fallbackEncoding label => some label
  | _ => none

def Choice.strip? : Choice → Option Bool
  | .stripFormatting strip => some strip
  | _ => none

def Choice.entries? : Choice → Option (List String)
  | .palette entries => some entries
  | _ => none

def lastChosen {α : Type} (pick : Choice → Option α) (choices : List Choice) : Option α :=
  (choices.filterMap pick).getLast?

/-- Each setting is as it was chosen last, or as it is without a choice. -/
structure Chosen (choices : List Choice) (s : Settings) : Prop where
  suffix : s.completionSuffix = (lastChosen Choice.suffix? choices).getD ":"
  encoding : s.fallbackEncoding = lastChosen Choice.label? choices
  strip : s.stripFormatting = (lastChosen Choice.strip? choices).getD false
  palette : s.palette = lastChosen Choice.entries? choices

theorem lastChosen_concat {α : Type} (pick : Choice → Option α) (choices : List Choice) (c : Choice) :
    lastChosen pick (choices ++ [c]) = (pick c).or (lastChosen pick choices) := by
  cases picked : pick c <;> simp [lastChosen, picked]

theorem chosen_foldl (choices : List Choice) : Chosen choices (choices.foldl choose {}) := by
  induction choices using List.reverseRecOn with
  | nil => constructor <;> rfl
  | append_singleton choices c ih =>
    rw [List.foldl_concat]
    -- the last choice decides one setting and leaves the others as they were chosen before
    cases c <;> constructor <;>
      simp [choose, lastChosen_concat, Choice.suffix?, Choice.label?, Choice.strip?, Choice.entries?,
        ih.suffix, ih.encoding, ih.strip, ih.palette]

theorem Chosen.unique (one : Chosen choices s) (other : Chosen choices t) : s = t := by
  cases s
  cases t
  simp only [mk.injEq]
  exact ⟨one.suffix.trans other.suffix.symm, one.encoding.trans other.encoding.symm,
    one.strip.trans other.strip.symm, one.palette.trans other.palette.symm⟩

theorem build_ok_iff : build decoders choices = .ok s ↔ Chosen choices s ∧ s.Correct decoders := by
  rw [build, checked_ok_iff, validate_iff_correct]
  constructor
  · rintro ⟨right, rfl⟩
    exact ⟨chosen_foldl choices, right⟩
  · rintro ⟨chosen, right⟩
    obtain rfl := (chosen_foldl choices).unique chosen
    exact ⟨right, rfl⟩

theorem ofToml_correct {text : String} (read : ofToml decoders text = .ok s) : s.Correct decoders := by
  rw [ofToml] at read
  split at read
  · contradiction
  · obtain ⟨t, -, checked⟩ := bind_ok.mp read
    obtain ⟨right, rfl⟩ := checked_ok_iff.mp checked
    exact validate_iff_correct.mp right

end Building

/-- Settings pass their check just if a scanner can be made from them and a session started with them. If
only one of the label and the palette is wrong its fault is told every time; if both are, the check tells
that of the label, the others that of the palette. What was built is what was chosen and passes, and so
does what was read from a document. -/
theorem checked_settings_usable (decoders : Decoders) (s : Settings) :
    (s.validate decoders = .ok () ↔ s.Correct decoders) ∧
    ((∃ scanner, s.scanner decoders = .ok scanner) ↔ s.Correct decoders) ∧
    ((∃ session, Session.start decoders s = .ok session) ↔ s.Correct decoders) ∧
    (∀ e p, s.fallback decoders = .error e → s.colors = .ok p → s.Told decoders e) ∧
    (∀ e f, s.colors = .error e → s.fallback decoders = .ok f → s.Told decoders e) ∧
    (∀ e d, s.fallback decoders = .error e → s.colors = .error d →
      s.validate decoders = .error e ∧ s.scanner decoders = .error d ∧
        Session.start decoders s = .error d) ∧
    (∀ choices, build decoders choices = .ok s ↔ Chosen choices s ∧ s.Correct decoders) ∧
    (∀ text, ofToml decoders text = .ok s → s.Correct decoders) ∧
    (∀ scanner, s.scanner decoders = .ok scanner ↔ s.Describes decoders scanner) ∧
    (∀ scanner, s.scanner decoders = .ok scanner →
      Session.start decoders s = .ok (Session.idle s scanner) ∧
      ∃ p f, s.colors = .ok p ∧ s.fallback decoders = .ok f ∧ ∀ raw, scanner.read raw =
        Scanner.read { palette := p, fallback := f, stripped := s.stripFormatting } raw) := by
  refine ⟨validate_iff_correct, scanner_iff_correct, start_iff_correct, fun _ _ => told_encoding,
    fun _ _ => told_palette, ?_, fun _ => build_ok_iff, fun _ => ofToml_correct,
    fun _ => scanner_iff_describes, ?_⟩
  · intro e d encoding palette
    have scanner : s.scanner decoders = .error d := scanner_error_iff.mpr (.inl palette)
    exact ⟨validate_error_iff.mpr (.inl encoding), scanner, start_error_iff.mpr scanner⟩
  · intro scanner made
    obtain ⟨colors, fallback, stripped⟩ := scanner_ok_iff.mp made
    refine ⟨start_ok_iff.mpr ⟨scanner, made, rfl⟩, _, _, colors, fallback, ?_⟩
    intro raw
    rw [← stripped]

/-- Of two faults the check tells the first and the scanner the second. -/
example (decoders : Decoders) :
    let s : Settings := { fallbackEncoding := some "klingon", palette := some [] }
    s.validate decoders = .error (.unknownEncoding "klingon") ∧
      s.scanner decoders = .error (.paletteSize 0) := ⟨rfl, rfl⟩

end ChatDisplay.Settings
