import ChatDisplay.Markup.Scanner

namespace ChatDisplay

structure Settings where
  /-- What follows a nick that was completed at the beginning of the line. -/
  completionSuffix : String := ":"
  /-- The label of the encoding of text that is not UTF-8; Latin-1 if there is none. -/
  fallbackEncoding : Option String := none
  stripFormatting : Bool := false
  palette : Option (List String) := none
  deriving DecidableEq, Repr, Inhabited

namespace Settings

variable (s : Settings) (decoders : Decoders)

def fallback : Except SettingsError Fallback :=
  match s.fallbackEncoding with
  | some label => Fallback.ofLabel decoders label
  | none => .ok .latin1

def colors : Except SettingsError Palette :=
  match s.palette with
  | some entries => Palette.ofEntries entries
  | none => .ok .standard

/-- Reports the fault of the encoding before that of the palette. -/
def validate : Except SettingsError Unit := do
  let _ ← s.fallback decoders
  let _ ← s.colors

def checked : Except SettingsError Settings := do
  s.validate decoders
  return s

/-- The scanner that the settings describe. A fault of the palette is reported before one of the
encoding. -/
def scanner : Except SettingsError Scanner := do
  let palette ← s.colors
  let fallback ← s.fallback decoders
  return { palette, fallback, stripped := s.stripFormatting }

end Settings

end ChatDisplay
