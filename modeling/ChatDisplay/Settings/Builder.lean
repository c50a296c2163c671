import ChatDisplay.Settings.Basic

namespace ChatDisplay.Settings

inductive Choice where
  | completionSuffix (suffix : String)
  | fallbackEncoding (label : String)
  | stripFormatting (strip : Bool)
  | palette (entries : List String)
  deriving DecidableEq, Repr

def choose (s : Settings) : Choice → Settings
  | .completionSuffix suffix => { s with completionSuffix := suffix }
  | .fallbackEncoding label => { s with fallbackEncoding := some label }
  | .stripFormatting strip => { s with stripFormatting := strip }
  | .palette entries => { s with palette := some entries }

def build (decoders : Decoders) (choices : List Choice) : Except SettingsError Settings :=
  (choices.foldl choose {}).checked decoders

end ChatDisplay.Settings
