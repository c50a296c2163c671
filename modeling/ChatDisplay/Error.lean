namespace ChatDisplay

inductive SettingsError where
  | unknownEncoding (label : String)
  /-- A palette has another number of entries than 16. -/
  | paletteSize (count : Nat)
  /-- The entry at `index` of a palette is not a color. -/
  | invalidColor (index : Nat) (entry : String)
  | unreadable (reason : String)
  deriving DecidableEq, Repr

inductive QueueError where
  | closed
  deriving DecidableEq, Repr

inductive DisplayError where
  | settings (e : SettingsError)
  | queue (e : QueueError)
  deriving DecidableEq, Repr

def SettingsError.message : SettingsError → String
  | .unknownEncoding label => "unknown encoding label: " ++ label
  | .paletteSize count => "palette must have 16 entries, got " ++ toString count
  | .invalidColor index entry => "invalid palette entry " ++ toString index ++ ": " ++ entry
  | .unreadable reason => "invalid config document: " ++ reason

def QueueError.message : QueueError → String
  | .closed => "event queue closed"

def DisplayError.message : DisplayError → String
  | .settings e => "config error: " ++ e.message
  | .queue e => "dispatch error: " ++ e.message

end ChatDisplay
