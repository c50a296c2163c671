import ChatDisplay.Settings.Basic
import ChatDisplay.Toml.Document

namespace ChatDisplay.Settings

def wrongType (key expected : String) : SettingsError :=
  .unreadable (key ++ " is not " ++ expected)

def stringOf? : Toml.Value → Option String
  | .string s => some s
  | _ => none

def boolOf? : Toml.Value → Option Bool
  | .bool b => some b
  | _ => none

def stringsOf? : Toml.Value → Option (List String)
  | .array items => items.mapM stringOf?
  | _ => none

def setting {α : Type} (es : Toml.Entries) (key expected : String) (read? : Toml.Value → Option α) :
    Except SettingsError (Option α) :=
  match es.lookup key with
  | none => .ok none
  | some v =>
    match read? v with
    | some a => .ok (some a)
    | none => .error (wrongType key expected)

def ofEntries (es : Toml.Entries) : Except SettingsError Settings := do
  let suffix ← setting es "completion_suffix" "a string" stringOf?
  let encoding ← setting es "fallback_encoding" "a string" stringOf?
  let strip ← setting es "strip_formatting" "a boolean" boolOf?
  let palette ← setting es "palette" "an array of strings" stringsOf?
  return {
    completionSuffix := suffix.getD ":"
    fallbackEncoding := encoding
    stripFormatting := strip.getD false
    palette }

def ofToml (decoders : Decoders) (text : String) : Except SettingsError Settings :=
  match Toml.parse? text with
  | none => .error (.unreadable "not a TOML document")
  | some es => do
    let settings ← ofEntries es
    settings.checked decoders

end ChatDisplay.Settings
