import ChatDisplay.Error
import ChatDisplay.Charset.Utf16

namespace ChatDisplay

namespace Encoding

def decode (e : Encoding) (bytes : List UInt8) : List Char :=
  match e with
  | .utf16BE => Charset.Utf16.decode true bytes
  | .utf16LE => Charset.Utf16.decode false bytes
  | .replacement => if bytes.isEmpty then [] else [Charset.replacement]
  | e => bytes.map (Charset.byteChar ((Charset.upperHalf? e).getD []))

end Encoding

/-- How bytes are read that are not UTF-8. -/
inductive Fallback where
  /-- Every byte is the character with its value as code point. -/
  | latin1
  | named (e : Encoding)
  /-- Such encodings are decoded outside this library. -/
  | multiByte (e : MultiByte) (decode : List UInt8 → List Char)
  deriving Inhabited

/-- A decoder for each encoding with several bytes for a character. -/
abbrev Decoders := MultiByte → List UInt8 → List Char

namespace Fallback

def name : Fallback → String
  | .latin1 => "latin1"
  | .named e => e.name
  | .multiByte e _ => e.name

/-- The labels that mean the plain byte values. The web reads them as windows-1252. -/
def isLatin1Label (s : String) : Bool :=
  let lower := String.ofList (s.toList.map Char.toLower)
  lower == "latin1" || lower == "iso-8859-1"

/-- The fallback with a label. Text that is not UTF-8 gains nothing from UTF-8 as its fallback, so
the labels of UTF-8 mean Latin-1. -/
def ofLabel (decoders : Decoders) (label : String) : Except SettingsError Fallback :=
  let trimmed := Text.trim label
  if isLatin1Label trimmed then .ok .latin1
  else if Encoding.utf8Labels.contains (Encoding.normalLabel trimmed) then .ok .latin1
  else match Encoding.ofLabel? trimmed, MultiByte.ofLabel? trimmed with
    | some e, _ => .ok (.named e)
    | none, some e => .ok (.multiByte e (decoders e))
    | none, none => .error (.unknownEncoding label)

def ofLabelD (decoders : Decoders) (label : String) : Fallback :=
  match ofLabel decoders label with
  | .ok f => f
  | .error _ => .latin1

def decodeBytes : Fallback → List UInt8 → List Char
  | .latin1, bytes => bytes.map fun b => Char.ofNat b.toNat
  | .named e, bytes => e.decode bytes
  | .multiByte _ decode, bytes => decode bytes

def decode (f : Fallback) (raw : ByteArray) : String :=
  match String.fromUTF8? raw with
  | some text => text
  | none => String.ofList (f.decodeBytes raw.data.toList)

end Fallback

end ChatDisplay
