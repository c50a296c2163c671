import ChatDisplay.Json.Serial
import ChatDisplay.Listing
import ChatDisplay.Roster.Entry
import ChatDisplay.Settings.Basic

namespace ChatDisplay

open Serial

instance : Serial Color where
  encode c := .object [("r", encode c.red), ("g", encode c.green), ("b", encode c.blue)]
  decode? j := do
    let [r, g, b] ← j.fields? ["r", "g", "b"] | none
    return ⟨← present r, ← present g, ← present b⟩

instance : Serial Style where
  encode s := .object [
    ("fg", encode s.fg), ("bg", encode s.bg), ("bold", encode s.bold), ("italic", encode s.italic),
    ("underline", encode s.underline), ("strikethrough", encode s.strikethrough),
    ("reverse", encode s.reverse)]
  decode? j := do
    let [fg, bg, bold, italic, underline, strikethrough, reverse] ← j.fields?
      ["fg", "bg", "bold", "italic", "underline", "strikethrough", "reverse"] | none
    return ⟨← orNone fg, ← orNone bg, ← present bold, ← present italic, ← present underline,
      ← present strikethrough, ← present reverse⟩

def Font.caseName : Font → String
  | .regular => "Regular"
  | .bold => "Bold"
  | .italic => "Italic"
  | .boldItalic => "BoldItalic"

instance : Serial Font where
  encode f := .string f.caseName
  decode? := ofCase? [.regular, .bold, .italic, .boldItalic] Font.caseName

instance : Serial Appearance where
  encode a := .object [
    ("fg", encode a.fg), ("bg", encode a.bg), ("font", encode a.font),
    ("underline", encode a.underline), ("strikethrough", encode a.strikethrough)]
  decode? j := do
    let [fg, bg, font, underline, strikethrough] ← j.fields?
      ["fg", "bg", "font", "underline", "strikethrough"] | none
    return ⟨← present fg, ← orNone bg, ← present font, ← present underline,
      ← present strikethrough⟩

instance : Serial Run where
  encode r := .object [
    ("text", encode r.text), ("style", encode r.style), ("resolved", encode r.appearance)]
  decode? j := do
    let [text, style, resolved] ← j.fields? ["text", "style", "resolved"] | none
    return ⟨← present text, ← present style, ← present resolved⟩

def Tier.caseName : Tier → String
  | .ordinary => "None"
  | .voice => "Voice"
  | .halfOp => "HalfOp"
  | .op => "Op"
  | .admin => "Admin"
  | .owner => "Owner"

instance : Serial Tier where
  encode t := .string t.caseName
  decode? := ofCase? Tier.all Tier.caseName

instance : Serial Member where
  encode m := .object [
    ("nick", encode m.nick), ("prefix", encode m.status), ("tier", encode m.tier)]
  decode? j := do
    let [nick, status, tier] ← j.fields? ["nick", "prefix", "tier"] | none
    return ⟨← present nick, ← orNone status, ← present tier⟩

instance : Serial Entry where
  encode e := .object [
    ("nick", encode e.nick), ("prefix", encode e.status), ("tier", encode e.tier),
    ("color", encode e.color)]
  decode? j := do
    let [nick, status, tier, color] ← j.fields? ["nick", "prefix", "tier", "color"] | none
    return ⟨← present nick, ← orNone status, ← present tier, ← orNone color⟩

/-- The counts from the lowest tier to the highest. -/
instance : Serial Counts where
  encode c := .object [
    ("by_tier", .array ([c.ordinary, c.voice, c.halfOp, c.op, c.admin, c.owner].map
      fun n : Nat => .integer n))]
  decode? j := do
    let [some (.array items)] ← j.fields? ["by_tier"] | none
    let [ordinary, voice, halfOp, op, admin, owner] ← items.mapM (Json.natBelow? UInt64.size) | none
    return ⟨ordinary, voice, halfOp, op, admin, owner⟩

instance : Serial ConversationId where
  encode id := encode id.value
  decode? j := (decode? j).map ConversationId.mk

instance : Serial ConversationKind where
  encode k := .string k.name
  decode? := ofCase? [.server, .channel, .query] ConversationKind.name

instance : Serial Tab where
  encode t := .object [("id", encode t.id), ("kind", encode t.kind), ("name", encode t.name)]
  decode? j := do
    let [id, kind, name] ← j.fields? ["id", "kind", "name"] | none
    return ⟨← present id, ← present kind, ← present name⟩

instance : Serial Server where
  encode s := .object [("name", encode s.name), ("children", encode s.tabs)]
  decode? j := do
    let [name, children] ← j.fields? ["name", "children"] | none
    return ⟨← present name, ← present children⟩

instance : Serial Listing where
  encode l := .object [("servers", encode l.servers)]
  decode? j := do
    let [servers] ← j.fields? ["servers"] | none
    return ⟨← present servers⟩

instance : Serial Settings where
  encode s := .object [
    ("completion_suffix", encode s.completionSuffix),
    ("fallback_encoding", encode s.fallbackEncoding),
    ("strip_formatting", encode s.stripFormatting),
    ("palette", encode s.palette)]
  decode? j := do
    let [suffix, encoding, strip, palette] ← j.someFields?
      ["completion_suffix", "fallback_encoding", "strip_formatting", "palette"] | none
    return ⟨← orDefault ":" suffix, ← orNone encoding, ← orDefault false strip, ← orNone palette⟩

end ChatDisplay
