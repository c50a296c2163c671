import ChatDisplay.Error
import ChatDisplay.Markup.Color

namespace ChatDisplay

structure Palette where
  colors : Vector Color 16
  /-- Text without a foreground code. -/
  foreground : Color
  /-- Reversed text without a background code. -/
  inverted : Color
  deriving DecidableEq, Repr

namespace Palette

def standard : Palette where
  colors := #v[
    ⟨0xff, 0xff, 0xff⟩, ⟨0x00, 0x00, 0x00⟩, ⟨0x00, 0x00, 0x7f⟩, ⟨0x00, 0x93, 0x00⟩,
    ⟨0xff, 0x00, 0x00⟩, ⟨0x7f, 0x00, 0x00⟩, ⟨0x9c, 0x00, 0x9c⟩, ⟨0xfc, 0x7f, 0x00⟩,
    ⟨0xff, 0xff, 0x00⟩, ⟨0x00, 0xfc, 0x00⟩, ⟨0x00, 0x93, 0x93⟩, ⟨0x00, 0xff, 0xff⟩,
    ⟨0x00, 0x00, 0xfc⟩, ⟨0xff, 0x00, 0xff⟩, ⟨0x7f, 0x7f, 0x7f⟩, ⟨0xd2, 0xd2, 0xd2⟩]
  foreground := ⟨0x00, 0x00, 0x00⟩
  inverted := ⟨0xff, 0xff, 0xff⟩

instance : Inhabited Palette := ⟨standard⟩

def get (p : Palette) (index : Nat) : Color :=
  p.colors.get ⟨index % 16, Nat.mod_lt index (by decide)⟩

/-- Reads the entries from position `index` on; the first entry that is not a color is the fault. -/
def readColors (index : Nat) : List String → Except SettingsError (List Color)
  | [] => .ok []
  | entry :: rest =>
    match Color.parse? entry with
    | none => .error (.invalidColor index entry)
    | some c =>
      match readColors (index + 1) rest with
      | .error e => .error e
      | .ok cs => .ok (c :: cs)

def ofEntries (entries : List String) : Except SettingsError Palette :=
  if entries.length ≠ 16 then .error (.paletteSize entries.length)
  else match readColors 0 entries with
    | .error e => .error e
    | .ok cs => .ok { standard with colors := Vector.ofFn fun i => cs.getD i default }

end Palette

end ChatDisplay
