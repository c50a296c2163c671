import ChatDisplay.Roster.Tier

/-! A network announces its symbols as `(modes)symbols`, highest first, or as the symbols alone. The mode
letter at a symbol's position decides its tier, then the symbol's usual meaning; a symbol with neither
ranks with the one before it. -/
namespace ChatDisplay

/-- The two halves of an announcement. The bare form has no modes. -/
structure Announcement where
  modes : List Char
  symbols : List Char
  deriving DecidableEq, Repr

namespace Announcement

/-- Reads `(modes)symbols` or `symbols`. The modes end at the first closing parenthesis, and neither
half may be empty once there are parentheses. -/
def ofChars? : List Char → Option Announcement
  | [] => none
  | '(' :: rest =>
    match rest.dropWhile (· != ')') with
    | ')' :: symbols =>
      let modes := rest.takeWhile (· != ')')
      if modes.isEmpty || symbols.isEmpty then none else some ⟨modes, symbols⟩
    | _ => none
  | symbols => some ⟨[], symbols⟩

def parse? (s : String) : Option Announcement := ofChars? s.toList

end Announcement

structure SymbolMap where
  entries : List (Char × Tier)
  deriving DecidableEq, Repr

namespace SymbolMap

/-- The tier that the mode letter or else the usual meaning gives a symbol. -/
def explicit? (mode : Option Char) (symbol : Char) : Option Tier :=
  match mode.bind Tier.ofModeLetter? with
  | some t => some t
  | none =>
    let usual := Tier.ofSymbol (some symbol)
    if usual = .ordinary then none else some usual

/-- The entries of symbols and the modes beside them, where `above` is the tier before them. -/
def assign (above : Tier) (modes : List Char) : List Char → List (Char × Tier)
  | [] => []
  | s :: symbols =>
    let tier := (explicit? modes.head? s).getD above
    (s, tier) :: assign tier modes.tail symbols

def ofAnnouncement (a : Announcement) : SymbolMap := ⟨assign .owner a.modes a.symbols⟩

def standard : SymbolMap := ofAnnouncement ⟨['q', 'a', 'o', 'h', 'v'], ['~', '&', '@', '%', '+']⟩

instance : Inhabited SymbolMap := ⟨standard⟩

/-- The map of an announcement, and the standard one if it cannot be read. -/
def ofText (s : String) : SymbolMap :=
  match Announcement.parse? s with
  | some a => ofAnnouncement a
  | none => standard

/-- The tier of a member with this status symbol. The first entry of a symbol counts. -/
def tierOf (m : SymbolMap) : Option Char → Tier
  | none => .ordinary
  | some c =>
    match m.entries.find? (fun e => e.1 == c) with
    | some e => e.2
    | none => .ordinary

def contains (m : SymbolMap) (c : Char) : Bool := m.entries.any fun e => e.1 == c

def splitListed (m : SymbolMap) (name : String) : Option Char × String :=
  match name.toList with
  | c :: rest => if m.contains c then (some c, String.ofList rest) else (none, name)
  | [] => (none, name)

end SymbolMap

end ChatDisplay
