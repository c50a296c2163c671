import ChatDisplay.Markup.Color

namespace ChatDisplay

inductive Tier where
  | ordinary
  | voice
  | halfOp
  | op
  | admin
  | owner
  deriving DecidableEq, Repr, Inhabited

namespace Tier

def rank : Tier → Nat
  | .ordinary => 0
  | .voice => 1
  | .halfOp => 2
  | .op => 3
  | .admin => 4
  | .owner => 5

instance : LE Tier := ⟨fun s t => s.rank ≤ t.rank⟩
instance : LT Tier := ⟨fun s t => s.rank < t.rank⟩
instance (s t : Tier) : Decidable (s ≤ t) := inferInstanceAs (Decidable (s.rank ≤ t.rank))
instance (s t : Tier) : Decidable (s < t) := inferInstanceAs (Decidable (s.rank < t.rank))
instance : Ord Tier := ⟨fun s t => compare s.rank t.rank⟩

def all : List Tier := [.owner, .admin, .op, .halfOp, .voice, .ordinary]

def badge : Tier → Option Char
  | .owner => some '~'
  | .admin => some '&'
  | .op => some '@'
  | .halfOp => some '%'
  | .voice => some '+'
  | .ordinary => none

def modeLetter : Tier → Option Char
  | .owner => some 'q'
  | .admin => some 'a'
  | .op => some 'o'
  | .halfOp => some 'h'
  | .voice => some 'v'
  | .ordinary => none

def name : Tier → String
  | .ordinary => "none"
  | .voice => "voice"
  | .halfOp => "halfop"
  | .op => "op"
  | .admin => "admin"
  | .owner => "owner"

def color : Tier → Option Color
  | .owner => some ⟨0x9c, 0x00, 0x9c⟩
  | .admin => some ⟨0xff, 0x00, 0xff⟩
  | .op => some ⟨0xff, 0x00, 0x00⟩
  | .halfOp => some ⟨0xfc, 0x7f, 0x00⟩
  | .voice => some ⟨0x00, 0x93, 0x00⟩
  | .ordinary => none

def ofModeLetter? (c : Char) : Option Tier := all.find? fun t => t.modeLetter == some c

/-- The tier that a status symbol means on networks that announce nothing else. -/
def ofSymbol : Option Char → Tier
  | some '~' => .owner
  | some '&' => .admin
  | some '@' => .op
  | some '%' => .halfOp
  | some '+' => .voice
  | _ => .ordinary

end Tier

end ChatDisplay
