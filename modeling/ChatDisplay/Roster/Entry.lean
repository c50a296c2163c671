import ChatDisplay.Roster.Basic

namespace ChatDisplay

structure Entry where
  nick : String
  status : Option Char
  tier : Tier
  color : Option Color
  deriving DecidableEq, Repr

def Entry.label (e : Entry) : String :=
  match e.status with
  | some c => String.singleton c ++ e.nick
  | none => e.nick

def Member.entry (m : Member) : Entry := ⟨m.nick, m.status, m.tier, m.tier.color⟩

structure Counts where
  ordinary : Nat := 0
  voice : Nat := 0
  halfOp : Nat := 0
  op : Nat := 0
  admin : Nat := 0
  owner : Nat := 0
  deriving DecidableEq, Repr, Inhabited

namespace Counts

def count (c : Counts) : Tier → Nat
  | .ordinary => c.ordinary
  | .voice => c.voice
  | .halfOp => c.halfOp
  | .op => c.op
  | .admin => c.admin
  | .owner => c.owner

def add (c : Counts) : Tier → Counts
  | .ordinary => { c with ordinary := c.ordinary + 1 }
  | .voice => { c with voice := c.voice + 1 }
  | .halfOp => { c with halfOp := c.halfOp + 1 }
  | .op => { c with op := c.op + 1 }
  | .admin => { c with admin := c.admin + 1 }
  | .owner => { c with owner := c.owner + 1 }

def among (c : Counts) : List Tier → Nat
  | [] => 0
  | t :: ts => c.count t + c.among ts

def atLeast (c : Counts) (t : Tier) : Nat := c.among (Tier.all.filter (t ≤ ·))

def ops (c : Counts) : Nat := c.atLeast .op

def total (c : Counts) : Nat := c.among Tier.all

end Counts

def Roster.entries (r : Roster) : List Entry := r.members.map Member.entry

def Roster.counts (r : Roster) : Counts := r.members.foldl (fun c m => c.add m.tier) {}

end ChatDisplay
