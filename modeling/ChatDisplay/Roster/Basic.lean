import ChatDisplay.Roster.Symbols
import ChatDisplay.Table

/-! A roster has its members in the order in which they came, each under its nick. Nicks are compared
exactly. A member's tier is what the network's symbols say about its status symbol. -/
namespace ChatDisplay

structure Member where
  nick : String
  status : Option Char
  tier : Tier
  deriving DecidableEq, Repr

def Member.standard (nick : String) (status : Option Char) : Member :=
  ⟨nick, status, Tier.ofSymbol status⟩

structure Roster where
  table : Table String Member := {}
  symbols : SymbolMap := .standard
  deriving DecidableEq, Repr, Inhabited

namespace Roster

def members (r : Roster) : List Member := r.table.values

def nicks (r : Roster) : List String := r.table.keys

def size (r : Roster) : Nat := r.table.size

def isEmpty (r : Roster) : Bool := r.table.isEmpty

def get? (r : Roster) (nick : String) : Option Member := r.table.get? nick

def contains (r : Roster) (nick : String) : Bool := r.table.contains nick

/-- Adds a member, or gives the one with this nick another status in place. -/
def insert (r : Roster) (nick : String) (status : Option Char) : Roster :=
  let tier := r.symbols.tierOf status
  if r.contains nick then { r with table := r.table.modify nick fun m => { m with status, tier } }
  else { r with table := r.table.push nick ⟨nick, status, tier⟩ }

def remove (r : Roster) (nick : String) : Option Member × Roster :=
  (r.get? nick, { r with table := r.table.erase nick })

/-- Makes room for the nick `new`: another member who has it leaves, and the member at `index` may
move up. Gives where that member is then, and who is left. -/
def vacate (new : String) (index : Nat) (table : Table String Member) : Nat × Table String Member :=
  match table.indexOf? new with
  | some other => (if other < index then index - 1 else index, table.eraseAt other)
  | none => (index, table)

/-- Gives the member `old` the nick `new` in its place, and tells whether there was one. Another
member with the nick `new` leaves. -/
def rename (r : Roster) (old new : String) : Bool × Roster :=
  match r.table.indexOf? old with
  | none => (false, r)
  | some index =>
    let (index, table) := if old = new then (index, r.table) else vacate new index r.table
    match table.entries[index]? with
    | none => (false, { r with table })
    | some (_, m) =>
      (true, { r with table := (table.eraseAt index).insertAt index new { m with nick := new } })

def clear (r : Roster) : Roster := { r with table := {} }

def setMembers (r : Roster) (listed : List (String × Option Char)) : Roster :=
  listed.foldl (fun r m => r.insert m.1 m.2) r.clear

def setSymbols (r : Roster) (symbols : SymbolMap) : Roster :=
  { table := r.table.map fun _ m => { m with tier := symbols.tierOf m.status }, symbols }

end Roster

end ChatDisplay
