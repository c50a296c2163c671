namespace ChatDisplay

structure Table (κ α : Type) where
  entries : List (κ × α) := []
  deriving DecidableEq, Repr, Inhabited

namespace Table
variable {κ α : Type}

def keys (t : Table κ α) : List κ := t.entries.map Prod.fst

def values (t : Table κ α) : List α := t.entries.map Prod.snd

def size (t : Table κ α) : Nat := t.entries.length

def isEmpty (t : Table κ α) : Bool := t.entries.isEmpty

def map (t : Table κ α) (f : κ → α → α) : Table κ α := ⟨t.entries.map fun e => (e.1, f e.1 e.2)⟩

def push (t : Table κ α) (k : κ) (a : α) : Table κ α := ⟨t.entries ++ [(k, a)]⟩

def eraseAt (t : Table κ α) (index : Nat) : Table κ α := ⟨t.entries.eraseIdx index⟩

variable [DecidableEq κ]

def get? (t : Table κ α) (k : κ) : Option α := (t.entries.find? fun e => e.1 == k).map Prod.snd

def contains (t : Table κ α) (k : κ) : Bool := t.entries.any fun e => e.1 == k

def indexOf? (t : Table κ α) (k : κ) : Option Nat := t.entries.findIdx? fun e => e.1 == k

def modify (t : Table κ α) (k : κ) (f : α → α) : Table κ α := t.map fun i a => if i = k then f a else a

def erase (t : Table κ α) (k : κ) : Table κ α := ⟨t.entries.eraseP fun e => e.1 == k⟩

/-- Puts a value at an index, and takes out the one that had its key. -/
def insertAt (t : Table κ α) (index : Nat) (k : κ) (a : α) : Table κ α :=
  ⟨(t.erase k).entries.insertIdx index (k, a)⟩

end Table

end ChatDisplay
