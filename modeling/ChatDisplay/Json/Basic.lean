/-! A record is written as an object with a member for each field, in any order and among others, or as an
array of its fields in order. A choice is the name of its case. -/
namespace ChatDisplay

inductive Json where
  | null
  | bool (b : Bool)
  | integer (n : Int)
  /-- A number written with a fraction or an exponent. -/
  | decimal (digits : Int) (places : Nat)
  | string (s : String)
  | array (items : List Json)
  | object (members : List (String × Json))
  deriving Inhabited

namespace Json

def fields? (names : List String) : Json → Option (List (Option Json))
  | .object members => some (names.map fun n => members.lookup n)
  | .array items => if items.length = names.length then some (items.map some) else none
  | _ => none

/-- The fields of a record of which any may be missing, also the last ones of an array. -/
def someFields? (names : List String) : Json → Option (List (Option Json))
  | .array items =>
    if items.length ≤ names.length then
      some (items.map some ++ List.replicate (names.length - items.length) none)
    else none
  | j => j.fields? names

/-- The name of a case. An object may give it, too, with null as the contents of the case. -/
def case? : Json → Option String
  | .string s => some s
  | .object [(s, .null)] => some s
  | _ => none

def natBelow? (bound : Nat) : Json → Option Nat
  | .integer n => if 0 ≤ n ∧ n < bound then some n.toNat else none
  | _ => none

end Json

end ChatDisplay
