import ChatDisplay.Json.Basic

namespace ChatDisplay

class Serial (α : Type) where
  encode : α → Json
  decode? : Json → Option α

namespace Serial

instance : Serial Bool where
  encode := .bool
  decode?
    | .bool b => some b
    | _ => none

instance : Serial String where
  encode := .string
  decode?
    | .string s => some s
    | _ => none

instance : Serial Char where
  encode c := .string (String.singleton c)
  decode?
    | .string s =>
      match s.toList with
      | [c] => some c
      | _ => none
    | _ => none

instance : Serial UInt8 where
  encode n := .integer n.toNat
  decode? j := (j.natBelow? UInt8.size).map UInt8.ofNat

instance : Serial UInt64 where
  encode n := .integer n.toNat
  decode? j := (j.natBelow? UInt64.size).map UInt64.ofNat

instance {α : Type} [Serial α] : Serial (Option α) where
  encode
    | none => .null
    | some a => encode a
  decode?
    | .null => some none
    | j => (decode? j).map some

instance {α : Type} [Serial α] : Serial (List α) where
  encode as := .array (as.map encode)
  decode?
    | .array items => items.mapM decode?
    | _ => none

variable {α : Type} [Serial α]

def present (field : Option Json) : Option α := field.bind decode?

/-- A field that may be missing, which means that there is nothing in it. -/
def orNone (field : Option Json) : Option (Option α) :=
  match field with
  | none => some none
  | some j => decode? j

def orDefault (value : α) (field : Option Json) : Option α :=
  match field with
  | none => some value
  | some j => decode? j

def ofCase? (cases : List α) (name : α → String) (j : Json) : Option α :=
  j.case?.bind fun s => cases.find? fun a => name a == s

end Serial

end ChatDisplay
