import ChatDisplay.Text.Lowercase

/-! Networks compare nicks without regard to case under the mapping of RFC 1459, where `[ ] \ ~` are the
capitals of `{ } | ^`; other characters fold to their lowercase, one by one. -/
namespace ChatDisplay.Text

def foldChar (c : Char) : Char :=
  match c with
  | '[' => '{'
  | ']' => '}'
  | '\\' => '|'
  | '~' => '^'
  | c => lowercase c

def fold (s : String) : String := String.ofList (s.toList.map foldChar)

def sameChars : List Char → List Char → Bool
  | [], [] => true
  | a :: as, b :: bs => foldChar a == foldChar b && sameChars as bs
  | _, _ => false

/-- The second text folds to a beginning of the first. -/
def beginsWith : List Char → List Char → Bool
  | _, [] => true
  | [], _ :: _ => false
  | a :: as, b :: bs => foldChar a == foldChar b && beginsWith as bs

def sharedChars : List Char → List Char → Nat
  | a :: as, b :: bs => if foldChar a == foldChar b then sharedChars as bs + 1 else 0
  | _, _ => 0

def sameNick (s t : String) : Bool := sameChars s.toList t.toList

def nickBegins (nick start : String) : Bool := beginsWith nick.toList start.toList

def sharedLength (s t : String) : Nat := sharedChars s.toList t.toList

end ChatDisplay.Text
