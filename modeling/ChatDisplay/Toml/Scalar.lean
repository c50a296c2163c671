import ChatDisplay.Text.Digit
import ChatDisplay.Toml.Value

namespace ChatDisplay.Toml.Scalar

open Text

/-- Digits of a class with single underscores between them; the digits alone. -/
def digits? (p : Char → Bool) : List Char → Option (List Char)
  | [] => none
  | [c] => if p c then some [c] else none
  | c :: '_' :: rest => if p c then (digits? p rest).map (c :: ·) else none
  | c :: rest => if p c then (digits? p rest).map (c :: ·) else none

/-- Decimal digits without a needless zero in front. -/
def decimal? (cs : List Char) : Option (List Char) :=
  match cs with
  | ['0'] => some ['0']
  | '0' :: _ => none
  | cs => digits? isDigit cs

def splitSign : List Char → Bool × List Char
  | '+' :: cs => (false, cs)
  | '-' :: cs => (true, cs)
  | cs => (false, cs)

def fits64 (n : Int) : Bool := -0x8000000000000000 ≤ n && n ≤ 0x7fffffffffffffff

def integer? (cs : List Char) : Option Int :=
  let n : Option Int :=
    match cs with
    | '0' :: 'x' :: ds => (digits? isHexDigit ds).map fun ds => (natOf 16 ds : Int)
    | '0' :: 'o' :: ds => (digits? isOctalDigit ds).map fun ds => (natOf 8 ds : Int)
    | '0' :: 'b' :: ds => (digits? isBinaryDigit ds).map fun ds => (natOf 2 ds : Int)
    | cs =>
      let (minus, ds) := splitSign cs
      (decimal? ds).map fun ds => if minus then -(natOf 10 ds : Int) else natOf 10 ds
  n.filter fits64

/-- The number `m * 10 ^ e` is nearer to 2 ^ 1024 than to the greatest binary number of 64 bits
below it, or as near. -/
def overflows (m : Nat) (e : Int) : Bool :=
  let size : Int := (Nat.toDigits 10 m).length + e
  if m = 0 || size < 300 then false
  else if size > 320 then true
  else
    let bound := Nat.pow 2 1024 - Nat.pow 2 970
    if 0 ≤ e then bound ≤ m * Nat.pow 10 e.toNat else bound * Nat.pow 10 (-e).toNat ≤ m

def isFloat (cs : List Char) : Bool :=
  let (minus, cs) := splitSign cs
  if cs == ['i', 'n', 'f'] || cs == ['n', 'a', 'n'] then true
  else
    let inExponent := fun c => c == 'e' || c == 'E'
    let mantissa := cs.takeWhile fun c => !inExponent c
    let exponent : Option Int :=
      match cs.dropWhile fun c => !inExponent c with
      | [] => some 0
      | _ :: ds =>
        let (minus, ds) := splitSign ds
        (digits? isDigit ds).map fun ds => if minus then -(natOf 10 ds : Int) else natOf 10 ds
    let whole := decimal? (mantissa.takeWhile (· != '.'))
    let fraction :=
      match mantissa.dropWhile (· != '.') with
      | [] => if mantissa.length < cs.length then some [] else none
      | _ :: ds => digits? isDigit ds
    match whole, fraction, exponent with
    | some ws, some fs, some e => minus || !overflows (natOf 10 (ws ++ fs)) (e - fs.length)
    | _, _, _ => false

def two? (a b : Char) : Option Nat :=
  if isDigit a && isDigit b then some (natOf 10 [a, b]) else none

def isLeapYear (y : Nat) : Bool := y % 4 == 0 && (y % 100 != 0 || y % 400 == 0)

def daysOfMonth (year month : Nat) : Nat :=
  if month = 2 then (if isLeapYear year then 29 else 28)
  else if [4, 6, 9, 11].contains month then 30
  else 31

def isDate (y₃ y₂ y₁ y₀ m₁ m₀ d₁ d₀ : Char) : Bool :=
  match two? y₃ y₂, two? y₁ y₀, two? m₁ m₀, two? d₁ d₀ with
  | some century, some year, some month, some day =>
    1 ≤ month && month ≤ 12 && 1 ≤ day && day ≤ daysOfMonth (century * 100 + year) month
  | _, _, _, _ => false

def isOffset : List Char → Bool
  | [c] => c == 'Z' || c == 'z'
  | [sign, h₁, h₀, ':', m₁, m₀] =>
    (sign == '+' || sign == '-') && ((two? h₁ h₀).any (· ≤ 23)) && ((two? m₁ m₀).any (· ≤ 59))
  | _ => false

/-- A time of day; `zoned` allows a distance to universal time after it. -/
def isTime (zoned : Bool) : List Char → Bool
  | h₁ :: h₀ :: ':' :: m₁ :: m₀ :: ':' :: s₁ :: s₀ :: rest =>
    let rest? :=
      match rest with
      | '.' :: ds => if (ds.takeWhile isDigit).isEmpty then none else some (ds.dropWhile isDigit)
      | rest => some rest
    ((two? h₁ h₀).any (· ≤ 23)) && ((two? m₁ m₀).any (· ≤ 59)) && ((two? s₁ s₀).any (· ≤ 60)) &&
      rest?.any fun rest => rest.isEmpty || (zoned && isOffset rest)
  | _ => false

/-- A date, a time, or a date and a time with a letter or a space between them. -/
def isMoment : List Char → Bool
  | y₃ :: y₂ :: y₁ :: y₀ :: '-' :: m₁ :: m₀ :: '-' :: d₁ :: d₀ :: rest =>
    isDate y₃ y₂ y₁ y₀ m₁ m₀ d₁ d₀ &&
      match rest with
      | [] => true
      | c :: time => (c == 'T' || c == 't' || c == ' ') && isTime true time
  | cs => isTime false cs

def ofToken? (cs : List Char) : Option Value :=
  if cs == ['t', 'r', 'u', 'e'] then some (.bool true)
  else if cs == ['f', 'a', 'l', 's', 'e'] then some (.bool false)
  else if isMoment cs then some (.moment (String.ofList cs))
  else if isFloat cs then some (.float (String.ofList cs))
  else (integer? cs).map .integer

def isTokenChar (c : Char) : Bool :=
  isDigit c || ('a' ≤ c && c ≤ 'z') || ('A' ≤ c && c ≤ 'Z') || c == '+' || c == '-' || c == '_' ||
    c == '.' || c == ':'

/-- Splits off the token at the beginning. A space after a date belongs to it if a digit follows. -/
def splitToken (cs : List Char) : List Char × List Char :=
  let token := cs.takeWhile isTokenChar
  match cs.dropWhile isTokenChar with
  | ' ' :: c :: rest =>
    if isMoment token && token.length == 10 && isDigit c then
      (token ++ ' ' :: (c :: rest).takeWhile isTokenChar, (c :: rest).dropWhile isTokenChar)
    else (token, ' ' :: c :: rest)
  | rest => (token, rest)

def read? (cs : List Char) : Option (Value × List Char) :=
  let (token, rest) := splitToken cs
  (ofToken? token).map fun v => (v, rest)

end ChatDisplay.Toml.Scalar
