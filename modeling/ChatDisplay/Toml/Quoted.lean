import ChatDisplay.Text.Digit

namespace ChatDisplay.Toml.Quoted

def isPlain (c : Char) : Bool := c == '\t' || (0x20 ≤ c.toNat && c.toNat != 0x7f)

def isGap (c : Char) : Bool := c == ' ' || c == '\t'

def escape? : Char → Option Char
  | 'b' => some '\x08'
  | 't' => some '\t'
  | 'n' => some '\n'
  | 'f' => some '\x0c'
  | 'r' => some '\r'
  | '"' => some '"'
  | '\\' => some '\\'
  | _ => none

/-- The character with a hexadecimal code point. Surrogates are not characters. -/
def ofHex? (ds : List Char) : Option Char :=
  let n := Text.natOf 16 ds
  if ds.all Text.isHexDigit && n.isValidChar then some (Char.ofNat n) else none

def before (c : Option Char) (r : Option (List Char × List Char)) :
    Option (List Char × List Char) :=
  match c, r with
  | some c, some (text, rest) => some (c :: text, rest)
  | _, _ => none

def basic : List Char → Option (List Char × List Char)
  | [] => none
  | '"' :: rest => some ([], rest)
  | '\\' :: 'u' :: a :: b :: c :: d :: rest => before (ofHex? [a, b, c, d]) (basic rest)
  | '\\' :: 'U' :: a :: b :: c :: d :: e :: f :: g :: h :: rest =>
    before (ofHex? [a, b, c, d, e, f, g, h]) (basic rest)
  | '\\' :: c :: rest => before (escape? c) (basic rest)
  | c :: rest => if isPlain c then before (some c) (basic rest) else none

def literal : List Char → Option (List Char × List Char)
  | [] => none
  | '\x27' :: rest => some ([], rest)
  | c :: rest => if isPlain c then before (some c) (literal rest) else none

/-- Up to two more quotes before the closing three belong to the text. -/
def closing (quote : Char) : List Char → List Char × List Char
  | a :: b :: rest =>
    if a = quote then
      if b = quote then ([quote, quote], rest) else ([quote], b :: rest)
    else ([], a :: b :: rest)
  | [a] => if a = quote then ([quote], []) else ([], [a])
  | [] => ([], [])

def dropNewline : List Char → List Char
  | '\n' :: rest => rest
  | '\r' :: '\n' :: rest => rest
  | cs => cs

def endsLine (cs : List Char) : Bool :=
  match cs.dropWhile isGap with
  | '\n' :: _ => true
  | '\r' :: '\n' :: _ => true
  | _ => false

/-- A basic string on several lines. A backslash at the end of a line takes out the end of the line
and all blanks after it; `joining` tells that this is going on. -/
def multiBasic (joining : Bool) : List Char → Option (List Char × List Char)
  | [] => none
  | '"' :: '"' :: '"' :: rest => some (closing '"' rest)
  | '\\' :: 'u' :: a :: b :: c :: d :: rest => before (ofHex? [a, b, c, d]) (multiBasic false rest)
  | '\\' :: 'U' :: a :: b :: c :: d :: e :: f :: g :: h :: rest =>
    before (ofHex? [a, b, c, d, e, f, g, h]) (multiBasic false rest)
  | '\\' :: c :: rest =>
    if endsLine (c :: rest) then multiBasic true (c :: rest)
    else before (escape? c) (multiBasic false rest)
  | '\r' :: '\n' :: rest =>
    if joining then multiBasic true rest else before (some '\n') (multiBasic false rest)
  | '\n' :: rest =>
    if joining then multiBasic true rest else before (some '\n') (multiBasic false rest)
  | c :: rest =>
    if joining && isGap c then multiBasic true rest
    else if isPlain c then before (some c) (multiBasic false rest)
    else none

def multiLiteral : List Char → Option (List Char × List Char)
  | [] => none
  | '\x27' :: '\x27' :: '\x27' :: rest => some (closing '\x27' rest)
  | '\r' :: '\n' :: rest => before (some '\n') (multiLiteral rest)
  | '\n' :: rest => before (some '\n') (multiLiteral rest)
  | c :: rest => if isPlain c then before (some c) (multiLiteral rest) else none

def line? : List Char → Option (List Char × List Char)
  | '"' :: rest => basic rest
  | '\x27' :: rest => literal rest
  | _ => none

/-- A quoted text of any kind. A line end right after triple quotes is not part of it. -/
def read? : List Char → Option (List Char × List Char)
  | '"' :: '"' :: '"' :: rest => multiBasic false (dropNewline rest)
  | '\x27' :: '\x27' :: '\x27' :: rest => multiLiteral (dropNewline rest)
  | cs => line? cs

end ChatDisplay.Toml.Quoted
