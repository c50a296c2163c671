import ChatDisplay.Toml.Quoted
import ChatDisplay.Toml.Scalar

/-! Documents are read by the rules of TOML 1.0.0. Arrays, inline tables and dotted keys may not go deeper
than the depth limit, integers have 64 bits, and CRLF in text on several lines is read as LF. -/
namespace ChatDisplay.Toml

/-- A line of a document, as far as it counts. -/
inductive Statement where
  | table (path : List String)
  | element (path : List String)
  | entry (path : List String) (v : Value)

namespace Document

def depthLimit : Nat := 79

def dropGap (cs : List Char) : List Char := cs.dropWhile Quoted.isGap

def dropComment : List Char → List Char
  | '#' :: rest => rest.dropWhile Quoted.isPlain
  | cs => cs

def dropLines : Nat → List Char → List Char
  | 0, cs => cs
  | n + 1, cs =>
    match dropComment (dropGap cs) with
    | '\n' :: rest => dropLines n rest
    | '\r' :: '\n' :: rest => dropLines n rest
    | rest => rest

def endLine? (cs : List Char) : Option (List Char) :=
  match dropComment (dropGap cs) with
  | [] => some []
  | '\n' :: rest => some rest
  | '\r' :: '\n' :: rest => some rest
  | _ => none

def isBareChar (c : Char) : Bool :=
  Text.isDigit c || ('a' ≤ c && c ≤ 'z') || ('A' ≤ c && c ≤ 'Z') || c == '-' || c == '_'

def part? (cs : List Char) : Option (String × List Char) :=
  match cs with
  | '"' :: _ | '\x27' :: _ => (Quoted.line? cs).map fun r => (String.ofList r.1, r.2)
  | cs =>
    let bare := cs.takeWhile isBareChar
    if bare.isEmpty then none else some (String.ofList bare, cs.dropWhile isBareChar)

/-- The parts of a key with dots between them, and the text after the gap behind it. A key has at
most `limit` parts. -/
def key? : Nat → List Char → Option (List String × List Char)
  | 0, _ => none
  | limit + 1, cs =>
    match part? (dropGap cs) with
    | none => none
    | some (part, rest) =>
      match dropGap rest with
      | '.' :: rest => (key? limit rest).map fun r => (part :: r.1, r.2)
      | rest => some ([part], rest)

def keyed? (value? : List Char → Option (Value × List Char)) (cs : List Char) :
    Option ((List String × Value) × List Char) :=
  match key? depthLimit cs with
  | some (path, '=' :: rest) => (value? (dropGap rest)).map fun r => ((path, r.1), r.2)
  | _ => none

/-- The items of an array up to its closing bracket. There may be a comma after the last one. -/
def items? (value? : List Char → Option (Value × List Char)) :
    Nat → List Char → Option (List Value × List Char)
  | 0, _ => none
  | n + 1, cs =>
    match dropLines cs.length cs with
    | ']' :: rest => some ([], rest)
    | cs =>
      match value? cs with
      | none => none
      | some (v, rest) =>
        match dropLines rest.length rest with
        | ',' :: rest => (items? value? n rest).map fun r => (v :: r.1, r.2)
        | ']' :: rest => some ([v], rest)
        | _ => none

/-- The entries of an inline table, of which there is at least one, up to its closing brace. -/
def pairs? (value? : List Char → Option (Value × List Char)) :
    Nat → List Char → Option (List (List String × Value) × List Char)
  | 0, _ => none
  | n + 1, cs =>
    match keyed? value? cs with
    | none => none
    | some (pair, rest) =>
      match dropGap rest with
      | ',' :: rest => (pairs? value? n rest).map fun r => (pair :: r.1, r.2)
      | '}' :: rest => some ([pair], rest)
      | _ => none

def inlineTable? (pairs : List (List String × Value)) : Option Value :=
  (pairs.foldlM (fun es pair => Entries.put pair.2 pair.1 es) []).map fun es =>
    .table .inline es

def single? (cs : List Char) : Option (Value × List Char) :=
  match cs with
  | '"' :: _ | '\x27' :: _ => (Quoted.read? cs).map fun r => (.string (String.ofList r.1), r.2)
  | cs => Scalar.read? cs

/-- A value with at most `depth` arrays and inline tables inside each other. -/
def value? : Nat → List Char → Option (Value × List Char)
  | 0, cs => single? cs
  | depth + 1, cs =>
    match cs with
    | '[' :: rest =>
      (items? (value? depth) (rest.length + 1) rest).map fun r => (.array r.1, r.2)
    | '{' :: rest =>
      match dropGap rest with
      | '}' :: rest => some (.table .inline [], rest)
      | rest =>
        match pairs? (value? depth) (rest.length + 1) rest with
        | none => none
        | some (pairs, rest) => (inlineTable? pairs).map fun v => (v, rest)
    | cs => single? cs

def statement? (cs : List Char) : Option (Statement × List Char) :=
  match cs with
  | '[' :: '[' :: rest =>
    match key? depthLimit rest with
    | some (path, ']' :: ']' :: rest) => some (.element path, rest)
    | _ => none
  | '[' :: rest =>
    match key? depthLimit rest with
    | some (path, ']' :: rest) => some (.table path, rest)
    | _ => none
  | cs => (keyed? (value? depthLimit) cs).map fun r => (.entry r.1.1 r.1.2, r.2)

/-- The statements of a document, of which there are fewer than `limit`. -/
def statements? : Nat → List Char → Option (List Statement)
  | 0, _ => none
  | limit + 1, cs =>
    match dropLines cs.length cs with
    | [] => some []
    | cs =>
      match statement? cs with
      | none => none
      | some (s, rest) =>
        match endLine? rest with
        | none => none
        | some rest => (statements? limit rest).map (s :: ·)

/-- The document so far, and the header that entries belong to. -/
structure Building where
  root : Entries := []
  header : List String := []

def Building.add (b : Building) : Statement → Option Building
  | .table path =>
    (Entries.within (Entries.openTable (path.getLastD "")) path.dropLast b.root).map fun root =>
      ⟨root, path⟩
  | .element path =>
    (Entries.within (Entries.openElement (path.getLastD "")) path.dropLast b.root).map fun root =>
      ⟨root, path⟩
  | .entry path v =>
    (Entries.within (Entries.put v path) b.header b.root).map fun root => { b with root }

end Document

/-- The table of a document of TOML 1.0.0. A byte order mark in front of it is passed over. -/
def parse? (text : String) : Option Entries := do
  let cs :=
    match text.toList with
    | '\uFEFF' :: rest => rest
    | cs => cs
  let statements ← Document.statements? (cs.length + 1) cs
  let built ← statements.foldlM Document.Building.add {}
  return built.root

end ChatDisplay.Toml
