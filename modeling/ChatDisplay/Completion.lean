import ChatDisplay.Roster.Basic
import ChatDisplay.Text.Blank
import ChatDisplay.Text.Fold

/-! Completion of nicks. A request for the very line and cursor of the last answer puts the next nick in
place of the last one. Candidates keep roster order, and cursors count characters. -/
namespace ChatDisplay

/-- A line after a completion, with the cursor behind the text that was put in. -/
structure Completed where
  line : String
  cursor : Nat
  deriving DecidableEq, Repr

structure Completion where
  typed : String
  candidates : List String
  index : Nat
  start : Nat
  /-- How many characters from `start` on the next candidate replaces. -/
  inserted : Nat
  separator : String
  applied : Completed
  deriving DecidableEq, Repr

namespace Completion

def candidate (c : Completion) : String := c.candidates.getD c.index ""

def insertion (c : Completion) : List Char := c.candidate.toList ++ c.separator.toList

/-- Replaces `count` characters from `start` on; places after the end of the line are its end. -/
def splice (line : List Char) (start count : Nat) (new : List Char) : List Char :=
  line.take start ++ new ++ line.drop (start + count)

/-- Puts the current candidate into a line, in place of what was there. -/
def applyTo (c : Completion) (line : String) : Completion :=
  let out := String.ofList (splice line.toList c.start c.inserted c.insertion)
  { c with
    inserted := c.insertion.length
    applied := ⟨out, c.start + c.insertion.length⟩ }

/-- The characters of the last word of a text, none if it ends in a blank. -/
def lastWord (cs : List Char) : List Char :=
  (cs.reverse.takeWhile fun c => !Text.isBlank c).reverse

/-- What follows a nick: at the beginning of the line the suffix and a space, elsewhere a space. -/
def separatorAt (start : Nat) (suffix : String) : String :=
  if start = 0 then suffix ++ " " else " "

/-- Completes the word that ends at the cursor. There is nothing to complete without a word, and
without a nick that begins with it. -/
def ofLine? (line : String) (cursor : Nat) (roster : Roster) (suffix : String) :
    Option Completion :=
  let before := line.toList.take cursor
  let word := lastWord before
  let start := before.length - word.length
  let candidates := roster.nicks.filter fun nick => Text.beginsWith nick.toList word
  if word.isEmpty || candidates.isEmpty then none
  else
    let fresh : Completion :=
      { typed := String.ofList word
        candidates
        index := 0
        start
        inserted := word.length
        separator := separatorAt start suffix
        applied := ⟨"", 0⟩ }
    some (fresh.applyTo line)

def advance (c : Completion) (line : String) : Completion :=
  { c with index := (c.index + 1) % c.candidates.length }.applyTo line

/-- The longest beginning of the first candidate that all candidates share. -/
def sharedStart (c : Completion) : String :=
  match c.candidates with
  | [] => ""
  | first :: others =>
    let shared := others.map fun other => Text.sharedLength first other
    String.ofList (first.toList.take (shared.foldl min first.length))

def isRepeat (c : Completion) (line : String) (cursor : Nat) : Bool :=
  c.applied.line == line && c.applied.cursor == cursor

/-- Answers a request while `current` is in progress. A request without an answer changes
nothing. -/
def request (current : Option Completion) (line : String) (cursor : Nat) (roster : Roster)
    (suffix : String) : Option Completed × Option Completion :=
  match current.filter fun c => c.isRepeat line cursor with
  | some c =>
    let next := c.advance line
    (some next.applied, some next)
  | none =>
    match ofLine? line cursor roster suffix with
    | some c => (some c.applied, some c)
    | none => (none, current)

end Completion

end ChatDisplay
