import ChatDisplay.Proofs.Completion.Beginning

/-! Requests with every operation that may fail written out as one that does: a place looked up in a list, a
remainder, a cut of a line at a place counted in bytes. -/
namespace ChatDisplay.Completion

/-- What would end a request without an answer. -/
inductive Fault where
  | outOfRange
  | remainderByZero
  | insideCharacter

section Checked

def checkedGet {α : Type} (l : List α) (place : Nat) : Except Fault α :=
  match l[place]? with
  | some a => .ok a
  | none => .error .outOfRange

def checkedPiece (text : List Char) (start stop : Nat) : Except Fault (List Char) :=
  if start ≤ stop ∧ stop ≤ text.length then .ok (piece text start stop) else .error .outOfRange

/-- The number of bytes before the character at a place, or of the whole text if there is none. -/
def byteOffset : List Char → Nat → Nat
  | [], _ => 0
  | _ :: _, 0 => 0
  | ch :: rest, place + 1 => ch.utf8Size + byteOffset rest place

/-- Divides a text behind its first `n` bytes. -/
def cutAt : List Char → Nat → Except Fault (List Char × List Char)
  | text, 0 => .ok ([], text)
  | [], _ + 1 => .error .outOfRange
  | ch :: rest, n + 1 =>
    if ch.utf8Size ≤ n + 1 then do
      let (before, behind) ← cutAt rest (n + 1 - ch.utf8Size)
      return (ch :: before, behind)
    else .error .insideCharacter

/-- Goes back from a place to the blank before it, or to the beginning of the text. -/
def wordStart (text : List Char) : Nat → Except Fault Nat
  | 0 => .ok 0
  | place + 1 => do
    let ch ← checkedGet text place
    if Text.isBlank ch then return place + 1 else wordStart text place

def checkedApply (c : Completion) (line : String) : Except Fault Completion := do
  let nick ← checkedGet c.candidates c.index
  let insertion := nick.toList ++ c.separator.toList
  let text := line.toList
  let (before, _) ← cutAt text (byteOffset text c.start)
  let (_, behind) ← cutAt text (byteOffset text (c.start + c.inserted))
  return { c with
    inserted := insertion.length
    applied := ⟨String.ofList (before ++ insertion ++ behind), c.start + insertion.length⟩ }

def checkedAdvance (c : Completion) (line : String) : Except Fault Completion :=
  if c.candidates.length = 0 then .error .remainderByZero
  else checkedApply { c with index := (c.index + 1) % c.candidates.length } line

def checkedOfLine? (line : String) (cursor : Nat) (roster : Roster) (suffix : String) :
    Except Fault (Option Completion) := do
  let text := line.toList
  let stop := min cursor text.length
  let start ← wordStart text stop
  if start = stop then return none
  let word ← checkedPiece text start stop
  let typed := String.ofList word
  let candidates := roster.nicks.filter fun nick => Text.nickBegins nick typed
  if candidates.isEmpty then return none
  let c ← checkedApply
    { typed
      candidates
      index := 0
      start
      inserted := stop - start
      separator := separatorAt start suffix
      applied := ⟨"", 0⟩ } line
  return some c

def checkedRequest (current : Option Completion) (line : String) (cursor : Nat) (roster : Roster)
    (suffix : String) : Except Fault (Option Completed × Option Completion) :=
  match current.filter fun c => c.isRepeat line cursor with
  | some c => do
    let next ← checkedAdvance c line
    return (some next.applied, some next)
  | none => do
    match ← checkedOfLine? line cursor roster suffix with
    | some c => return (some c.applied, some c)
    | none => return (none, current)

end Checked

section Operations

theorem ok_bind {α β : Type} (a : α) (f : α → Except Fault β) : (Except.ok a >>= f) = f a := rfl

/-- A cut at the offset of a character is between two characters. -/
theorem cutAt_byteOffset (text : List Char) (place : Nat) :
    cutAt text (byteOffset text place) = .ok (text.take place, text.drop place) := by
  induction text generalizing place with
  | nil => simp [byteOffset, cutAt]
  | cons ch rest ih =>
    cases place with
    | zero => rfl
    | succ place =>
      obtain ⟨n, size⟩ : ∃ n, ch.utf8Size = n + 1 :=
        Nat.exists_eq_succ_of_ne_zero (Nat.ne_of_gt ch.utf8Size_pos)
      have total : byteOffset (ch :: rest) (place + 1) = n + byteOffset rest place + 1 := by
        rw [byteOffset, size]
        omega
      have fits : n + 1 ≤ n + byteOffset rest place + 1 := by omega
      have remains : n + byteOffset rest place + 1 - (n + 1) = byteOffset rest place := by omega
      rw [total, cutAt, size, if_pos fits, remains, ih]
      rfl

theorem wordStart_eq {text : List Char} {stop : Nat} (inside : stop ≤ text.length) :
    wordStart text stop = .ok (stop - (lastWord (text.take stop)).length) := by
  induction stop with
  | zero => rfl
  | succ place ih =>
    obtain ⟨ch, there⟩ : ∃ ch, text[place]? = some ch := ⟨text[place], List.getElem?_eq_getElem inside⟩
    have next : text.take (place + 1) = text.take place ++ [ch] := by
      rw [List.take_add_one, there, Option.toList_some]
    have look : checkedGet text place = .ok ch := by rw [checkedGet, there]
    rw [wordStart, look, ok_bind, next, lastWord_concat]
    split
    · rfl
    · rw [ih (Nat.le_of_lt inside), List.length_append, List.length_singleton,
        Nat.add_sub_add_right]

theorem checkedApply_eq {c : Completion} (index : c.index < c.candidates.length) (line : String) :
    checkedApply c line = .ok (c.applyTo line) := by
  have look : checkedGet c.candidates c.index = .ok c.candidate := by
    rw [checkedGet, candidate_eq index]
  simp only [checkedApply, look, cutAt_byteOffset, ok_bind]
  rfl

theorem checkedAdvance_eq {c : Completion} (index : c.index < c.candidates.length) (line : String) :
    checkedAdvance c line = .ok (c.advance line) := by
  have some : 0 < c.candidates.length := Nat.zero_lt_of_lt index
  rw [checkedAdvance, if_neg (Nat.ne_of_gt some), checkedApply_eq (Nat.mod_lt _ some)]
  rfl

theorem checkedPiece_lastWord {text : List Char} {stop : Nat} (inside : stop ≤ text.length) :
    checkedPiece text (stop - (lastWord (text.take stop)).length) stop =
      .ok (lastWord (text.take stop)) := by
  have whole := drop_lastWord (text.take stop)
  rw [List.length_take_of_le inside] at whole
  rw [checkedPiece, if_pos ⟨Nat.sub_le stop _, inside⟩, piece, whole]

theorem checkedOfLine?_eq (line : String) (cursor : Nat) (roster : Roster) (suffix : String) :
    checkedOfLine? line cursor roster suffix = .ok (ofLine? line cursor roster suffix) := by
  obtain ⟨stop, here⟩ : ∃ stop, stop = min cursor line.toList.length := ⟨_, rfl⟩
  have inside : stop ≤ line.toList.length := here ▸ Nat.min_le_right _ _
  have before : line.toList.take cursor = line.toList.take stop := by
    rw [here, String.length_toList, take_cursor]
  have size : (line.toList.take stop).length = stop := List.length_take_of_le inside
  have short : (lastWord (line.toList.take stop)).length ≤ stop := by
    have longest := (lastWord_suffix (line.toList.take stop)).length_le
    rwa [size] at longest
  have start := wordStart_eq inside
  have cut := checkedPiece_lastWord inside
  simp only [checkedOfLine?, ofLine?, Text.nickBegins, String.toList_ofList, ← here, before, size,
    start, ok_bind]
  -- From here on only the length of the word matters, not that it is the last one.
  generalize lastWord (line.toList.take stop) = word at short cut
  cases word with
  | nil => simp [pure, Except.pure]
  | cons ch rest =>
    have some : 0 < (ch :: rest).length := Nat.succ_pos rest.length
    have moved : stop - (ch :: rest).length ≠ stop := by omega
    rw [if_neg moved, cut, ok_bind, Nat.sub_sub_self short]
    split
    · rename_i nobody
      simp [nobody, pure, Except.pure]
    · rename_i somebody
      rw [checkedApply_eq (List.length_pos_iff.mpr (by simpa using somebody))]
      simp [somebody]

theorem checkedRequest_eq {current : Option Completion}
    (index : ∀ c, current = some c → c.index < c.candidates.length) (line : String) (cursor : Nat)
    (roster : Roster) (suffix : String) : checkedRequest current line cursor roster suffix =
      .ok (request current line cursor roster suffix) := by
  unfold checkedRequest request
  cases repeats : current.filter fun c => c.isRepeat line cursor with
  | some c =>
    simp only [checkedAdvance_eq (index c (Option.filter_eq_some_iff.mp repeats).1) line, ok_bind]
    rfl
  | none =>
    simp only [checkedOfLine?_eq, ok_bind]
    cases ofLine? line cursor roster suffix with
    | none => rfl
    | some c => rfl

end Operations

section Asking

/-- What can be asked of the one who keeps the completion in progress. -/
inductive Ask where
  | request (line : String) (cursor : Nat) (roster : Roster) (suffix : String)
  | forget

def answer (current : Option Completion) : Ask → Option Completed × Option Completion
  | .request line cursor roster suffix => request current line cursor roster suffix
  | .forget => (none, none)

def checkedAnswer (current : Option Completion) :
    Ask → Except Fault (Option Completed × Option Completion)
  | .request line cursor roster suffix => checkedRequest current line cursor roster suffix
  | .forget => .ok (none, none)

def answerAll (current : Option Completion) : List Ask → List (Option Completed) × Option Completion
  | [] => ([], current)
  | ask :: rest =>
    let now := answer current ask
    let later := answerAll now.2 rest
    (now.1 :: later.1, later.2)

def checkedAnswerAll (current : Option Completion) :
    List Ask → Except Fault (List (Option Completed) × Option Completion)
  | [] => .ok ([], current)
  | ask :: rest => do
    let now ← checkedAnswer current ask
    let later ← checkedAnswerAll now.2 rest
    return (now.1 :: later.1, later.2)

variable {current : Option Completion}

/-- The completion in progress stands between two pieces of the line of its last answer. -/
def InPlace (current : Option Completion) : Prop :=
  ∀ c, current = some c → ∃ before behind, c.Stands before behind

theorem InPlace.index (there : InPlace current) {c : Completion} (left : current = some c) :
    c.index < c.candidates.length := by
  obtain ⟨before, behind, stands⟩ := there c left
  exact stands.index

theorem InPlace.request (there : InPlace current) (line : String) (cursor : Nat) (roster : Roster)
    (suffix : String) : InPlace (request current line cursor roster suffix).2 := by
  rcases request_cases current line cursor roster suffix with nothing | ⟨c, answered, origin⟩
  · rw [nothing]
    exact there
  · rw [answered]
    rintro d same
    cases same
    -- A completion advances on its own last line only, where its candidate still stands.
    rcases origin with begun | ⟨old, earlier, rfl, rfl⟩
    · exact ⟨_, _, (ofLine?_stands begun).2.2.2⟩
    · obtain ⟨before, behind, stands⟩ := there old earlier
      exact ⟨before, behind, stands.advance⟩

theorem InPlace.answer (there : InPlace current) (ask : Ask) :
    InPlace (answer current ask).2 ∧ checkedAnswer current ask = .ok (answer current ask) := by
  cases ask with
  | request line cursor roster suffix =>
    exact ⟨there.request line cursor roster suffix,
      checkedRequest_eq (fun _ left => there.index left) line cursor roster suffix⟩
  | forget => exact ⟨nofun, rfl⟩

theorem InPlace.answerAll (there : InPlace current) (asks : List Ask) :
    InPlace (answerAll current asks).2 ∧
      checkedAnswerAll current asks = .ok (answerAll current asks) := by
  induction asks generalizing current with
  | nil => exact ⟨there, rfl⟩
  | cons ask rest ih =>
    obtain ⟨next, safe⟩ := there.answer ask
    obtain ⟨last, others⟩ := ih next
    refine ⟨last, ?_⟩
    rw [checkedAnswerAll, safe, ok_bind, others]
    rfl

theorem Stands.piece {c : Completion} {before behind : List Char} (stands : c.Stands before behind) :
    piece c.applied.line.toList c.start c.applied.cursor = c.insertion := by
  rw [Completion.piece, stands.line, stands.start, stands.cursor, ← List.length_append,
    List.take_left, List.drop_left]

theorem Stands.cursor_le {c : Completion} {before behind : List Char}
    (stands : c.Stands before behind) : c.applied.cursor ≤ c.applied.line.length := by
  rw [← String.length_toList, stands.line, stands.cursor]
  simp

end Asking

/-- Whatever is asked, in any order and on any lines, nothing fails. A completion in progress always has
candidates, one of which is in its line with the separator from the start of the word up to the cursor. A
request without an answer leaves it as it was. -/
theorem requests_never_fail (asks : List Ask) :
    checkedAnswerAll none asks = .ok (answerAll none asks) ∧
    (∀ c, (answerAll none asks).2 = some c →
      c.candidates ≠ [] ∧ c.index < c.candidates.length ∧
      c.applied.cursor ≤ c.applied.line.length ∧
      ∃ nick, c.candidates[c.index]? = some nick ∧
        piece c.applied.line.toList c.start c.applied.cursor =
          nick.toList ++ c.separator.toList) ∧
    ∀ line cursor roster suffix,
      (request (answerAll none asks).2 line cursor roster suffix).1 = none →
      (request (answerAll none asks).2 line cursor roster suffix).2 = (answerAll none asks).2 := by
  have nothing : InPlace none := nofun
  obtain ⟨last, safe⟩ := nothing.answerAll asks
  refine ⟨safe, ?_, ?_⟩
  · intro c left
    obtain ⟨before, behind, stands⟩ := last c left
    have some : c.candidates ≠ [] := List.ne_nil_of_length_pos (Nat.zero_lt_of_lt stands.index)
    exact ⟨some, stands.index, stands.cursor_le, c.candidate, candidate_eq stands.index,
      stands.piece⟩
  · intro line cursor roster suffix unanswered
    rcases request_cases (answerAll none asks).2 line cursor roster suffix with
      nothing | ⟨c, answered, -⟩
    · rw [nothing]
    · rw [answered] at unanswered
      contradiction

/-- A request in between that finds nothing to complete does not stop the cycling. -/
theorem requests_survive_nothing :
    let roster := Roster.setMembers {} [("alice", none), ("Élodie", none), ("Ali", some '@')]
    let asks : List Ask := [.request "él ali" 6 roster ":", .request "→ " 2 roster ":",
      .request "él alice " 9 roster ":"]
    let c : Completion := ⟨"ali", ["alice", "Ali"], 1, 3, 4, " ", ⟨"él Ali ", 7⟩⟩
    checkedAnswerAll none asks = .ok ([some ⟨"él alice ", 9⟩, none, some ⟨"él Ali ", 7⟩], some c) ∧
      piece c.applied.line.toList c.start c.applied.cursor = "Ali".toList ++ " ".toList ∧
      request (some c) "→ " 2 roster ":" = (none, some c) := by
  intro roster asks c
  obtain ⟨safe, shown, kept⟩ := requests_never_fail asks
  have answers : answerAll none asks =
      ([some ⟨"él alice ", 9⟩, none, some ⟨"él Ali ", 7⟩], some c) := by decide
  rw [answers] at safe shown kept
  obtain ⟨-, -, -, nick, chosen, stands⟩ := shown c rfl
  cases chosen
  have nothing : (request (some c) "→ " 2 roster ":").1 = none := by decide
  exact ⟨safe, stands, Prod.ext nothing (kept _ _ _ _ nothing)⟩

end ChatDisplay.Completion
