import ChatDisplay.Completion

/-! A completion keeps the text before the word and the text after the cursor apart; every step puts its
candidate exactly between the two, whatever the last one was. -/
namespace ChatDisplay.Completion

section Words
variable {line : List Char} {cursor : Nat}

theorem lastWord_suffix (cs : List Char) : lastWord cs <:+ cs := by
  have ending := List.takeWhile_prefix (l := cs.reverse) fun c => !Text.isBlank c
  simpa [lastWord] using List.reverse_suffix.mpr ending

/-- The word before the cursor divides a line into what is before it, itself and what is after the
cursor. -/
theorem line_parts (line : List Char) (cursor : Nat) :
    let word := lastWord (line.take cursor)
    let start := (line.take cursor).length - word.length
    line.take start ++ word ++ line.drop cursor = line ∧ (line.take start).length = start := by
  intro word start
  obtain ⟨before, parts⟩ := lastWord_suffix (line.take cursor)
  have size : before.length = start := by
    have sizes := congrArg List.length parts
    simp only [List.length_append] at sizes
    change before.length = (line.take cursor).length - (lastWord (line.take cursor)).length
    omega
  have whole : before ++ word ++ line.drop cursor = line := by
    rw [parts]
    exact List.take_append_drop cursor line
  have first : line.take start = before := by
    rw [← whole, List.append_assoc]
    exact List.take_left' size
  rw [first]
  exact ⟨whole, size⟩

end Words

section Insertion
variable {c : Completion} {before old after : List Char}

theorem splice_between (before old after new : List Char) :
    splice (before ++ old ++ after) before.length old.length new = before ++ new ++ after := by
  simp [splice]

/-- The candidate and its separator stand between two pieces of text, and the next candidate will
replace just them. -/
structure Stands (c : Completion) (before after : List Char) : Prop where
  start : c.start = before.length
  index : c.index < c.candidates.length
  inserted : c.inserted = c.insertion.length
  line : c.applied.line.toList = before ++ c.insertion ++ after
  cursor : c.applied.cursor = before.length + c.insertion.length

theorem applyTo_stands {line : String} (parts : line.toList = before ++ old ++ after)
    (start : c.start = before.length) (index : c.index < c.candidates.length)
    (inserted : c.inserted = old.length) : (c.applyTo line).Stands before after := by
  constructor
  · exact start
  · exact index
  · rfl
  · simp only [applyTo, parts, start, inserted, splice_between, String.toList_ofList]
    rfl
  · simp only [applyTo, start]
    rfl

theorem Stands.advance (stands : c.Stands before after) :
    (c.advance c.applied.line).Stands before after := by
  have some : 0 < c.candidates.length := Nat.lt_of_le_of_lt (Nat.zero_le _) stands.index
  exact applyTo_stands stands.line stands.start (Nat.mod_lt _ some) stands.inserted

theorem ofLine?_stands {line : String} {cursor : Nat} {roster : Roster} {suffix : String}
    (begun : ofLine? line cursor roster suffix = some c) :
    line.toList = line.toList.take c.start ++ c.typed.toList ++ line.toList.drop cursor ∧
      c.index = 0 ∧ c.separator = separatorAt c.start suffix ∧
      c.Stands (line.toList.take c.start) (line.toList.drop cursor) := by
  have parts := line_parts line.toList cursor
  unfold ofLine? at begun
  simp only [] at begun
  split at begun
  · contradiction
  · rename_i possible
    cases begun
    simp only [Bool.or_eq_true, List.isEmpty_iff, not_or] at possible
    have typed := parts.1.symm
    refine ⟨by simpa [applyTo] using typed, rfl, rfl, ?_⟩
    exact applyTo_stands typed parts.2.symm (List.length_pos_iff.mpr possible.2) rfl

end Insertion

section Requests
variable {c : Completion} {before after : List Char}

theorem request_repeat (c : Completion) (roster : Roster) (suffix : String) :
    request (some c) c.applied.line c.applied.cursor roster suffix =
      (some (c.advance c.applied.line).applied, some (c.advance c.applied.line)) := by
  have same : c.isRepeat c.applied.line c.applied.cursor = true := by simp [isRepeat]
  simp only [request, Option.filter_some, same, if_true]

theorem request_fresh {current : Option Completion} {line : String} {cursor : Nat} {roster : Roster}
    {suffix : String} {answer : Completed}
    (fresh : (current.any fun c => c.isRepeat line cursor) = false)
    (answered : (request current line cursor roster suffix).1 = some answer) :
    ∃ c, ofLine? line cursor roster suffix = some c ∧ answer = c.applied ∧
      (request current line cursor roster suffix).2 = some c := by
  have nothing : (current.filter fun c => c.isRepeat line cursor) = none := by
    cases current with
    | none => rfl
    | some c =>
      change c.isRepeat line cursor = false at fresh
      simp [fresh]
  simp only [request, nothing] at answered ⊢
  cases begun : ofLine? line cursor roster suffix with
  | none =>
    rw [begun] at answered
    contradiction
  | some c =>
    rw [begun] at answered
    exact ⟨c, rfl, (Option.some.inj answered).symm, rfl⟩

/-- A request changes nothing, begins a completion, or advances the one in progress on its own line. -/
theorem request_cases (current : Option Completion) (line : String) (cursor : Nat) (roster : Roster)
    (suffix : String) : request current line cursor roster suffix = (none, current) ∨
      ∃ c, request current line cursor roster suffix = (some c.applied, some c) ∧
        (ofLine? line cursor roster suffix = some c ∨
          ∃ old, current = some old ∧ line = old.applied.line ∧ c = old.advance line) := by
  unfold request
  split
  · rename_i old repeats
    obtain ⟨there, same⟩ := Option.filter_eq_some_iff.mp repeats
    have last : old.applied.line = line ∧ old.applied.cursor = cursor := by
      simpa [isRepeat] using same
    exact .inr ⟨old.advance line, rfl, .inr ⟨old, there, last.1.symm, rfl⟩⟩
  · split
    · rename_i c begun
      exact .inr ⟨c, rfl, .inl begun⟩
    · exact .inl rfl

theorem ofLine?_candidates {line : String} {cursor : Nat} {roster : Roster} {suffix : String}
    (begun : ofLine? line cursor roster suffix = some c) :
    c.candidates = roster.nicks.filter fun nick => Text.nickBegins nick c.typed := by
  unfold ofLine? at begun
  simp only [] at begun
  split at begun
  · contradiction
  · cases begun
    simp only [applyTo, Text.nickBegins, String.toList_ofList]

/-- Asks again with the line and cursor of the last answer, for any rosters and suffixes. -/
def again (current : Option Completion) (answer : Completed) :
    List (Roster × String) → Option Completed × Option Completion
  | [] => (some answer, current)
  | (roster, suffix) :: rest =>
    match request current answer.line answer.cursor roster suffix with
    | (some next, current) => again current next rest
    | (none, current) => (none, current)

/-- Any number of repeats leaves all of a completion as it was but the candidate in place. -/
theorem Stands.again (stands : c.Stands before after) (asks : List (Roster × String)) :
    ∃ d : Completion, again (some c) c.applied asks = (some d.applied, some d) ∧
      d.Stands before after ∧ d.candidates = c.candidates ∧ d.separator = c.separator ∧
      d.index = (c.index + asks.length) % c.candidates.length := by
  induction asks generalizing c with
  | nil => exact ⟨c, rfl, stands, rfl, rfl, (Nat.mod_eq_of_lt stands.index).symm⟩
  | cons ask rest ih =>
    obtain ⟨roster, suffix⟩ := ask
    obtain ⟨d, answers, there, candidates, separator, index⟩ := ih stands.advance
    refine ⟨d, ?_, there, candidates, separator, ?_⟩
    · simp only [Completion.again, request_repeat]
      exact answers
    · have next : (c.advance c.applied.line).index = (c.index + 1) % c.candidates.length := rfl
      have same : (c.advance c.applied.line).candidates = c.candidates := rfl
      rw [index, next, same, Nat.mod_add_mod, List.length_cons, Nat.add_assoc, Nat.add_comm 1]

end Requests

section Answers
variable {c : Completion} {line : String} {cursor : Nat}

/-- A line with a nick and a separator in place of what was from `start` up to the cursor, where the
cursor is at most at the end of the line. -/
def inPlace (line : String) (start cursor : Nat) (nick separator : String) : Completed :=
  ⟨String.ofList (line.toList.take start) ++ nick ++ separator ++
      String.ofList (line.toList.drop (min cursor line.length)),
    start + nick.length + separator.length⟩

theorem drop_cursor (line : String) (cursor : Nat) :
    line.toList.drop (min cursor line.length) = line.toList.drop cursor := by
  rw [← String.length_toList]
  rcases Nat.le_total cursor line.toList.length with inside | beyond
  · rw [Nat.min_eq_left inside]
  · rw [Nat.min_eq_right beyond, List.drop_length, List.drop_eq_nil_of_le beyond]

theorem Stands.applied_eq (stands : c.Stands (line.toList.take c.start) (line.toList.drop cursor)) :
    c.applied = inPlace line c.start cursor c.candidate c.separator := by
  have text : c.applied.line =
      String.ofList (line.toList.take c.start ++ c.insertion ++ line.toList.drop cursor) := by
    rw [← stands.line, String.ofList_toList]
  have place := stands.cursor
  rw [← stands.start] at place
  simp only [insertion, List.length_append, String.length_toList, ← Nat.add_assoc] at place
  change Completed.mk c.applied.line c.applied.cursor = _
  rw [text, place]
  simp only [inPlace, drop_cursor, insertion, String.ofList_append, String.ofList_toList,
    String.append_assoc]

theorem Stands.outside {before after : List Char} (stands : c.Stands before after) :
    c.applied.line.toList.take c.start = before ∧
      c.applied.line.toList.drop c.applied.cursor = after := by
  rw [stands.line, stands.start, stands.cursor]
  constructor
  · rw [List.append_assoc]
    exact List.take_left
  · rw [← List.length_append]
    exact List.drop_left

theorem candidate_eq (index : c.index < c.candidates.length) :
    c.candidates[c.index]? = some c.candidate := by
  simp [candidate, index]

end Answers

/-- Repeating a request cycles. The first answer puts the first candidate in place of the word before the
cursor, and any later one the candidate whose turn it is in place of the same word of the same line. -/
theorem cycling_comes_round (current : Option Completion) (line : String) (cursor : Nat)
    (roster : Roster) (suffix : String) (answer : Completed)
    (fresh : (current.any fun c => c.isRepeat line cursor) = false)
    (answered : (request current line cursor roster suffix).1 = some answer) :
    ∃ c : Completion, (request current line cursor roster suffix).2 = some c ∧
      line.toList = line.toList.take c.start ++ c.typed.toList ++
        line.toList.drop (min cursor line.length) ∧
      (∀ asks : List (Roster × String), ∃ nick,
        c.candidates[asks.length % c.candidates.length]? = some nick ∧
        (again (some c) answer asks).1 =
          some (inPlace line c.start cursor nick (if c.start = 0 then suffix ++ " " else " "))) ∧
      (∀ asks : List (Roster × String), asks.length % c.candidates.length = 0 →
        (again (some c) answer asks).1 = some answer) ∧
      (∀ asks : List (Roster × String), ∃ done, (again (some c) answer asks).1 = some done ∧
        done.line.toList.take c.start = line.toList.take c.start ∧
        done.line.toList.drop done.cursor = line.toList.drop (min cursor line.length)) := by
  obtain ⟨c, begun, rfl, kept⟩ := request_fresh fresh answered
  obtain ⟨parts, first, separator, stands⟩ := ofLine?_stands begun
  have shows (asks : List (Roster × String)) : ∃ nick,
      c.candidates[asks.length % c.candidates.length]? = some nick ∧
      (again (some c) c.applied asks).1 =
        some (inPlace line c.start cursor nick (if c.start = 0 then suffix ++ " " else " ")) := by
    obtain ⟨d, answers, there, candidates, same, index⟩ := stands.again asks
    have start : d.start = c.start := there.start.trans stands.start.symm
    rw [first, Nat.zero_add] at index
    refine ⟨d.candidate, ?_, ?_⟩
    · rw [← index, ← candidates]
      exact candidate_eq there.index
    · rw [← start] at there
      rw [answers, there.applied_eq, start, same, separator, separatorAt]
  refine ⟨c, kept, ?_, shows, ?_, ?_⟩
  · rw [drop_cursor]
    exact parts
  · intro asks round
    obtain ⟨nick, turn, done⟩ := shows asks
    obtain ⟨begin, opens, same⟩ := shows []
    rw [round] at turn
    rw [List.length_nil, Nat.zero_mod] at opens
    cases turn.symm.trans opens
    rw [done, ← same]
    rfl
  · intro asks
    obtain ⟨d, answers, there, -, -, -⟩ := stands.again asks
    have start : d.start = c.start := there.start.trans stands.start.symm
    have outside := there.outside
    rw [start] at outside
    rw [drop_cursor, answers]
    exact ⟨d.applied, rfl, outside⟩

theorem cycling_accented_nicks :
    let roster := Roster.setMembers {} [("Élodie", none), ("bob", some '@'), ("élan", none)]
    let other := (request none "b" 1 roster ":").2
    ((other.any fun c => c.isRepeat "hey él!" 6) = false ∧
      (request other "hey él!" 6 roster ":").1 = some ⟨"hey Élodie !", 11⟩ ∧
      ∃ c : Completion, (request other "hey él!" 6 roster ":").2 = some c ∧
        ∀ asks : List (Roster × String), asks.length % c.candidates.length = 0 →
          (again (some c) ⟨"hey Élodie !", 11⟩ asks).1 = some ⟨"hey Élodie !", 11⟩) ∧
    -- at the beginning of the line the suffix follows
    (other.any fun c => c.isRepeat "él!" 2) = false ∧
      (request other "él!" 2 roster ":").1 = some ⟨"Élodie: !", 8⟩ ∧
      ∃ c : Completion, (request other "él!" 2 roster ":").2 = some c ∧ c.start = 0 ∧
        ∀ asks : List (Roster × String), asks.length % 2 = 1 →
          (again (some c) ⟨"Élodie: !", 8⟩ asks).1 = some ⟨"élan: !", 6⟩ := by
  intro roster other
  constructor
  · have fresh : (other.any fun c => c.isRepeat "hey él!" 6) = false := by decide
    have answered : (request other "hey él!" 6 roster ":").1 = some ⟨"hey Élodie !", 11⟩ := by decide
    obtain ⟨c, kept, -, -, round, -⟩ :=
      cycling_comes_round other "hey él!" 6 roster ":" ⟨"hey Élodie !", 11⟩ fresh answered
    exact ⟨fresh, answered, c, kept, round⟩
  · have fresh : (other.any fun c => c.isRepeat "él!" 2) = false := by decide
    have answered : (request other "él!" 2 roster ":").1 = some ⟨"Élodie: !", 8⟩ := by decide
    have begun : (request other "él!" 2 roster ":").2 =
        some ⟨"él", ["Élodie", "élan"], 0, 0, 8, ": ", ⟨"Élodie: !", 8⟩⟩ := by decide
    obtain ⟨c, kept, -, shows, -, -⟩ :=
      cycling_comes_round other "él!" 2 roster ":" ⟨"Élodie: !", 8⟩ fresh answered
    obtain rfl := Option.some.inj (kept.symm.trans begun)
    refine ⟨fresh, answered, _, kept, rfl, ?_⟩
    intro asks odd
    obtain ⟨nick, turn, answer⟩ := shows asks
    simp only [List.length_cons, List.length_nil, odd] at turn
    obtain rfl := Option.some.inj turn
    exact answer

end ChatDisplay.Completion
