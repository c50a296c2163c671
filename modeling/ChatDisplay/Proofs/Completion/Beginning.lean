import ChatDisplay.Proofs.Completion.Cycling
import ChatDisplay.Proofs.Roster.Changes
import ChatDisplay.Proofs.Text.Fold
import Mathlib.Data.List.TakeWhile
import Mathlib.Order.Bounds.Defs

namespace ChatDisplay.Completion

section Words
variable {cs word : List Char}

/-- The characters of a line from one place up to another. -/
def piece (line : List Char) (start stop : Nat) : List Char := (line.take stop).drop start

theorem lastWord_visible {ch : Char} (inside : ch ∈ lastWord cs) : Text.isBlank ch = false := by
  have visible := List.mem_takeWhile_imp (List.mem_reverse.mp inside)
  simpa using visible

theorem lastWord_longest (ends : word <:+ cs) (visible : ∀ ch ∈ word, Text.isBlank ch = false) :
    word.length ≤ (lastWord cs).length := by
  obtain ⟨before, rfl⟩ := ends
  have taken : ∀ ch ∈ word.reverse, (!Text.isBlank ch) = true := by
    intro ch inside
    rw [visible ch (List.mem_reverse.mp inside), Bool.not_false]
  rw [lastWord, List.reverse_append, List.takeWhile_append_of_pos taken]
  simp

theorem lastWord_concat (cs : List Char) (ch : Char) :
    lastWord (cs ++ [ch]) = if Text.isBlank ch then [] else lastWord cs ++ [ch] := by
  cases blank : Text.isBlank ch with
  | false => simp [lastWord, blank]
  | true => simp [lastWord, blank]

theorem lastWord_ne_nil : lastWord cs ≠ [] ↔
    ∃ ch, cs.getLast? = some ch ∧ Text.isBlank ch = false := by
  induction cs using List.reverseRecOn with
  | nil => simp [lastWord]
  | append_singleton before ch => simp [lastWord_concat]

theorem getLast?_before {stop : Nat} {ch : Char} (inside : stop ≤ cs.length) :
    (cs.take stop).getLast? = some ch ↔ 0 < stop ∧ cs[stop - 1]? = some ch := by
  rw [List.getLast?_eq_getElem?, List.length_take_of_le inside]
  cases stop with
  | zero => simp
  | succ k => simp

theorem drop_lastWord (cs : List Char) :
    cs.drop (cs.length - (lastWord cs).length) = lastWord cs :=
  (List.suffix_iff_eq_drop.mp (lastWord_suffix cs)).symm

/-- The last word begins at the least place with no blank from there on. -/
theorem lastWord_isLeast (cs : List Char) :
    IsLeast {t | ∀ ch ∈ cs.drop t, Text.isBlank ch = false} (cs.length - (lastWord cs).length) := by
  constructor
  · intro ch inside
    rw [drop_lastWord] at inside
    exact lastWord_visible inside
  · intro t visible
    have longest := lastWord_longest (List.drop_suffix t cs) visible
    rw [List.length_drop] at longest
    omega

end Words

section Beginning
variable {line : String} {cursor : Nat} {roster : Roster} {suffix : String} {c : Completion}

theorem take_cursor (line : String) (cursor : Nat) :
    line.toList.take (min cursor line.length) = line.toList.take cursor := by
  rw [← String.length_toList, ← List.take_take, List.take_length]

theorem ofLine?_isSome (line : String) (cursor : Nat) (roster : Roster) (suffix : String) :
    (ofLine? line cursor roster suffix).isSome = true ↔
      lastWord (line.toList.take cursor) ≠ [] ∧
        ∃ nick ∈ roster.nicks,
          Text.beginsWith nick.toList (lastWord (line.toList.take cursor)) = true := by
  unfold ofLine?
  simp only []
  split
  · rename_i nothing
    simp only [Bool.or_eq_true, List.isEmpty_iff, List.filter_eq_nil_iff] at nothing
    simp only [Option.isSome_none, Bool.false_eq_true, false_iff, not_and, not_exists]
    intro word nick
    exact nothing.resolve_left word nick
  · rename_i possible
    simp only [Bool.or_eq_true, List.isEmpty_iff, List.filter_eq_nil_iff, not_or, not_forall,
      not_not] at possible
    simp only [Option.isSome_some, true_iff]
    obtain ⟨word, nick, member, begins⟩ := possible
    exact ⟨word, nick, member, begins⟩

theorem ofLine?_word (begun : ofLine? line cursor roster suffix = some c) :
    c.start = (line.toList.take cursor).length - (lastWord (line.toList.take cursor)).length ∧
      c.typed.toList = lastWord (line.toList.take cursor) := by
  unfold ofLine? at begun
  simp only [] at begun
  split at begun
  · contradiction
  · cases begun
    exact ⟨rfl, String.toList_ofList⟩

/-- The nick begins with the word, but for case. -/
def Opens (word : List Char) (nick : String) : Prop :=
  (nick.toList.take word.length).map Text.foldChar = word.map Text.foldChar

instance (word : List Char) (nick : String) : Decidable (Opens word nick) :=
  inferInstanceAs (Decidable (_ = _))

theorem opens_iff {word : List Char} {nick : String} :
    Opens word nick ↔ Text.beginsWith nick.toList word = true :=
  (Text.beginsWith_iff nick.toList word).symm

/-- The completion of the word that stands in a line from `place` up to `stop`. -/
structure Completes (line : List Char) (place stop : Nat) (roster : Roster) (suffix : String)
    (c : Completion) : Prop where
  start : c.start = place
  typed : c.typed.toList = piece line place stop
  candidates : c.candidates = roster.nicks.filter fun nick => Opens (piece line place stop) nick
  index : c.index = 0
  applied : ∃ first others, c.candidates = first :: others ∧
    c.applied.line.toList = line.take place ++ first.toList ++
      (if place = 0 then suffix ++ " " else " ").toList ++ line.drop stop

theorem ofLine?_completes (begun : ofLine? line cursor roster suffix = some c) :
    Completes line.toList c.start (min cursor line.length) roster suffix c := by
  obtain ⟨start, typed⟩ := ofLine?_word begun
  obtain ⟨-, index, separator, stands⟩ := ofLine?_stands begun
  have word : c.typed.toList = piece line.toList c.start (min cursor line.length) := by
    rw [piece, take_cursor, start, drop_lastWord, typed]
  constructor
  · rfl
  · exact word
  · rw [ofLine?_candidates begun]
    refine List.filter_congr fun nick _ => ?_
    rw [Bool.eq_iff_iff, decide_eq_true_iff, opens_iff, ← word]
    rfl
  · exact index
  · have some : c.candidates[0]? = some c.candidate := index ▸ candidate_eq stands.index
    rw [← List.head?_eq_getElem?] at some
    obtain ⟨others, same⟩ := List.head?_eq_some_iff.mp some
    refine ⟨c.candidate, others, same, ?_⟩
    rw [stands.line, insertion, separator, separatorAt, drop_cursor]
    simp only [List.append_assoc]

end Beginning

/-- The word before the cursor starts at the least place with no blank from there up to the cursor, where
a cursor beyond the end of the line is at its end. There is something to complete just if the character
before the cursor is there and no blank, and some nick begins with the word. The candidates are all such
nicks in the order of the roster, and the first stands with its separator in place of the word. -/
theorem completes_last_word (line : String) (cursor : Nat) (roster : Roster) (suffix : String) :
    let stop := min cursor line.length
    ∃ place, IsLeast {t | ∀ ch ∈ piece line.toList t stop, Text.isBlank ch = false} place ∧
      ((ofLine? line cursor roster suffix).isSome = true ↔
        (∃ ch, 0 < stop ∧ line.toList[stop - 1]? = some ch ∧ Text.isBlank ch = false) ∧
          ∃ nick ∈ roster.nicks, Opens (piece line.toList place stop) nick) ∧
      ∀ c, ofLine? line cursor roster suffix = some c →
        Completes line.toList place stop roster suffix c ∧
          ∀ changes, roster = Roster.afterAll {} changes → c.candidates.Nodup := by
  intro stop
  let before := line.toList.take stop
  have same : before = line.toList.take cursor := take_cursor line cursor
  refine ⟨before.length - (lastWord before).length, lastWord_isLeast before, ?_, ?_⟩
  · have inside : stop ≤ line.toList.length := by
      rw [String.length_toList]
      exact Nat.min_le_right cursor line.length
    rw [ofLine?_isSome, ← same, piece, drop_lastWord, lastWord_ne_nil]
    simp only [before, getLast?_before inside, opens_iff, and_assoc]
  · intro c begun
    have completes := ofLine?_completes begun
    rw [(ofLine?_word begun).1, ← same] at completes
    refine ⟨completes, ?_⟩
    rintro changes rfl
    rw [completes.candidates]
    exact (Roster.nodup_afterAll changes).filter _

theorem completes_accented_word :
    let roster := Roster.afterAll {}
      [.listed [("Élodie", none), ("bob", some '@'), ("élan", none)]]
    let c : Completion := ⟨"él", ["Élodie", "élan"], 0, 4, 7, " ", ⟨"hey Élodie !", 11⟩⟩
    ofLine? "hey él!" 6 roster ":" = some c ∧ c.candidates.Nodup ∧
      ∃ place, Completes "hey él!".toList place 6 roster ":" c := by
  intro roster c
  have begun : ofLine? "hey él!" 6 roster ":" = some c := by decide
  obtain ⟨place, -, -, all⟩ := completes_last_word "hey él!" 6 roster ":"
  obtain ⟨completes, once⟩ := all c begun
  exact ⟨begun, once _ rfl, place, completes⟩

end ChatDisplay.Completion
