import ChatDisplay.Proofs.Completion.Cycling

namespace ChatDisplay.Completion
variable {c : Completion} {line : String}

section Splicing

theorem applyTo_line (c : Completion) (line : String) : (c.applyTo line).applied.line.toList =
    line.toList.take c.start ++ c.insertion ++ line.toList.drop (c.start + c.inserted) :=
  String.toList_ofList

/-- On a line that reaches the start of the word, what is put in ends at the cursor. -/
theorem applyTo_behind (reaches : c.start ≤ line.length) :
    let done := (c.applyTo line).applied
    done.cursor ≤ done.line.length ∧ c.insertion <:+ done.line.toList.take done.cursor := by
  intro done
  rw [← String.length_toList] at reaches ⊢
  have size : (line.toList.take c.start ++ c.insertion).length = done.cursor := by
    rw [List.length_append, List.length_take_of_le reaches]
    rfl
  have text : done.line.toList = _ := c.applyTo_line line
  rw [text, ← size, List.take_left]
  exact ⟨(List.prefix_append _ _).length_le, List.suffix_append _ _⟩

/-- On a shorter line it is put at the end, and the cursor is further off by what is missing. -/
theorem applyTo_beyond (short : line.length < c.start) :
    let done := (c.applyTo line).applied
    done.line.toList = line.toList ++ c.insertion ∧
      done.cursor = done.line.length + (c.start - line.length) := by
  intro done
  rw [← String.length_toList, ← String.length_toList] at *
  have text : done.line.toList = line.toList ++ c.insertion := by
    have whole : done.line.toList = _ := c.applyTo_line line
    rw [whole, List.take_of_length_le (Nat.le_of_lt short), List.drop_eq_nil_of_le (by omega),
      List.append_nil]
  have cursor : done.cursor = c.start + c.insertion.length := rfl
  refine ⟨text, ?_⟩
  rw [text, cursor, List.length_append]
  omega

end Splicing

theorem advance_keeps {first : Completion} (index : first.index < first.candidates.length)
    (lines : List String) : (lines.foldl advance first).start = first.start ∧
      (lines.foldl advance first).index < (lines.foldl advance first).candidates.length := by
  induction lines generalizing first with
  | nil => exact ⟨rfl, index⟩
  | cons line rest ih =>
    have some : 0 < first.candidates.length := Nat.zero_lt_of_lt index
    exact ih (Nat.mod_lt _ some)

/-- Advance a completion on any lines, and then on one more. If that line reaches the start of the word,
the candidate and its separator are right before the cursor. If it does not, they are at the end of the
new line, and the cursor is beyond it by what was missing. -/
theorem cursor_behind_separator {cursor : Nat} {roster : Roster} {suffix : String} {first : Completion}
    (begun : ofLine? line cursor roster suffix = some first) (lines : List String) (next : String) :
    let done := (lines.foldl advance first).advance next
    ∃ nick, done.candidates[done.index]? = some nick ∧
      if first.start ≤ next.length then
        done.applied.cursor ≤ done.applied.line.length ∧
          nick.toList ++ done.separator.toList <:+
            done.applied.line.toList.take done.applied.cursor
      else
        done.applied.line.toList = next.toList ++ (nick.toList ++ done.separator.toList) ∧
          done.applied.cursor = done.applied.line.length + (first.start - next.length) := by
  intro done
  obtain ⟨-, -, -, stands⟩ := ofLine?_stands begun
  obtain ⟨start, -⟩ := advance_keeps stands.index lines
  have index := (advance_keeps stands.index (lines ++ [next])).2
  rw [List.foldl_append] at index
  refine ⟨done.candidate, candidate_eq index, ?_⟩
  rw [← start]
  split
  · rename_i reaches
    exact applyTo_behind reaches
  · rename_i short
    exact applyTo_beyond (Nat.lt_of_not_le short)

theorem cursor_behind_other_line :
    let roster := Roster.setMembers {} [("alice", none), ("Élodie", none), ("Ali", some '@')]
    let first : Completion := ⟨"ali", ["alice", "Ali"], 0, 3, 6, " ", ⟨"hi alice ", 9⟩⟩
    let done := (["", "→→→→"].foldl advance first).advance "él nick"
    ofLine? "hi ali" 6 roster ":" = some first ∧ first.start ≤ "él nick".length ∧
      ∃ nick, done.candidates[done.index]? = some nick ∧
        done.applied.cursor ≤ done.applied.line.length ∧
        nick.toList ++ done.separator.toList <:+ done.applied.line.toList.take done.applied.cursor := by
  intro roster first done
  have begun : ofLine? "hi ali" 6 roster ":" = some first := by decide
  have reaches : first.start ≤ "él nick".length := by decide
  obtain ⟨nick, there, placed⟩ := cursor_behind_separator begun ["", "→→→→"] "él nick"
  rw [if_pos reaches] at placed
  exact ⟨begun, reaches, nick, there, placed⟩

/-- A line shorter than the one the word was in leaves the cursor beyond its end. -/
theorem cursor_beyond_short_line :
    ¬ ∀ (line : String) (cursor : Nat) (roster : Roster) (suffix : String) (first : Completion)
      (lines : List String) (next : String), ofLine? line cursor roster suffix = some first →
      let done := (lines.foldl advance first).advance next
      done.applied.cursor ≤ done.applied.line.length ∧
        ∃ nick, done.candidates[done.index]? = some nick ∧
          nick.toList ++ done.separator.toList <:+
            done.applied.line.toList.take done.applied.cursor := by
  intro always
  let roster := Roster.setMembers {} [("alice", none), ("alicia", none)]
  let first : Completion := ⟨"ali", ["alice", "alicia"], 0, 3, 6, " ", ⟨"hi alice ", 9⟩⟩
  have begun : ofLine? "hi ali" 6 roster ":" = some first := by decide
  have inside := (always "hi ali" 6 roster ":" first [] "" begun).1
  exact absurd inside (by decide)

end ChatDisplay.Completion
