import ChatDisplay.Roster.Symbols
import Mathlib.Data.List.TakeWhile

namespace ChatDisplay.Announcement

/-- The text is `(modes)symbols`. Symbols may have parentheses among them, modes no closing one. -/
structure Parenthesized (text modes symbols : String) : Prop where
  whole : text = "(" ++ modes ++ ")" ++ symbols
  someModes : modes ≠ ""
  inside : ')' ∉ modes.toList
  someSymbols : symbols ≠ ""

/-- The text is symbols alone. -/
def Bare (text : String) : Prop := text ≠ "" ∧ text.toList.head? ≠ some '('

section Chars
variable {cs rest modes symbols : List Char}

theorem closing_iff : rest.takeWhile (· != ')') = modes ∧
    rest.dropWhile (· != ')') = ')' :: symbols ↔ rest = modes ++ ')' :: symbols ∧ ')' ∉ modes := by
  constructor
  · rintro ⟨rfl, behind⟩
    constructor
    · rw [← behind, List.takeWhile_append_dropWhile]
    · intro closing
      have passed := List.mem_takeWhile_imp closing
      contradiction
  · rintro ⟨rfl, inside⟩
    have passed : ∀ c ∈ modes, (c != ')') = true := by
      intro c there
      have other : c ≠ ')' := fun same => inside (same ▸ there)
      simpa using other
    constructor
    · simp [List.takeWhile_append_of_pos passed]
    · simp [List.dropWhile_append_of_pos passed]

theorem ofChars?_opened {a : Announcement} : ofChars? ('(' :: rest) = some a ↔
    (rest = a.modes ++ ')' :: a.symbols ∧ ')' ∉ a.modes) ∧ a.modes ≠ [] ∧ a.symbols ≠ [] := by
  constructor
  · intro read
    simp only [ofChars?] at read
    split at read
    · rename_i behind closed
      split at read
      · contradiction
      · rename_i filled
        obtain rfl := Option.some.inj read
        simp only [Bool.or_eq_true, List.isEmpty_iff, not_or] at filled
        exact ⟨closing_iff.mp ⟨rfl, closed⟩, filled⟩
    · contradiction
  · rintro ⟨whole, modesThere, symbolsThere⟩
    obtain ⟨before, behind⟩ := closing_iff.mpr whole
    simp [ofChars?, before, behind, modesThere, symbolsThere]

theorem ofChars?_alone (there : cs ≠ []) (alone : cs.head? ≠ some '(') :
    ofChars? cs = some ⟨[], cs⟩ := by
  cases cs with
  | nil => contradiction
  | cons c cs =>
    have other : c ≠ '(' := fun same => alone (congrArg some same)
    simp [ofChars?, other]

end Chars

section Texts
variable {text modes symbols : String}

theorem chars_parenthesized : Parenthesized text modes symbols ↔
    text.toList = '(' :: (modes.toList ++ ')' :: symbols.toList) ∧ ')' ∉ modes.toList ∧
      modes.toList ≠ [] ∧ symbols.toList ≠ [] := by
  have whole : text = "(" ++ modes ++ ")" ++ symbols ↔
      text.toList = '(' :: (modes.toList ++ ')' :: symbols.toList) := by
    rw [← String.toList_inj]
    simp
  constructor
  · intro form
    exact ⟨whole.mp form.whole, form.inside, by simpa using form.someModes,
      by simpa using form.someSymbols⟩
  · rintro ⟨chars, inside, modesThere, symbolsThere⟩
    exact ⟨whole.mpr chars, by simpa using modesThere, inside, by simpa using symbolsThere⟩

theorem not_parenthesized_of_bare (bare : Bare text) : ¬ Parenthesized text modes symbols := by
  intro form
  have chars := (chars_parenthesized.mp form).1
  exact bare.2 (by simp [chars])

theorem parse?_eq_some_iff {a : Announcement} : parse? text = some a ↔
    Parenthesized text (String.ofList a.modes) (String.ofList a.symbols) ∨
      Bare text ∧ a = ⟨[], text.toList⟩ := by
  by_cases bare : Bare text
  · have read : parse? text = some ⟨[], text.toList⟩ :=
      ofChars?_alone (by simpa using bare.1) bare.2
    simp [read, bare, not_parenthesized_of_bare bare, eq_comm]
  · -- any other text has nothing in it or opens a parenthesis
    simp only [bare, false_and, or_false, chars_parenthesized, String.toList_ofList]
    cases chars : text.toList with
    | nil => simp [parse?, ofChars?, chars]
    | cons c rest =>
      have opened : c = '(' := by
        by_contra other
        exact bare ⟨by rintro rfl; contradiction, by simp [chars, other]⟩
      subst opened
      simp only [parse?, chars, ofChars?_opened, List.cons.injEq, true_and, and_assoc]

theorem Parenthesized.unique {modes' symbols' : String} (form : Parenthesized text modes symbols)
    (other : Parenthesized text modes' symbols') : modes = modes' ∧ symbols = symbols' := by
  have read : parse? text = some ⟨modes.toList, symbols.toList⟩ :=
    parse?_eq_some_iff.mpr (.inl (by simpa using form))
  have again : parse? text = some ⟨modes'.toList, symbols'.toList⟩ :=
    parse?_eq_some_iff.mpr (.inl (by simpa using other))
  have same := Option.some.inj (read.symm.trans again)
  exact ⟨String.toList_inj.mp (congrArg Announcement.modes same),
    String.toList_inj.mp (congrArg Announcement.symbols same)⟩

end Texts

/-- A text is read with modes just if it is these modes in parentheses with the symbols behind, which it is
in one way at most; it is read without modes just if it is symbols alone. For every other text the
standard symbols are in use. -/
theorem parse?_forms (text : String) :
    (∀ modes symbols : String, parse? text = some ⟨modes.toList, symbols.toList⟩ ∧ modes ≠ "" ↔
      Parenthesized text modes symbols) ∧
    (∀ modes symbols modes' symbols' : String, Parenthesized text modes symbols →
      Parenthesized text modes' symbols' → modes = modes' ∧ symbols = symbols') ∧
    (∀ symbols : String, parse? text = some ⟨[], symbols.toList⟩ ↔ Bare text ∧ symbols = text) ∧
    (¬ Bare text → (∀ modes symbols, ¬ Parenthesized text modes symbols) →
      parse? text = none ∧ SymbolMap.ofText text = .standard) := by
  refine ⟨?_, fun _ _ _ _ => Parenthesized.unique, ?_, ?_⟩
  · intro modes symbols
    simp only [parse?_eq_some_iff, String.ofList_toList]
    constructor
    · rintro ⟨form | ⟨-, same⟩, there⟩
      · exact form
      · have none : modes.toList = [] := congrArg Announcement.modes same
        exact absurd (by simpa using none) there
    · intro form
      exact ⟨.inl form, form.someModes⟩
  · intro symbols
    simp only [parse?_eq_some_iff, String.ofList_toList]
    constructor
    · rintro (form | ⟨bare, same⟩)
      · exact absurd rfl form.someModes
      · exact ⟨bare, String.toList_inj.mp (congrArg Announcement.symbols same)⟩
    · rintro ⟨bare, rfl⟩
      exact .inr ⟨bare, rfl⟩
  · intro notBare notParenthesized
    have unread : parse? text = none := by
      cases read : parse? text with
      | none => rfl
      | some a =>
        rcases parse?_eq_some_iff.mp read with form | ⟨bare, -⟩
        · exact absurd form (notParenthesized _ _)
        · exact absurd bare notBare
    exact ⟨unread, by simp only [SymbolMap.ofText, unread]⟩

/-- Of two closing parentheses the first ends the modes. -/
example : parse? "(o(v)@)+" = some ⟨['o', '(', 'v'], ['@', ')', '+']⟩ ∧
    parse? "()@" = none ∧ parse? "(ov)" = none ∧ parse? "(ov@+" = none := by decide

end ChatDisplay.Announcement
