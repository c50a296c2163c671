import ChatDisplay.Proofs.Markup.Bytes
import Mathlib.Data.List.TakeWhile

namespace ChatDisplay.Control
open Text

/-- The digits of a text up to the second, none if it begins otherwise. -/
def leadingNumber (cs : List Char) : List Char := (cs.take 2).takeWhile isDigit

theorem isNumber_iff {cs : List Char} :
    isNumber cs = true ↔ (cs.length = 1 ∨ cs.length = 2) ∧ ∀ c ∈ cs, isDigit c = true := by
  simp [isNumber]

theorem leadingNumber_begins (cs : List Char) : leadingNumber cs <+: cs :=
  (List.takeWhile_prefix _).trans (List.take_prefix 2 cs)

theorem leadingNumber_digits (cs : List Char) : ∀ c ∈ leadingNumber cs, isDigit c = true :=
  fun _ hc => List.mem_takeWhile_imp hc

theorem leadingNumber_isNumber {cs : List Char} (some : leadingNumber cs ≠ []) :
    isNumber (leadingNumber cs) = true := by
  have short : (leadingNumber cs).length ≤ 2 :=
    Nat.le_trans (List.takeWhile_prefix _).length_le (List.length_take_le 2 cs)
  have long := List.length_pos_iff.mpr some
  exact isNumber_iff.mpr ⟨by omega, leadingNumber_digits cs⟩

theorem number_begins {p cs : List Char} (beginning : p <+: cs) (number : isNumber p = true) :
    p <+: leadingNumber cs := by
  obtain ⟨size, digits⟩ := isNumber_iff.mp number
  have within : p <+: cs.take 2 := List.prefix_take_iff.mpr ⟨beginning, by omega⟩
  obtain ⟨rest, eq⟩ := within
  rw [leadingNumber, ← eq, List.takeWhile_append_of_pos digits]
  exact List.prefix_append p _

theorem number_before_comma {p rest : List Char} (number : isNumber p = true) :
    leadingNumber (p ++ ',' :: rest) = p := by
  obtain ⟨size, digits⟩ := isNumber_iff.mp number
  obtain one | two := size
  · obtain ⟨a, rfl⟩ := List.length_eq_one_iff.mp one
    have ha := digits a List.mem_cons_self
    have comma : isDigit ',' = false := by decide
    simp [leadingNumber, ha, comma]
  · rw [leadingNumber, List.take_left' two]
    exact List.takeWhile_eq_self_iff.mpr digits

theorem digit_ne_comma {c : Char} (digit : isDigit c = true) : (c != ',') = true := by
  rw [bne_iff_ne]
  rintro rfl
  exact absurd digit (by decide)

theorem isArgument_iff {p : List Char} : isArgument p = true ↔
    isNumber p = true ∨ ∃ f b, p = f ++ ',' :: b ∧ isNumber f = true ∧ isNumber b = true := by
  constructor
  · intro argument
    rw [isArgument, Bool.or_eq_true, Bool.and_eq_true] at argument
    obtain one | ⟨first, second⟩ := argument
    · exact .inl one
    · cases tail : p.dropWhile (· != ',') with
      | nil =>
        rw [tail] at second
        contradiction
      | cons d b =>
        have stops : p.dropWhile (· != ',') ≠ [] := by simp [tail]
        have comma : d = ',' := by
          simpa [tail] using List.head_dropWhile_not (· != ',') stops
        rw [tail] at second
        refine .inr ⟨p.takeWhile (· != ','), b, ?_, first, second⟩
        calc p = p.takeWhile (· != ',') ++ p.dropWhile (· != ',') :=
              List.takeWhile_append_dropWhile.symm
          _ = p.takeWhile (· != ',') ++ ',' :: b := by rw [tail, comma]
  · rintro (one | ⟨f, b, rfl, first, second⟩)
    · rw [isArgument, one, Bool.true_or]
    · have digits : ∀ c ∈ f, (c != ',') = true :=
        fun c hc => digit_ne_comma ((isNumber_iff.mp first).2 c hc)
      rw [isArgument, List.takeWhile_append_of_pos digits, List.dropWhile_append_of_pos digits]
      simp [first, second]

/-- The longest argument of at most `n` characters begins the text, and no argument so long is longer. -/
theorem longestArgument_longest (cs : List Char) (n : Nat) : longestArgument cs n <+: cs ∧
    (longestArgument cs n = [] ∨ isArgument (longestArgument cs n) = true) ∧
    ∀ p, p <+: cs → p.length ≤ n → isArgument p = true →
      p.length ≤ (longestArgument cs n).length := by
  induction n with
  | zero => exact ⟨List.nil_prefix, .inl rfl, fun _ _ short _ => short⟩
  | succ n ih =>
    rw [longestArgument]
    split
    · rename_i argument
      refine ⟨List.take_prefix (n + 1) cs, .inr argument, fun p beginning short _ => ?_⟩
      rw [List.length_take]
      exact Nat.le_min.mpr ⟨short, beginning.length_le⟩
    · rename_i argument
      refine ⟨ih.1, ih.2.1, fun p beginning short good => ih.2.2 p beginning ?_ good⟩
      -- a beginning of full length is the very piece that was no argument
      refine Nat.le_of_lt_succ (Nat.lt_of_le_of_ne short fun whole => argument ?_)
      have size : p.length = n + 1 := whole
      have same : p = cs.take (n + 1) := size ▸ List.prefix_iff_eq_take.mp beginning
      rw [← same, good]

theorem longestArgument_eq {a cs : List Char} (beginning : a <+: cs)
    (good : a = [] ∨ isArgument a = true)
    (longest : ∀ p, p <+: cs → isArgument p = true → p.length ≤ a.length) :
    longestArgument cs cs.length = a := by
  obtain ⟨within, found, most⟩ := longestArgument_longest cs cs.length
  have below : (longestArgument cs cs.length).length ≤ a.length := by
    obtain nothing | argument := found
    · rw [nothing]
      exact Nat.zero_le _
    · exact longest _ within argument
  have above : a.length ≤ (longestArgument cs cs.length).length := by
    obtain rfl | argument := good
    · exact Nat.zero_le _
    · exact most a beginning beginning.length_le argument
  exact (List.prefix_of_prefix_length_le within beginning below).eq_of_length_le above

theorem longestArgument_none {cs : List Char} (none : leadingNumber cs = []) :
    longestArgument cs cs.length = [] := by
  refine longestArgument_eq List.nil_prefix (.inl rfl) ?_
  intro p beginning argument
  obtain one | ⟨f, b, rfl, first, _⟩ := isArgument_iff.mp argument
  · exact none ▸ (number_begins beginning one).length_le
  · have inside := number_begins ((List.prefix_append f _).trans beginning) first
    rw [none, List.prefix_nil] at inside
    rw [inside] at first
    contradiction

theorem longestArgument_one {cs : List Char} (some : leadingNumber cs ≠ [])
    (alone : ∀ rest, cs = leadingNumber cs ++ ',' :: rest → leadingNumber rest = []) :
    longestArgument cs cs.length = leadingNumber cs := by
  refine longestArgument_eq (leadingNumber_begins cs)
    (.inr (isArgument_iff.mpr (.inl (leadingNumber_isNumber some)))) ?_
  intro p beginning argument
  obtain one | ⟨f, b, rfl, first, second⟩ := isArgument_iff.mp argument
  · exact (number_begins beginning one).length_le
  · obtain ⟨rest, rfl⟩ := beginning
    have shape : f ++ ',' :: b ++ rest = f ++ ',' :: (b ++ rest) := by simp
    rw [shape] at alone
    have inside := number_begins (List.prefix_append b rest) second
    rw [alone (b ++ rest) (by rw [number_before_comma first]), List.prefix_nil] at inside
    rw [inside] at second
    contradiction

theorem longestArgument_two {cs rest : List Char} (some : leadingNumber cs ≠ [])
    (comma : cs = leadingNumber cs ++ ',' :: rest) (another : leadingNumber rest ≠ []) :
    longestArgument cs cs.length = leadingNumber cs ++ ',' :: leadingNumber rest := by
  have both : isArgument (leadingNumber cs ++ ',' :: leadingNumber rest) = true :=
    isArgument_iff.mpr (.inr ⟨_, _, rfl, leadingNumber_isNumber some,
      leadingNumber_isNumber another⟩)
  have beginning : leadingNumber cs ++ ',' :: leadingNumber rest <+: cs := by
    conv => rhs; rw [comma]
    exact (List.prefix_append_right_inj _).mpr
      (List.cons_prefix_cons.mpr ⟨rfl, leadingNumber_begins rest⟩)
  refine longestArgument_eq beginning (.inr both) ?_
  intro p within argument
  rw [List.length_append, List.length_cons]
  obtain one | ⟨f, b, rfl, first, second⟩ := isArgument_iff.mp argument
  · exact Nat.le_trans (number_begins within one).length_le (Nat.le_add_right _ _)
  · obtain ⟨tail, eq⟩ := within
    have shape : cs = f ++ ',' :: (b ++ tail) := by rw [← eq]; simp
    have same : leadingNumber cs = f := by rw [shape, number_before_comma first]
    have follows : rest = b ++ tail := by
      rw [same, shape] at comma
      simpa using comma.symm
    have inside := number_begins (List.prefix_append b tail) second
    rw [same, follows, List.length_append, List.length_cons]
    have := inside.length_le
    omega

end ChatDisplay.Control
