import ChatDisplay.Text.Fold
import Mathlib.Order.Bounds.Basic

namespace ChatDisplay.Text

section Points
variable {r q : CaseRun} {n : Nat}

def CaseRun.top (r : CaseRun) : Nat := r.target + (r.last - r.first)

/-- No lowercase that the first run gives has an entry in the second. They lie apart, or each skips
every other code point and they never meet. -/
def CaseRun.misses (r q : CaseRun) : Bool :=
  r.top.blt q.first || q.last.blt r.target ||
    (q.stride == 2 && (r.stride == 2 || r.first == r.last) && (r.target + q.first) % 2 == 1)

/-- The lowercases are characters, and not the brackets that fold to others. -/
def CaseRun.sound (r : CaseRun) : Bool :=
  (r.top < 0xd800 || (0xdfff < r.target && r.top < 0x110000)) &&
    (']'.toNat < r.target && (r.top < '~'.toNat || '~'.toNat < r.target))

theorem caseRuns_miss : ∀ r ∈ caseRuns, ∀ q ∈ caseRuns, r.misses q = true := by
  have all : (caseRuns.all fun r => caseRuns.all r.misses) = true := by decide +kernel
  intro r member
  exact List.all_eq_true.mp (List.all_eq_true.mp all r member)

theorem caseRuns_sound : ∀ r ∈ caseRuns, r.sound = true := by
  have all : caseRuns.all CaseRun.sound = true := by decide +kernel
  exact List.all_eq_true.mp all

theorem covers_iff : r.covers n = true ↔
    r.first ≤ n ∧ n ≤ r.last ∧ (n - r.first) % r.stride = 0 := by
  simp [CaseRun.covers, and_assoc]

theorem lower_bounds (covered : r.covers n = true) : r.target ≤ r.lower n ∧ r.lower n ≤ r.top := by
  obtain ⟨above, below, -⟩ := covers_iff.mp covered
  unfold CaseRun.lower CaseRun.top
  omega

theorem lower_sound (member : r ∈ caseRuns) (covered : r.covers n = true) :
    (r.lower n).isValidChar ∧ ']'.toNat < r.lower n ∧ r.lower n ≠ '~'.toNat := by
  obtain ⟨low, high⟩ := lower_bounds covered
  have sound := caseRuns_sound r member
  simp only [CaseRun.sound, Bool.and_eq_true, Bool.or_eq_true, decide_eq_true_eq] at sound
  unfold Nat.isValidChar
  omega

theorem lower_missed (covered : r.covers n = true) (misses : r.misses q = true) :
    q.covers (r.lower n) = false := by
  obtain ⟨low, high⟩ := lower_bounds covered
  obtain ⟨above, below, steps⟩ := covers_iff.mp covered
  simp only [CaseRun.misses, Bool.or_eq_true, Bool.and_eq_true, Nat.blt_eq, beq_iff_eq] at misses
  apply Bool.eq_false_iff.mpr
  intro hit
  obtain ⟨first, last, met⟩ := covers_iff.mp hit
  rcases misses with (before | behind) | ⟨⟨skips, own⟩, odd⟩
  · omega
  · omega
  -- Both go on in steps of two, from code points of which one is even and one is odd.
  · rw [skips] at met
    unfold CaseRun.lower at met first
    rcases own with own | single
    · rw [own] at steps
      omega
    · omega

theorem lowerPoint_cases (n : Nat) :
    lowerPoint n = n ∨ ∃ r ∈ caseRuns, r.covers n = true ∧ lowerPoint n = r.lower n := by
  unfold lowerPoint
  split
  · rename_i r found
    have covered : r.covers n = true := by simpa using List.find?_some found
    exact .inr ⟨r, List.mem_of_find?_eq_some found, covered, rfl⟩
  · exact .inl rfl

theorem lowerPoint_missed (missed : ∀ q ∈ caseRuns, q.covers n = false) : lowerPoint n = n := by
  rcases lowerPoint_cases n with same | ⟨r, member, covered, -⟩
  · exact same
  · have contrary := (missed r member).symm.trans covered
    contradiction

theorem lowerPoint_lowerPoint (n : Nat) : lowerPoint (lowerPoint n) = lowerPoint n := by
  rcases lowerPoint_cases n with same | ⟨r, member, covered, lower⟩
  · simp only [same]
  · simp only [lower]
    exact lowerPoint_missed fun q entry => lower_missed covered (caseRuns_miss r member q entry)

end Points

section Characters
variable {c : Char}

/-- The brackets that are capitals. -/
def capitals : List Char := ['[', ']', '\\', '~']

theorem toNat_lowercase (c : Char) : (lowercase c).toNat = lowerPoint c.toNat := by
  unfold lowercase
  rcases lowerPoint_cases c.toNat with same | ⟨r, member, covered, lower⟩
  · simp only [same, Char.ofNat_toNat]
  · obtain ⟨valid, -⟩ := lower_sound member covered
    rw [lower, Char.ofNat, dif_pos valid]
    rfl

theorem lowercase_lowercase (c : Char) : lowercase (lowercase c) = lowercase c := by
  have again : lowercase (lowercase c) = Char.ofNat (lowerPoint (lowercase c).toNat) := rfl
  simp only [again, toNat_lowercase, lowerPoint_lowerPoint]
  rfl

theorem capital_of_lowercase (there : lowercase c ∈ capitals) : c ∈ capitals := by
  rcases lowerPoint_cases c.toNat with same | ⟨r, member, covered, lower⟩
  · have own : lowercase c = c := by simp only [lowercase, same, Char.ofNat_toNat]
    exact own ▸ there
  · obtain ⟨-, above, other⟩ := lower_sound member covered
    have point := toNat_lowercase c
    have values : '['.toNat = 91 ∧ ']'.toNat = 93 ∧ '\\'.toNat = 92 ∧ '~'.toNat = 126 := by decide
    simp only [capitals, List.mem_cons, List.not_mem_nil, or_false] at there
    rcases there with shown | shown | shown | shown
    all_goals
      rw [shown, lower] at point
      omega

theorem foldChar_plain (plain : c ∉ capitals) : foldChar c = lowercase c := by
  simp only [capitals, List.mem_cons, List.not_mem_nil, or_false, not_or] at plain
  unfold foldChar
  split
  all_goals simp_all

theorem foldChar_foldChar (c : Char) : foldChar (foldChar c) = foldChar c := by
  by_cases bracket : c ∈ capitals
  · simp only [capitals, List.mem_cons, List.not_mem_nil, or_false] at bracket
    rcases bracket with rfl | rfl | rfl | rfl
    all_goals decide +kernel
  · have next : lowercase c ∉ capitals := fun there => bracket (capital_of_lowercase there)
    simp only [foldChar_plain bracket, foldChar_plain next, lowercase_lowercase]

end Characters

section Texts
variable {a b : List Char} {n : Nat}

theorem sameChars_iff : sameChars a b = true ↔ a.map foldChar = b.map foldChar := by
  induction a generalizing b with
  | nil => cases b <;> simp [sameChars]
  | cons x a ih => cases b <;> simp [sameChars, ih]

theorem beginsWith_iff (text start : List Char) : beginsWith text start = true ↔
    (text.take start.length).map foldChar = start.map foldChar := by
  induction start generalizing text with
  | nil => simp [beginsWith]
  | cons b start ih =>
    cases text with
    | nil => simp [beginsWith]
    | cons a text => simp [beginsWith, ih]

theorem beginsWith_folded : beginsWith a b = true ↔ b.map foldChar <+: a.map foldChar := by
  rw [beginsWith_iff, List.prefix_iff_eq_take, List.length_map, List.map_take, eq_comm]

theorem beginsWith_of_begins (begins : b <+: a) : beginsWith a b = true :=
  beginsWith_folded.mpr (begins.map foldChar)

theorem le_sharedChars : n ≤ sharedChars a b ↔
    ∃ start, start.length = n ∧ start <+: a.map foldChar ∧ start <+: b.map foldChar := by
  -- The count stays free, since it goes down together with the texts.
  induction a generalizing b n with
  | nil => simp [sharedChars, List.prefix_nil, eq_comm]
  | cons x a ih =>
    cases b with
    | nil => simp [sharedChars, List.prefix_nil, eq_comm]
    | cons y b =>
      cases n with
      | zero => simp [List.length_eq_zero_iff]
      | succ n =>
        simp only [sharedChars, List.map_cons]
        constructor
        · intro shared
          split at shared
          · rename_i same
            obtain ⟨start, size, left, right⟩ := ih.mp (Nat.le_of_succ_le_succ shared)
            refine ⟨foldChar x :: start, congrArg Nat.succ size, ?_, ?_⟩
            · exact List.cons_prefix_cons.mpr ⟨rfl, left⟩
            · exact List.cons_prefix_cons.mpr ⟨beq_iff_eq.mp same, right⟩
          · omega
        · rintro ⟨_ | ⟨z, start⟩, size, left, right⟩
          · contradiction
          · obtain ⟨first, left⟩ := List.cons_prefix_cons.mp left
            obtain ⟨second, right⟩ := List.cons_prefix_cons.mp right
            have same : (foldChar x == foldChar y) = true := beq_iff_eq.mpr (first.symm.trans second)
            rw [if_pos same]
            exact Nat.succ_le_succ (ih.mpr ⟨start, Nat.succ.inj size, left, right⟩)

theorem sharedChars_le (a b : List Char) : sharedChars a b ≤ b.length := by
  obtain ⟨start, size, -, right⟩ := le_sharedChars.mp (Nat.le_refl (sharedChars a b))
  have short := right.length_le
  rw [List.length_map] at short
  omega

theorem beginsWith_shared : beginsWith a b = true ↔ sharedChars a b = b.length := by
  rw [beginsWith_folded]
  constructor
  · intro begins
    have whole : b.length ≤ sharedChars a b :=
      le_sharedChars.mpr ⟨b.map foldChar, List.length_map _, begins, List.prefix_rfl⟩
    exact Nat.le_antisymm (sharedChars_le a b) whole
  · intro whole
    obtain ⟨start, size, left, right⟩ := le_sharedChars.mp (Nat.le_of_eq whole.symm)
    have same : start = b.map foldChar := right.eq_of_length (size.trans (List.length_map _).symm)
    exact same ▸ left

theorem beginsWith_take (short : n ≤ a.length) :
    beginsWith b (a.take n) = true ↔ n ≤ sharedChars a b := by
  rw [beginsWith_folded, le_sharedChars, List.map_take]
  constructor
  · intro begins
    refine ⟨(a.map foldChar).take n, ?_, List.take_prefix n _, begins⟩
    rw [List.length_take_of_le (by rwa [List.length_map])]
  · rintro ⟨start, rfl, left, right⟩
    rwa [← List.prefix_iff_eq_take.mp left]

theorem sharedChars_congr {c d : List Char} (left : a.map foldChar = c.map foldChar)
    (right : b.map foldChar = d.map foldChar) : sharedChars a b = sharedChars c d := by
  apply eq_of_forall_le_iff
  intro n
  simp only [le_sharedChars, left, right]

theorem sharedChars_comm (a b : List Char) : sharedChars a b = sharedChars b a := by
  apply eq_of_forall_le_iff
  intro n
  simp only [le_sharedChars, and_comm]

end Texts

section Nicks
variable {s t : String}

theorem toList_fold (s : String) : (fold s).toList = s.toList.map foldChar := String.toList_ofList

theorem fold_eq_iff : fold s = fold t ↔ s.toList.map foldChar = t.toList.map foldChar := by
  rw [← toList_fold, ← toList_fold, String.toList_inj]

theorem length_fold (s : String) : (fold s).length = s.length := by
  rw [← String.length_toList, toList_fold, List.length_map, String.length_toList]

theorem fold_fold (s : String) : fold (fold s) = fold s := by
  simp only [fold_eq_iff, toList_fold, List.map_map]
  exact List.map_congr_left fun c _ => foldChar_foldChar c

example : fold "Nick[Away]~İ" = "nick\x7baway\x7d^İ" := by decide +kernel

theorem sameNick_iff : sameNick s t = true ↔ fold s = fold t := by
  rw [fold_eq_iff]
  exact sameChars_iff

theorem nickBegins_iff : nickBegins s t = true ↔ (fold t).toList <+: (fold s).toList := by
  rw [toList_fold, toList_fold]
  exact beginsWith_folded

theorem nickBegins_both : nickBegins s t = true ∧ nickBegins t s = true ↔ fold s = fold t := by
  simp only [nickBegins_iff, ← String.toList_inj]
  constructor
  · rintro ⟨shorter, longer⟩
    exact longer.eq_of_length (Nat.le_antisymm longer.length_le shorter.length_le)
  · intro same
    simp [same]

end Nicks

/-- Two texts are the same nick just if they fold to the same; a text begins with another just if it does so
folded, or if they share as many characters as the other has; what two texts share is the longest common
beginning of the folded texts. Folding keeps the length, and does nothing to a text that is folded. -/
theorem comparisons_agree :
    (∀ s, (fold s).length = s.length ∧ fold (fold s) = fold s) ∧
    (∀ s t, (sameNick s t = true ↔ fold s = fold t) ∧
      (sameNick s t = true ↔ nickBegins s t = true ∧ nickBegins t s = true)) ∧
    (∀ s t, (nickBegins s t = true ↔ (fold t).toList <+: (fold s).toList) ∧
      (nickBegins s t = true ↔ sharedLength s t = t.length)) ∧
    (∀ s t, sharedLength s t = sharedLength t s ∧
      IsGreatest {n | ∃ start : List Char, start.length = n ∧ start <+: (fold s).toList ∧
        start <+: (fold t).toList} (sharedLength s t)) ∧
    Equivalence (fun s t => sameNick s t = true) ∧
    ∀ s s' t t', sameNick s s' = true → sameNick t t' = true →
      nickBegins s t = nickBegins s' t' ∧ sharedLength s t = sharedLength s' t' := by
  refine ⟨?_, ?_, ?_, ?_, ?_, ?_⟩
  · exact fun s => ⟨length_fold s, fold_fold s⟩
  · exact fun s t => ⟨sameNick_iff, sameNick_iff.trans nickBegins_both.symm⟩
  · intro s t
    rw [← String.length_toList]
    exact ⟨nickBegins_iff, beginsWith_shared⟩
  · intro s t
    refine ⟨sharedChars_comm s.toList t.toList, ?_, ?_⟩
    · simp only [toList_fold]
      exact le_sharedChars.mp (Nat.le_refl _)
    · intro n common
      simp only [toList_fold] at common
      exact le_sharedChars.mpr common
  · constructor
    · exact fun s => sameNick_iff.mpr rfl
    · exact fun same => sameNick_iff.mpr (sameNick_iff.mp same).symm
    · exact fun first second => sameNick_iff.mpr ((sameNick_iff.mp first).trans (sameNick_iff.mp second))
  · intro s s' t t' left right
    have left := sameNick_iff.mp left
    have right := sameNick_iff.mp right
    constructor
    · rw [Bool.eq_iff_iff, nickBegins_iff, nickBegins_iff, left, right]
    · exact sharedChars_congr (fold_eq_iff.mp left) (fold_eq_iff.mp right)

theorem comparisons_agree_kelvin :
    let sent := "\u212aarl[Away]"
    let known := "karl\x7bAWAY\x7d"
    sameNick sent known = true ∧ sameNick "KARL[" "karl\x7b" = true ∧
      nickBegins sent "KARL[" = nickBegins known "karl\x7b" ∧
      sharedLength sent "KARL[" = sharedLength known "karl\x7b" := by
  intro sent known
  have same : sameNick sent known = true := by decide +kernel
  have bracket : sameNick "KARL[" "karl\x7b" = true := by decide +kernel
  obtain ⟨-, -, -, -, -, replace⟩ := comparisons_agree
  exact ⟨same, bracket, replace _ _ _ _ same bracket⟩

end ChatDisplay.Text
