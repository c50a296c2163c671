import ChatDisplay.Proofs.Markup.Visible
import Mathlib.Algebra.Ring.Parity
import Mathlib.Data.List.DropRight
import Mathlib.Data.List.Forall2

namespace ChatDisplay

namespace Control

def reset : Char := '\x0f'

def isColor (k : Control) : Bool := k.char == color

def isBare (k : Control) : Bool := k.isColor && k.foreground?.isNone

/-- A color control that does not leave the background as it is. -/
def setsBackground (k : Control) : Bool := k.isColor && (k.isBare || k.background?.isSome)

theorem apply_reset {k : Control} (resets : k.char = reset) (s : Style) : k.apply s = {} := by
  obtain ⟨c, argument⟩ := k
  cases resets
  rfl

theorem apply_going {k : Control} (going : k.char ≠ reset) (s : Style) : k.apply s =
    { fg := if k.isColor then k.foreground?.map colorIndex else s.fg
      bg := if k.setsBackground then
          (if k.isBare then none else k.background?).map colorIndex
        else s.bg
      bold := s.bold ^^ k.char == '\x02'
      italic := s.italic ^^ k.char == '\x1d'
      underline := s.underline ^^ k.char == '\x1f'
      strikethrough := s.strikethrough ^^ k.char == '\x1e'
      reverse := s.reverse ^^ k.char == '\x16' } := by
  by_cases colored : k.char = color
  · have bare : k.isBare = k.foreground?.isNone := by simp [isBare, isColor, colored]
    simp only [apply, setsBackground, isColor, colored, bare]
    cases k.foreground? with
    | none => simp [color]
    | some fg =>
      cases k.background? with
      | none => simp [color]
      | some bg => simp [color]
  · have other : k.isColor = false := by simp [isColor, colored]
    have off {c : Char} (h : k.char ≠ c) : (k.char == c) = false := beq_eq_false_iff_ne.mpr h
    simp only [setsBackground, other]
    unfold apply
    -- neither a reset nor a color: one of the five flags turns, or nothing does
    split
    case h_6 h => exact absurd h going
    case h_7 h => exact absurd h colored
    case h_8 h2 h1d h1f h1e h16 _ _ => simp [off h2, off h1d, off h1f, off h1e, off h16]
    all_goals
      rename_i h
      simp [h]

end Control

/-- A style is what these controls make of plain text, if none of them is a reset. -/
structure Style.SumsUp (style : Style) (controls : List Control) : Prop where
  bold : style.bold = true ↔ Odd (controls.countP (·.char == '\x02'))
  italic : style.italic = true ↔ Odd (controls.countP (·.char == '\x1d'))
  underline : style.underline = true ↔ Odd (controls.countP (·.char == '\x1f'))
  strikethrough : style.strikethrough = true ↔ Odd (controls.countP (·.char == '\x1e'))
  reverse : style.reverse = true ↔ Odd (controls.countP (·.char == '\x16'))
  fg : style.fg =
    ((controls.filter Control.isColor).getLast?.bind Control.foreground?).map Control.colorIndex
  bg : style.bg = ((controls.filter Control.setsBackground).getLast?.bind fun k =>
    if k.isBare then none else k.background?).map Control.colorIndex

namespace Item

/-- The controls after the last reset. -/
def sinceReset (controls : List Control) : List Control :=
  controls.rtakeWhile fun k => k.char != Control.reset

theorem odd_concat {flag : Bool} {controls : List Control} {p : Control → Bool} (k : Control)
    (odd : flag = true ↔ Odd (controls.countP p)) :
    (flag ^^ p k) = true ↔ Odd ((controls ++ [k]).countP p) := by
  rw [List.countP_append, List.countP_singleton]
  cases p k with
  | true => simp [Nat.odd_add_one, ← odd]
  | false => simp [odd]

theorem getLast?_filter_concat (controls : List Control) (p : Control → Bool) (k : Control) :
    ((controls ++ [k]).filter p).getLast? =
      if p k then some k else (controls.filter p).getLast? := by
  rw [List.filter_append, List.getLast?_append]
  cases h : p k with
  | true => simp [h]
  | false => simp [h]

theorem sumsUp_plain : Style.SumsUp {} [] := by
  constructor <;> simp

theorem sumsUp_going {k : Control} {style : Style} {controls : List Control}
    (going : k.char ≠ Control.reset) (sums : style.SumsUp controls) :
    (k.apply style).SumsUp (controls ++ [k]) := by
  rw [Control.apply_going going]
  constructor
  · exact odd_concat k sums.bold
  · exact odd_concat k sums.italic
  · exact odd_concat k sums.underline
  · exact odd_concat k sums.strikethrough
  · exact odd_concat k sums.reverse
  · rw [getLast?_filter_concat]
    cases colors : k.isColor with
    | true => rfl
    | false => exact sums.fg
  · rw [getLast?_filter_concat]
    cases sets : k.setsBackground with
    | true => rfl
    | false => exact sums.bg

theorem styleAfter_sumsUp (controls : List Control) :
    (styleAfter controls).SumsUp (sinceReset controls) := by
  induction controls using List.reverseRecOn with
  | nil => exact sumsUp_plain
  | append_singleton controls k ih =>
    rw [styleAfter_concat, sinceReset, List.rtakeWhile_concat]
    split
    · rename_i going
      exact sumsUp_going (by simpa using going) ih
    · rename_i resets
      rw [Control.apply_reset (by simpa using resets)]
      exact sumsUp_plain

theorem controls_append (items more : List Item) :
    controls (items ++ more) = controls items ++ controls more := by
  induction items with
  | nil => rfl
  | cons item items ih =>
    cases item with
    | visible c => exact ih
    | control k => simp only [List.cons_append, controls, ih]

theorem controls_visible (cs : List Char) : controls (cs.map .visible) = [] := by
  induction cs with
  | nil => rfl
  | cons c cs ih => exact ih

/-- Each span is a piece of the message, and its controls are all that come before it. -/
theorem spans_split (passed : List Item) (visible : List Char) (items : List Item) :
    ∀ span ∈ spans (controls passed) visible items, ∃ before after,
      passed ++ visible.map .visible ++ items = before ++ span.2.map .visible ++ after ∧
        span.1 = controls before := by
  induction items generalizing passed visible with
  | nil =>
    intro span here
    cases List.mem_singleton.mp here
    exact ⟨passed, [], rfl, rfl⟩
  | cons item items ih =>
    cases item with
    | visible c =>
      intro span here
      obtain ⟨before, after, split, same⟩ := ih passed (visible ++ [c]) span here
      exact ⟨before, after, by simpa using split, same⟩
    | control k =>
      intro span here
      rcases List.mem_cons.mp here with rfl | later
      · exact ⟨passed, .control k :: items, rfl, rfl⟩
      · have next : controls passed ++ [k] =
            controls (passed ++ visible.map .visible ++ [.control k]) := by
          simp [controls_append, controls_visible, controls]
        rw [next] at later
        obtain ⟨before, after, split, same⟩ := ih _ [] span later
        exact ⟨before, after, by simpa using split, same⟩

theorem shown_split (items : List Item) : ∀ span ∈ shown items, ∃ before after,
    items = before ++ span.2.map .visible ++ after ∧ span.1 = controls before := by
  intro span here
  exact spans_split [] [] items span (List.mem_filter.mp here).1

end Item

/-- Let a scanner keep the styles. Its runs are the spans of the message with at least one character, in
order. Each is where it is in the message, and its style is what the controls before it add up to, of which
only those after the last reset count. -/
theorem Scanner.styles_sum_up (palette : Palette) (fallback : Fallback) (raw : ByteArray) :
    let items := Item.ofChars (fallback.decode raw).toList
    List.Forall₂ (fun run span => run.text = String.ofList span.2 ∧
        (∃ before after, items = before ++ span.2.map .visible ++ after ∧
          span.1 = Item.controls before) ∧
        run.style.SumsUp (Item.sinceReset span.1))
      (Scanner.read { palette := palette, fallback := fallback, stripped := false } raw)
      (Item.shown items) := by
  intro items
  rw [read, readText_shown, List.forall₂_map_left_iff, List.forall₂_same]
  intro span here
  exact ⟨rfl, Item.shown_split items span here, Item.styleAfter_sumsUp span.1⟩

/-- A code with one number leaves the background as it is. -/
example : (Scanner.standard.read "\x034,5a\x037b\x03c".toUTF8).map (fun run => run.style.bg) =
    [some 5, some 5, none] := by decide +kernel

end ChatDisplay
