import ChatDisplay.Proofs.Markup.Grammar

namespace ChatDisplay
open Text

namespace Scanner

section Places

/-- The run at a place of a text. -/
def cut (s : Scanner) (text : String) (place : Span) : Run :=
  Run.styled (slice text place.start place.stop) (if s.stripped then .plain else place.style) s.palette

/-- The places of a text that become runs. -/
def places (text : String) : List Span :=
  (spans .plain 0 0 text.toUTF8.data.toList).filter fun place =>
    !(slice text place.start place.stop).isEmpty

theorem readText_places (s : Scanner) (text : String) :
    s.readText text = (places text).map (s.cut text) := by
  rw [readText, places, ← List.filterMap_eq_map, List.filterMap_filter]
  congr 1
  funext place
  cases empty : (slice text place.start place.stop).isEmpty with
  | true => simp [run?, empty]
  | false => simp [run?, empty, cut]

theorem slice_nothing (text : String) (place : Nat) : slice text place place = "" := by
  simp [slice, String.Pos.Raw.extract]

theorem spans_within {style : Style} {start i : Nat} {bytes : List UInt8} (begun : start ≤ i) :
    ∀ place ∈ spans style start i bytes, start ≤ place.start ∧ place.start ≤ place.stop := by
  fun_induction spans style start i bytes with
  | case1 style start i =>
    intro place here
    cases List.mem_singleton.mp here
    exact ⟨Nat.le_refl start, begun⟩
  | case2 style start i b rest control code used _ ih =>
    intro place here
    rcases List.mem_cons.mp here with rfl | later
    · exact ⟨Nat.le_refl start, begun⟩
    · have := ih (Nat.le_refl _) place later
      omega
  | case3 style start i b rest control ih => exact ih (by omega)

/-- Between one place and the next there is at least the byte of a control. -/
theorem spans_apart {style : Style} {start i : Nat} {bytes : List UInt8} (begun : start ≤ i) :
    (spans style start i bytes).Pairwise fun a b => a.stop < b.start := by
  fun_induction spans style start i bytes with
  | case1 => exact List.pairwise_singleton ..
  | case2 style start i b rest control code used _ ih =>
    refine List.pairwise_cons.mpr ⟨?_, ih (Nat.le_refl _)⟩
    intro place later
    have := (spans_within (Nat.le_refl _) place later).1
    show i < place.start
    omega
  | case3 style start i b rest control ih => exact ih (by omega)

theorem places_apart (text : String) : (places text).Pairwise fun a b => a.stop < b.start :=
  (spans_apart (Nat.le_refl 0)).filter _

theorem places_some (text : String) : ∀ place ∈ places text, place.start < place.stop := by
  intro place here
  obtain ⟨found, some⟩ := List.mem_filter.mp here
  have upward := (spans_within (Nat.le_refl 0) place found).2
  refine Nat.lt_of_le_of_ne upward fun same => ?_
  rw [same, slice_nothing] at some
  contradiction

end Places

end Scanner

namespace Item

section Visible

def shown (items : List Item) : List (List Control × List Char) :=
  (spans [] [] items).filter fun span => !span.2.isEmpty

def visibleChars : List Item → List Char
  | [] => []
  | .visible c :: items => c :: visibleChars items
  | .control _ :: items => visibleChars items

def controls : List Item → List Control
  | [] => []
  | .visible _ :: items => controls items
  | .control k :: items => k :: controls items

theorem flatMap_spans (controls : List Control) (visible : List Char) (items : List Item) :
    ((spans controls visible items).filter fun span => !span.2.isEmpty).flatMap (·.2) =
      visible ++ visibleChars items := by
  induction items generalizing controls visible with
  | nil => cases visible <;> simp [spans, visibleChars]
  | cons item items ih =>
    cases item with
    | visible c => simp [spans, visibleChars, ih]
    | control k => cases visible <;> simp [spans, visibleChars, ih]

theorem flatMap_shown (items : List Item) : (shown items).flatMap (·.2) = visibleChars items :=
  flatMap_spans [] [] items

theorem visibleChars_visible (cs : List Char) :
    ∀ c ∈ visibleChars (ofChars cs), isControl c = false := by
  fun_induction ofChars cs with
  | case1 => exact fun _ none => absurd none List.not_mem_nil
  | case2 c cs control k ih => exact ih
  | case3 c cs control ih =>
    intro d there
    rcases List.mem_cons.mp there with rfl | later
    · simpa using control
    · exact ih d later

theorem visibleChars_sublist (cs : List Char) : List.Sublist (visibleChars (ofChars cs)) cs := by
  fun_induction ofChars cs with
  | case1 => exact .slnil
  | case2 c cs control k ih => exact (ih.trans (List.drop_sublist _ _)).cons c
  | case3 c cs control ih => exact ih.cons_cons c

theorem visibleChars_plain {cs : List Char} (plain : ∀ c ∈ cs, isControl c = false) :
    visibleChars (ofChars cs) = cs := by
  induction cs with
  | nil => rw [ofChars, visibleChars]
  | cons c cs ih =>
    have first := plain c List.mem_cons_self
    rw [ofChars, if_neg (by simp [first]), visibleChars,
      ih fun d later => plain d (List.mem_cons_of_mem c later)]

end Visible

end Item

namespace Text

/-- The controls of a text can be looked for among its bytes. -/
theorem hasControl_eq (text : String) : hasControl text = text.toList.any isControl := by
  rw [hasControl, toUTF8_bytes, bytes, List.any_flatMap]
  congr 1
  funext c
  cases control : isControl c with
  | true =>
    have ascii := control_ascii control
    rw [encode_ascii ascii, List.any_cons, isControlByte_ascii ascii, control, Bool.true_or]
  | false =>
    rw [List.any_eq_false]
    intro b hb
    rw [visible_bytes control b hb]
    exact Bool.false_ne_true

theorem hasControl_iff {text : String} :
    hasControl text = false ↔ ∀ c ∈ text.toList, isControl c = false := by
  simp [hasControl_eq]

theorem utf8Len_sublist {cs ds : List Char} (within : List.Sublist cs ds) :
    String.utf8Len cs + ds.length ≤ String.utf8Len ds + cs.length := by
  induction within with
  | slnil => exact Nat.le_refl _
  | cons d _ ih =>
    have := d.utf8Size_pos
    simp only [String.utf8Len_cons, List.length_cons]
    omega
  | cons_cons d _ ih =>
    simp only [String.utf8Len_cons, List.length_cons]
    omega

end Text

theorem Fallback.decode_utf8 (fallback : Fallback) (text : String) :
    fallback.decode text.toUTF8 = text := by
  have valid : String.fromUTF8? text.toUTF8 = some text := by
    rw [String.fromUTF8?, String.toUTF8_eq_toByteArray, dif_pos text.isValidUTF8]
    rfl
  rw [decode, valid]

namespace Scanner

def runOf (s : Scanner) (span : List Control × List Char) : Run :=
  Run.styled (String.ofList span.2) (if s.stripped then .plain else Item.styleAfter span.1) s.palette

theorem readText_shown (s : Scanner) (text : String) :
    s.readText text = (Item.shown (Item.ofChars text.toList)).map s.runOf := by
  rw [readText_eq, Item.shown, List.filterMap_map, ← List.filterMap_eq_map, List.filterMap_filter]
  congr 1
  funext ⟨controls, visible⟩
  cases visible with
  | nil => rfl
  | cons c cs => simp [runOf?, runOf, Item.styled]

theorem visibleText_eq (s : Scanner) (raw : ByteArray) :
    (s.visibleText raw).toList = Item.visibleChars (Item.ofChars (s.fallback.decode raw).toList) := by
  rw [visibleText, String.toList_join, read, readText_shown, ← Item.flatMap_shown, List.map_map,
    List.flatMap_map]
  simp [runOf, Run.styled]

theorem visibleText_utf8 (s : Scanner) (text : String) :
    (s.visibleText text.toUTF8).toList = Item.visibleChars (Item.ofChars text.toList) := by
  rw [visibleText_eq, Fallback.decode_utf8]

theorem visibleText_visible (s : Scanner) (raw : ByteArray) :
    hasControl (s.visibleText raw) = false := by
  rw [Text.hasControl_iff, visibleText_eq]
  exact Item.visibleChars_visible _

theorem visibleText_plain (s : Scanner) {text : String} (plain : hasControl text = false) :
    s.visibleText text.toUTF8 = text := by
  rw [← String.toList_inj, visibleText_utf8]
  exact Item.visibleChars_plain (Text.hasControl_iff.mp plain)

theorem visibleText_shorter (s : Scanner) {text : String} (coded : hasControl text = true) :
    (s.visibleText text.toUTF8).length < text.length := by
  have within := Item.visibleChars_sublist text.toList
  rw [← visibleText_utf8 s] at within
  rw [← String.length_toList, ← String.length_toList]
  refine Nat.lt_of_le_of_ne within.length_le fun same => ?_
  -- Of the same length it would be the same text, and it has no control.
  have whole : s.visibleText text.toUTF8 = text := String.toList_inj.mp (within.eq_of_length same)
  have plain := s.visibleText_visible text.toUTF8
  rw [whole, coded] at plain
  contradiction

/-- Two scanners with the same fallback take their runs from the same places of the text, one after the
other and none of them empty. A scanner that does not keep the styles makes every run plain, in the look
that its palette has for that. -/
theorem stripping_keeps_places (fallback : Fallback) (p q : Palette) (strip other : Bool)
    (raw : ByteArray) :
    let s : Scanner := ⟨p, fallback, strip⟩
    let t : Scanner := ⟨q, fallback, other⟩
    (∃ places : List Span, (places.Pairwise fun a b => a.stop < b.start) ∧
      (∀ place ∈ places, place.start < place.stop) ∧
      s.read raw = places.map (s.cut (fallback.decode raw)) ∧
      t.read raw = places.map (t.cut (fallback.decode raw))) ∧
    (s.read raw).map Run.text = (t.read raw).map Run.text ∧
    (strip = other → (s.read raw).map Run.style = (t.read raw).map Run.style) ∧
    (strip = true →
      ∀ run ∈ s.read raw, run.style = .plain ∧ run.appearance = Style.plain.resolve p) ∧
    s.visibleText raw = String.join ((s.read raw).map Run.text) ∧
    t.visibleText raw = String.join ((s.read raw).map Run.text) := by
  intro s t
  have found : ∀ u : Scanner, u.fallback = fallback →
      u.read raw = (places (fallback.decode raw)).map (u.cut (fallback.decode raw)) := by
    rintro u rfl
    exact u.readText_places _
  have texts : ∀ u : Scanner, u.fallback = fallback → (u.read raw).map Run.text =
      (places (fallback.decode raw)).map fun place =>
        slice (fallback.decode raw) place.start place.stop := by
    intro u same
    rw [found u same, List.map_map]
    rfl
  refine ⟨⟨places (fallback.decode raw), places_apart _, places_some _, found s rfl, found t rfl⟩,
    ?_, ?_, ?_, ?_, ?_⟩
  · rw [texts s rfl, texts t rfl]
  · rintro rfl
    rw [found s rfl, found t rfl, List.map_map, List.map_map]
    rfl
  · rintro rfl run there
    rw [found s rfl] at there
    obtain ⟨place, -, rfl⟩ := List.mem_map.mp there
    exact ⟨rfl, rfl⟩
  · rw [visibleText, texts s rfl, texts _ rfl]
  · rw [visibleText, texts s rfl, texts _ rfl]

/-- Taking the codes away leaves no control, so there is nothing to take away a second time. A text stays as
it is just if it has no control; if it has one it becomes shorter, in characters and in bytes, and what is
left is in the order in which it was. -/
theorem stripping_takes_controls (s t : Scanner) (raw : ByteArray) (text : String) :
    (hasControl (s.visibleText raw) = false ∧
      t.visibleText (s.visibleText raw).toUTF8 = s.visibleText raw) ∧
    (t.visibleText text.toUTF8 = text ↔ hasControl text = false) ∧
    (hasControl text = true →
      (t.visibleText text.toUTF8).length < text.length ∧
      (t.visibleText text.toUTF8).utf8ByteSize < text.utf8ByteSize ∧
      List.Sublist (t.visibleText text.toUTF8).toList text.toList) ∧
    hasControl text = text.toList.any isControl := by
  refine ⟨⟨?_, ?_⟩, ⟨?_, ?_⟩, ?_, ?_⟩
  · exact s.visibleText_visible raw
  · exact t.visibleText_plain (s.visibleText_visible raw)
  · intro whole
    rw [← whole]
    exact t.visibleText_visible _
  · exact t.visibleText_plain
  · intro coded
    have shorter := t.visibleText_shorter coded
    have within := Item.visibleChars_sublist text.toList
    rw [← visibleText_utf8 t] at within
    refine ⟨shorter, ?_, within⟩
    have sizes := Text.utf8Len_sublist within
    rw [String.utf8Len_toList, String.utf8Len_toList, String.length_toList,
      String.length_toList] at sizes
    omega
  · exact Text.hasControl_eq text

end Scanner

end ChatDisplay
