import ChatDisplay.Proofs.Conversation.Store
import Mathlib.Data.List.DropRight

namespace ChatDisplay

section Documents

/-- What can be done to a document. -/
inductive Document.Edit where
  | added (runs : List Run)
  | cleared
  | marked

namespace Document
variable {d : Document} {edits : List Edit}

def after (d : Document) : Edit → Document
  | .added runs => d.append runs
  | .cleared => d.clear
  | .marked => d.setMarker

/-- A new document after some edits. -/
def of (edits : List Edit) : Document := edits.foldl after {}

/-- The runs of a document before this are no longer in it. -/
def Edit.clears : Edit → Bool
  | .cleared => true
  | _ => false

/-- The runs of a document before this are not behind its marker. -/
def Edit.marks : Edit → Bool
  | .added _ => false
  | _ => true

def Edit.runs : Edit → List Run
  | .added runs => runs
  | _ => []

/-- All that was added after the last edit that stops. -/
def addedSince (stops : Edit → Bool) (edits : List Edit) : List Run :=
  (edits.rtakeWhile fun e => !stops e).flatMap Edit.runs

theorem addedSince_concat (stops : Edit → Bool) (edits : List Edit) (e : Edit) :
    addedSince stops (edits ++ [e]) =
      if stops e then [] else addedSince stops edits ++ e.runs := by
  unfold addedSince
  rw [List.rtakeWhile_concat]
  cases stops e <;> simp

/-- The document is what the edits make of a new one. -/
structure Follows (d : Document) (edits : List Edit) : Prop where
  runs : d.runs = addedSince Edit.clears edits
  behind : d.afterMarker = addedSince Edit.marks edits
  within : d.marker ≤ d.size

theorem Follows.after (follows : d.Follows edits) (e : Edit) :
    (d.after e).Follows (edits ++ [e]) := by
  obtain ⟨runs, behind, within⟩ := follows
  cases e with
  | added more =>
    constructor
    · simp [Document.after, append, runs, addedSince_concat, Edit.clears, Edit.runs]
    · simp only [addedSince_concat, Edit.marks, Edit.runs, ← behind]
      exact List.drop_append_of_le_length within
    · simp only [Document.after, append, size, List.length_append]
      exact Nat.le_add_right_of_le within
  | cleared =>
    constructor
    · simp [Document.after, clear, addedSince_concat, Edit.clears]
    · simp [Document.after, clear, afterMarker, addedSince_concat, Edit.marks]
    · exact Nat.le_refl 0
  | marked =>
    constructor
    · simp [Document.after, setMarker, runs, addedSince_concat, Edit.clears, Edit.runs]
    · simp [Document.after, setMarker, afterMarker, addedSince_concat, Edit.marks]
    · exact Nat.le_refl _

theorem of_concat (edits : List Edit) (e : Edit) : of (edits ++ [e]) = (of edits).after e := by
  simp only [of, List.foldl_concat]

theorem follows_of (edits : List Edit) : (of edits).Follows edits := by
  induction edits using List.reverseRecOn with
  | nil => exact ⟨rfl, rfl, Nat.le_refl 0⟩
  | append_singleton edits e ih =>
    rw [of_concat]
    exact ih.after e

end Document

end Documents

section Stores

/-- What can be done to a store under an id. -/
inductive Store.Change where
  | opened (kind : ConversationKind) (name : String)
  | closed
  | appended (runs : List Run)
  | cleared
  | topic (words : String)
  | marked
  | draft (text : String)
  | attached
  | roster (f : Roster → Roster)

namespace Store
variable {s : Store} {id k : ConversationId}

def after (s : Store) (id : ConversationId) : Change → Store
  | .opened kind name => (s.add id kind name).2
  | .closed => (s.remove id).2
  | .appended runs => (s.append id runs).2
  | .cleared => s.clear id
  | .topic words => s.setTopic id words
  | .marked => s.setMarker id
  | .draft text => s.setDraft id text
  | .attached => s.attach id
  | .roster f => s.modifyRoster id f

/-- A new store after some changes, each under an id. -/
def of (changes : List (ConversationId × Change)) : Store :=
  changes.foldl (fun s change => s.after change.1 change.2) {}

/-- What is under the id where no conversation was open. -/
def Change.start (id : ConversationId) : Change → Option Conversation
  | .opened kind name => some { id := id, kind := kind, name := name }
  | _ => none

/-- What is left of an open conversation, with the one thing about it that the change is for. -/
def Change.effect (c : Conversation) : Change → Option Conversation
  | .opened _ _ => some c
  | .closed => none
  | .appended runs => some { c with document := ⟨c.document.runs ++ runs, c.document.marker⟩ }
  | .cleared => some { c with document := ⟨[], 0⟩ }
  | .topic words => some { c with topic := words }
  | .marked => some { c with document := ⟨c.document.runs, c.document.runs.length⟩ }
  | .draft text => some { c with draft := text }
  | .attached => some { c with attached := true }
  | .roster f => some { c with roster := f c.roster }

/-- What a change leaves under its id. -/
def Change.result (id : ConversationId) (change : Change) : Option Conversation → Option Conversation
  | some c => change.effect c
  | none => change.start id

/-- Apart from opening and closing, a change is made to the conversation where it is. -/
theorem after_cases (s : Store) (id : ConversationId) (change : Change) :
    (∃ kind name, change = .opened kind name) ∨ change = .closed ∨
      ∃ f : Conversation → Conversation, s.after id change = s.modify id f ∧
        (∀ c, change.effect c = some (f c)) ∧ change.start id = none := by
  cases change with
  | opened kind name => exact .inl ⟨kind, name, rfl⟩
  | closed => exact .inr (.inl rfl)
  | appended runs =>
    exact .inr (.inr ⟨_, congrArg Prod.snd (s.append_eq id runs), fun _ => rfl, rfl⟩)
  | cleared => exact .inr (.inr ⟨_, rfl, fun _ => rfl, rfl⟩)
  | topic words => exact .inr (.inr ⟨_, rfl, fun _ => rfl, rfl⟩)
  | marked => exact .inr (.inr ⟨_, rfl, fun _ => rfl, rfl⟩)
  | draft text => exact .inr (.inr ⟨_, rfl, fun _ => rfl, rfl⟩)
  | attached => exact .inr (.inr ⟨_, rfl, fun _ => rfl, rfl⟩)
  | roster f => exact .inr (.inr ⟨_, rfl, fun _ => rfl, rfl⟩)

theorem Distinct.after (distinct : s.Distinct) (id : ConversationId) (change : Change) :
    (s.after id change).Distinct := by
  rcases s.after_cases id change with ⟨kind, name, rfl⟩ | rfl | ⟨f, same, -⟩
  · exact distinct.add
  · exact distinct.remove
  · rw [same]
    exact distinct.modify id f

theorem of_concat (changes : List (ConversationId × Change)) (id : ConversationId)
    (change : Change) : of (changes ++ [(id, change)]) = (of changes).after id change := by
  simp only [of, List.foldl_concat]

theorem distinct_of (changes : List (ConversationId × Change)) : (of changes).Distinct := by
  induction changes using List.reverseRecOn with
  | nil => exact List.nodup_nil
  | append_singleton changes last ih =>
    obtain ⟨id, change⟩ := last
    rw [of_concat]
    exact ih.after id change

theorem get?_after_other (other : k ≠ id) (change : Change) :
    (s.after id change).get? k = s.get? k := by
  rcases s.after_cases id change with ⟨kind, name, rfl⟩ | rfl | ⟨f, same, -⟩
  · cases found : s.get? id with
    | some c => rw [after, add_open found]
    | none => rw [after, get?_add found, if_neg other]
  · exact get?_remove_other other
  · rw [same, get?_modify, if_neg other]

theorem get?_after (distinct : s.Distinct) (id : ConversationId) (change : Change) :
    (s.after id change).get? id = change.result id (s.get? id) := by
  rcases s.after_cases id change with ⟨kind, name, rfl⟩ | rfl | ⟨f, same, effect, start⟩
  · cases found : s.get? id with
    | some c =>
      rw [after, add_open found]
      exact found
    | none =>
      rw [after, get?_add found, if_pos rfl]
      rfl
  · rw [after, get?_remove distinct]
    cases s.get? id <;> rfl
  · rw [same, get?_modify, if_pos rfl]
    cases s.get? id with
    | some c => exact (effect c).symm
    | none => exact start.symm

theorem after_unknown (closed : s.get? id = none) {change : Change}
    (started : change.start id = none) : s.after id change = s := by
  rcases s.after_cases id change with ⟨kind, name, rfl⟩ | rfl | ⟨f, same, -⟩
  · cases started
  · rw [after, remove_closed closed]
  · rw [same]
    exact modify_closed closed

theorem effect_document {c d : Conversation} {change : Change} (left : change.effect c = some d) :
    d.document = c.document ∨ ∃ e, d.document = c.document.after e := by
  cases change with
  | appended runs =>
    cases left
    exact .inr ⟨.added runs, rfl⟩
  | cleared =>
    cases left
    exact .inr ⟨.cleared, rfl⟩
  | marked =>
    cases left
    exact .inr ⟨.marked, rfl⟩
  | closed => cases left
  | _ =>
    cases left
    exact .inl rfl

theorem document_of (changes : List (ConversationId × Change)) {c : Conversation}
    (isOpen : (of changes).get? k = some c) : ∃ edits, c.document = Document.of edits := by
  induction changes using List.reverseRecOn generalizing c with
  | nil => cases isOpen
  | append_singleton changes last ih =>
    obtain ⟨id, change⟩ := last
    rw [of_concat] at isOpen
    by_cases same : k = id
    · subst same
      rw [get?_after (distinct_of changes)] at isOpen
      cases found : (of changes).get? k with
      | some b =>
        rw [found] at isOpen
        obtain ⟨edits, before⟩ := ih found
        rcases effect_document isOpen with kept | ⟨e, edited⟩
        · exact ⟨edits, kept.trans before⟩
        · exact ⟨edits ++ [e], by rw [edited, before, Document.of_concat]⟩
      -- An id that was closed comes back with a new document, whatever it had before.
      | none =>
        rw [found] at isOpen
        cases change <;> cases isOpen
        exact ⟨[], rfl⟩
    · rw [get?_after_other same] at isOpen
      exact ih isOpen

end Store

end Stores

/-- A document holds what was added since it was last cleared, and behind its marker what was added since
the marker was last placed or the document cleared. A change under an id leaves all other conversations,
and all else about its own, as they are; it changes nothing if the conversation is not open or is to be
opened a second time. -/
theorem documents_follow_history :
    (∀ edits, (Document.of edits).Follows edits) ∧
    ∀ changes : List (ConversationId × Store.Change),
      let s := Store.of changes
      (∀ id c, s.get? id = some c → ∃ edits, c.document = Document.of edits) ∧
      (∀ id runs, (s.append id runs).1 = (s.get? id).map (fun _ => runs) ∧
        (s.append id runs).2.runs? id = (s.runs? id).map (· ++ runs)) ∧
      ∀ id change, (s.after id change).get? id = change.result id (s.get? id) ∧
        (∀ k, k ≠ id → (s.after id change).get? k = s.get? k) ∧
        (s.get? id = none → change.start id = none → s.after id change = s) ∧
        ∀ kind name, s.get? id ≠ none → s.after id (.opened kind name) = s := by
  refine ⟨Document.follows_of, ?_⟩
  intro changes s
  have distinct : s.Distinct := Store.distinct_of changes
  refine ⟨fun id c => Store.document_of changes, ?_, ?_⟩
  · intro id runs
    refine ⟨congrArg Prod.fst (s.append_eq id runs), ?_⟩
    have left : (s.append id runs).2.get? id = _ := Store.get?_after distinct id (.appended runs)
    rw [Store.runs?, Store.runs?, left]
    cases s.get? id <;> rfl
  · intro id change
    refine ⟨Store.get?_after distinct id change, ?_, ?_, ?_⟩
    · exact fun k other => Store.get?_after_other other change
    · exact fun closed => Store.after_unknown closed
    · intro kind name isOpen
      obtain ⟨c, found⟩ := Option.ne_none_iff_exists'.mp isOpen
      exact congrArg Prod.snd (Store.add_open found)

theorem documents_follow_history_two :
    let s := Store.of [(⟨1⟩, .opened .channel "#a"), (⟨2⟩, .opened .query "bob"),
      (⟨1⟩, .appended [.plain "old"]), (⟨1⟩, .marked)]
    s.get? ⟨3⟩ = none ∧ s.after ⟨3⟩ (.topic "late") = s ∧
      s.get? ⟨2⟩ ≠ none ∧ s.after ⟨2⟩ (.opened .query "eve") = s ∧
      (s.append ⟨1⟩ [.plain "new"]).1 = some [.plain "new"] ∧
      (s.append ⟨1⟩ [.plain "new"]).2.runs? ⟨1⟩ = some [.plain "old", .plain "new"] ∧
      (s.after ⟨1⟩ (.appended [.plain "new"])).get? ⟨2⟩ = s.get? ⟨2⟩ := by
  intro s
  obtain ⟨-, stores⟩ := documents_follow_history
  obtain ⟨-, appended, changed⟩ := stores [(⟨1⟩, .opened .channel "#a"), (⟨2⟩, .opened .query "bob"),
    (⟨1⟩, .appended [.plain "old"]), (⟨1⟩, .marked)]
  have unknown : s.get? ⟨3⟩ = none := rfl
  have known : s.get? ⟨2⟩ ≠ none := (Option.some_ne_none _)
  obtain ⟨-, -, idle, -⟩ := changed ⟨3⟩ (.topic "late")
  obtain ⟨-, -, -, again⟩ := changed ⟨2⟩ .marked
  obtain ⟨-, others, -⟩ := changed ⟨1⟩ (.appended [.plain "new"])
  have more := appended ⟨1⟩ [.plain "new"]
  exact ⟨unknown, idle unknown rfl, known, again .query "eve" known, more.1, more.2,
    others ⟨2⟩ (by decide)⟩

end ChatDisplay
