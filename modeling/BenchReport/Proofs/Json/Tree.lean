import BenchReport.Proofs.Json.Numeral
import BenchReport.Proofs.Json.Spelling

/-!
# Values as they are written

A value as it is written is a tree that keeps what the text has: the blanks, the pieces of its
strings and the digits of its numbers (`Tree`). Its text is the text of its parts in order. Nothing
is asked of it beyond the grammar: strings need not spell a text, numbers need not be within bounds,
and the members of an object may have one key several times, or keys that spell no text.
-/

namespace BenchReport.Json

open Decimal (isDigit)

/-- The words among the values. -/
inductive Word where
  | null
  | yes
  | no

/-- The letters of a word. -/
def Word.text : Word → List Char
  | null => "null".toList
  | yes => "true".toList
  | no => "false".toList

/-- An element of a list with the blanks around it. -/
structure Item (α : Type) where
  /-- The blanks before the element. -/
  before : Blanks
  /-- The element. -/
  value : α
  /-- The blanks after the element. -/
  after : Blanks

/-- A member of an object with the blanks in it and around it. -/
structure Member (α : Type) where
  /-- The blanks before the key. -/
  before : Blanks
  /-- The key. -/
  key : List Piece
  /-- The blanks between the key and the colon. -/
  afterKey : Blanks
  /-- The blanks between the colon and the value. -/
  beforeValue : Blanks
  /-- The value. -/
  value : α
  /-- The blanks after the value. -/
  after : Blanks

/-- The text of the key of a member, with the colon. -/
def Member.lead {α : Type} (m : Member α) : List Char :=
  m.before.chars ++ (stringText m.key ++ (m.afterKey.chars ++ [':']))

theorem Member.lead_append {α : Type} (m : Member α) (s : List Char) :
    m.lead ++ s
      = m.before.chars ++ '"' :: (Piece.texts m.key ++ '"' :: (m.afterKey.chars ++ ':' :: s)) := by
  simp only [lead, stringText, List.append_assoc, List.cons_append, List.nil_append]

/-- A value as it is written. -/
inductive Tree where
  | word (w : Word)
  | number (n : WrittenNumber)
  | string (ps : List Piece)
  /-- A list and the blanks before its closing bracket. -/
  | list (items : List (Item Tree)) (close : Blanks)
  /-- An object and the blanks before its closing bracket. -/
  | object (members : List (Member Tree)) (close : Blanks)

/-! ### The text of a container -/

/-- What follows a part of a container: the other parts, each after a comma, the closing bracket
after blanks, and a text. -/
def afterPart (bracket : Char) (close : Blanks) (rest : List Char) : List (List Char) → List Char
  | [] => close.chars ++ bracket :: rest
  | part :: parts => ',' :: (part ++ afterPart bracket close rest parts)

/-- What follows the opening bracket of a container: its parts with commas between them, the closing
bracket after blanks, and a text. -/
def afterOpening (bracket : Char) (close : Blanks) (rest : List Char) :
    List (List Char) → List Char
  | [] => close.chars ++ bracket :: rest
  | part :: parts => part ++ afterPart bracket close rest parts

theorem afterPart_append (bracket : Char) (close : Blanks) (rest s : List Char)
    (parts : List (List Char)) :
    afterPart bracket close rest parts ++ s = afterPart bracket close (rest ++ s) parts := by
  induction parts with
  | nil => rw [afterPart, afterPart, List.append_assoc, List.cons_append]
  | cons part parts ih => rw [afterPart, afterPart, List.cons_append, List.append_assoc, ih]

theorem afterOpening_append (bracket : Char) (close : Blanks) (rest s : List Char)
    (parts : List (List Char)) :
    afterOpening bracket close rest parts ++ s = afterOpening bracket close (rest ++ s) parts := by
  cases parts with
  | nil => rw [afterOpening, afterOpening, List.append_assoc, List.cons_append]
  | cons part parts => rw [afterOpening, afterOpening, List.append_assoc, afterPart_append]

/-- A part of a container is followed by what ends a value. -/
theorem ends_append_afterPart (b : Blanks) {bracket : Char}
    (hbracket : continuesNumber bracket = false) (close : Blanks) (rest : List Char)
    (parts : List (List Char)) : Ends (b.chars ++ afterPart bracket close rest parts) := by
  cases parts with
  | nil =>
    have h := ends_append_cons (b.append close) hbracket rest
    rwa [show (b.append close).chars = b.chars ++ close.chars from rfl, List.append_assoc] at h
  | cons part parts => exact ends_append_cons b (by decide) _

mutual

/-- The text of a value. -/
def Tree.text : Tree → List Char
  | .word w => w.text
  | .number n => n.text
  | .string ps => stringText ps
  | .list items close => '[' :: afterOpening ']' close [] (itemTexts items)
  | .object members close => '\x7b' :: afterOpening '\x7d' close [] (memberTexts members)

/-- The texts of the elements of a list. -/
def itemTexts : List (Item Tree) → List (List Char)
  | [] => []
  | ⟨before, value, after⟩ :: items =>
    (before.chars ++ (value.text ++ after.chars)) :: itemTexts items

/-- The texts of the members of an object. -/
def memberTexts : List (Member Tree) → List (List Char)
  | [] => []
  | ⟨before, key, afterKey, beforeValue, value, after⟩ :: members =>
    (before.chars ++ (stringText key ++ (afterKey.chars ++ ':' ::
      (beforeValue.chars ++ (value.text ++ after.chars))))) :: memberTexts members

end

/-- The text of an element. -/
def Item.text (i : Item Tree) : List Char := i.before.chars ++ (i.value.text ++ i.after.chars)

/-- The text of a member. -/
def Member.text (m : Member Tree) : List Char :=
  m.lead ++ (m.beforeValue.chars ++ (m.value.text ++ m.after.chars))

theorem itemTexts_eq_map (items : List (Item Tree)) : itemTexts items = items.map Item.text := by
  induction items with
  | nil => rfl
  | cons i items ih =>
    rw [itemTexts, ih]
    rfl

theorem memberTexts_eq_map (members : List (Member Tree)) :
    memberTexts members = members.map Member.text := by
  induction members with
  | nil => rfl
  | cons m members ih =>
    rw [memberTexts, ih, List.map_cons, Member.text, Member.lead]
    simp only [List.append_assoc, List.singleton_append]

namespace Tree

/-- A list and what follows it. -/
theorem text_list_append (items : List (Item Tree)) (close : Blanks) (rest : List Char) :
    (list items close).text ++ rest
      = '[' :: afterOpening ']' close rest (items.map Item.text) := by
  rw [text, List.cons_append, afterOpening_append, List.nil_append, itemTexts_eq_map]

/-- An object and what follows it. -/
theorem text_object_append (members : List (Member Tree)) (close : Blanks) (rest : List Char) :
    (object members close).text ++ rest
      = '\x7b' :: afterOpening '\x7d' close rest (members.map Member.text) := by
  rw [text, List.cons_append, afterOpening_append, List.nil_append, memberTexts_eq_map]

/-- Induction on a value: the elements and the values of the members come before the whole. -/
@[elab_as_elim, induction_eliminator]
theorem induct {P : Tree → Prop} (word : ∀ w, P (.word w)) (number : ∀ n, P (.number n))
    (string : ∀ ps, P (.string ps))
    (list : ∀ items close, (∀ i ∈ items, P i.value) → P (.list items close))
    (object : ∀ members close, (∀ m ∈ members, P m.value) → P (.object members close)) :
    ∀ t, P t
  | .word w => word w
  | .number n => number n
  | .string ps => string ps
  | .list items close =>
    list items close fun i (_ : i ∈ items) => induct word number string list object i.value
  | .object members close =>
    object members close fun m (_ : m ∈ members) => induct word number string list object m.value
termination_by t => t
decreasing_by
  · have hlt := List.sizeOf_lt_of_mem ‹i ∈ items›
    cases i
    simp only [Item.mk.sizeOf_spec, Tree.list.sizeOf_spec] at hlt ⊢
    omega
  · have hlt := List.sizeOf_lt_of_mem ‹m ∈ members›
    cases m
    simp only [Member.mk.sizeOf_spec, Tree.object.sizeOf_spec] at hlt ⊢
    omega

/-! ### How a value begins -/

/-- What the first character of a value may be. -/
def Begins : Tree → Char → Prop
  | word _, c => c = 'n' ∨ c = 't' ∨ c = 'f'
  | number _, c => c = '-' ∨ isDigit c = true
  | string _, c => c = '"'
  | list .., c => c = '['
  | object .., c => c = '\x7b'

theorem exists_front (t : Tree) : ∃ c r, t.text = c :: r ∧ t.Begins c := by
  cases t with
  | word w =>
    cases w with
    | null => exact ⟨_, _, rfl, .inl rfl⟩
    | yes => exact ⟨_, _, rfl, .inr (.inl rfl)⟩
    | no => exact ⟨_, _, rfl, .inr (.inr rfl)⟩
  | number n =>
    obtain ⟨d, u, hu, hd⟩ := n.exists_body
    rw [text, WrittenNumber.text, WrittenNumber.signText, hu]
    cases n.negative with
    | true => exact ⟨_, _, rfl, .inl rfl⟩
    | false => exact ⟨_, _, rfl, .inr hd⟩
  | string ps => exact ⟨_, _, rfl, rfl⟩
  | list items close => exact ⟨_, _, rfl, rfl⟩
  | object members close => exact ⟨_, _, rfl, rfl⟩

theorem Begins.isSpace {t : Tree} {c : Char} (h : t.Begins c) : isSpace c = false := by
  cases t with
  | word w => rcases h with rfl | rfl | rfl <;> decide
  | number n =>
    rcases h with rfl | h
    · decide
    · by_contra hc
      have hnumber := not_continuesNumber_of_isSpace (by simpa using hc)
      simp [continuesNumber, h] at hnumber
  | string ps => cases h; decide
  | list items close => cases h; decide
  | object members close => cases h; decide

/-- A value does not begin as a container ends. -/
theorem Begins.ne_close {t : Tree} {c : Char} (h : t.Begins c) (k : Bracket) : c ≠ k.close := by
  rintro rfl
  cases t with
  | word w => rcases h with h | h | h <;> cases k <;> cases h
  | number n => rcases h with h | h <;> cases k <;> cases h
  | string ps => cases k <;> cases h
  | list items close => cases k <;> cases h
  | object members close => cases k <;> cases h

/-- The first character of a value is found after blanks. -/
theorem exists_skipSpace (b : Blanks) (t : Tree) (rest : List Char) :
    ∃ c r, skipSpace (b.chars ++ (t.text ++ rest)) = c :: r ∧ t.Begins c
      ∧ t.text ++ rest = c :: r := by
  obtain ⟨c, r, htext, hc⟩ := t.exists_front
  refine ⟨c, r ++ rest, ?_, hc, ?_⟩
  · rw [htext, List.cons_append, skipSpace_append_cons b hc.isSpace]
  · rw [htext, List.cons_append]

end Tree

end BenchReport.Json
