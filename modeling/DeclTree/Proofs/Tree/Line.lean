/-
**Lines.**

The line of a node starts with the word for its kind, so it is neither empty nor does it start with
a blank (`Node.line_eq_cons`). What it says besides are names, types, symbols and annotations, which
may hold line breaks, and numbers and literals, which do not: a text that is shown as a literal has
its line breaks escaped (`unbroken_quote`), whatever the text is. So a node none of whose names has
a line break (`Node.IsUnbroken`) is shown on one line: `Node.unbroken_line`.
-/

import DeclTree.Proofs.Json.Number
import DeclTree.Proofs.Text.Quoted
import DeclTree.Tree.Line

namespace DeclTree

namespace Text

/-- A text that stands on one line. -/
def Unbroken (text : String) : Prop := '\n' ∉ text.toList

instance (text : String) : Decidable (Unbroken text) :=
  inferInstanceAs (Decidable ('\n' ∉ text.toList))

@[simp] theorem unbroken_append_iff (text more : String) :
    Unbroken (text ++ more) ↔ Unbroken text ∧ Unbroken more := by
  unfold Unbroken
  rw [String.toList_append, List.mem_append, not_or]

theorem unbroken_join {texts : List String} (each : ∀ text ∈ texts, Unbroken text) :
    Unbroken (String.join texts) := by
  unfold Unbroken
  rw [String.toList_join, List.mem_flatMap]
  rintro ⟨text, listed, member⟩
  exact each text listed member

/-! ### Numbers -/

theorem digitChar_ne_newline : ∀ digit < 16, Nat.digitChar digit ≠ '\n' := by
  decide

theorem newline_not_mem_toDigits {base : Nat} (many : 1 < base) (atMost : base ≤ 16) (n : Nat) :
    '\n' ∉ Nat.toDigits base n := by
  intro member
  obtain ⟨digit, small, same⟩ := exists_digit_of_mem_toDigits many member
  exact digitChar_ne_newline digit (by omega) same.symm

theorem unbroken_natRepr (n : Nat) : Unbroken (Nat.repr n) := by
  unfold Unbroken
  rw [Nat.toList_repr]
  exact newline_not_mem_toDigits (by decide) (by decide) n

theorem unbroken_intRepr (value : Int) : Unbroken (Int.repr value) := by
  unfold Unbroken
  obtain ⟨n, -, written⟩ | ⟨n, -, -, written⟩ := Json.toList_repr_cases value
  · rw [written]
    exact newline_not_mem_toDigits (by decide) (by decide) n
  · rw [written]
    exact List.not_mem_cons_of_ne_of_not_mem (by decide)
      (newline_not_mem_toDigits (by decide) (by decide) n)

/-! ### Literals -/

/-- **No line break is shown as itself** in a text between quotes. -/
theorem unbroken_quote (text : String) : Unbroken (quote text) := by
  have inside := newline_not_mem_escapeBy isVisible text.toList
  unfold Unbroken
  rw [quote_eq, toList_quoteBy]
  simp [inside]

end Text

open Text

theorem Literal.unbroken_text (literal : Literal) : Unbroken literal.text := by
  cases literal with
  | string value => exact unbroken_quote value
  | int value => exact unbroken_intRepr value.toInt
  | boolean value => cases value <;> decide

theorem Ty.unbroken_text {ty : Ty} (name : Unbroken ty.classifier.shortName) :
    Unbroken ty.text := by
  unfold Ty.text
  rw [unbroken_append_iff]
  refine ⟨name, ?_⟩
  cases ty.nullable <;> decide

theorem Symbol.unbroken_text {symbol : Symbol} (name : Unbroken symbol.name.text) :
    Unbroken symbol.text := by
  unfold Symbol.text
  rw [unbroken_append_iff, unbroken_append_iff]
  exact ⟨⟨by decide, name⟩, by decide⟩

/-! ### Nodes -/

namespace Node

/-- None of the names that the line of a node shows has a line break: neither its own nor that of
its class, nor those of the symbol that it refers to and of its annotations. The text of a literal
may have some. -/
structure IsUnbroken (node : Node) : Prop where
  name : Unbroken node.name.text
  ty : Unbroken node.ty.classifier.shortName
  mentioned : ∀ symbol ∈ node.kind.mentioned?, Unbroken symbol.name.text
  tags : ∀ tag ∈ node.annotations.tags, Unbroken tag.text

instance (node : Node) : Decidable node.IsUnbroken :=
  decidable_of_iff
    (Unbroken node.name.text ∧ Unbroken node.ty.classifier.shortName ∧
      (∀ symbol ∈ node.kind.mentioned?, Unbroken symbol.name.text) ∧
      ∀ tag ∈ node.annotations.tags, Unbroken tag.text)
    ⟨fun ⟨name, ty, mentioned, tags⟩ => ⟨name, ty, mentioned, tags⟩,
      fun ⟨name, ty, mentioned, tags⟩ => ⟨name, ty, mentioned, tags⟩⟩

theorem unbroken_headline {node : Node} (unbroken : node.IsUnbroken) : Unbroken node.headline := by
  have word : Unbroken node.tag.text := by cases node.tag <;> decide
  have name := unbroken.name
  have ty := Ty.unbroken_text unbroken.ty
  have mentioned : ∀ symbol ∈ node.kind.mentioned?, Unbroken symbol.text :=
    fun symbol is => Symbol.unbroken_text (unbroken.mentioned symbol is)
  unfold headline
  cases kind : node.kind with
  | module => simp +decide only [unbroken_append_iff, word, name, and_true]
  | function _ visibility modality =>
      have visible : Unbroken visibility.text := by cases visibility <;> decide
      have modal : Unbroken modality.text := by cases modality <;> decide
      simp +decide only [unbroken_append_iff, word, name, ty, visible, modal, and_true]
  | property _ visibility modality isVar =>
      have visible : Unbroken visibility.text := by cases visibility <;> decide
      have modal : Unbroken modality.text := by cases modality <;> decide
      have var : Unbroken (if isVar then " var" else " val") := by cases isVar <;> decide
      simp +decide only [unbroken_append_iff, word, name, ty, visible, modal, var, and_true]
  | getter _ property =>
      have owner := mentioned property (by rw [kind]; rfl)
      simp +decide only [unbroken_append_iff, word, name, ty, owner, and_true]
  | setter _ property =>
      have owner := mentioned property (by rw [kind]; rfl)
      simp +decide only [unbroken_append_iff, word, name, ty, owner, and_true]
  | parameter _ index =>
      have place := unbroken_natRepr index
      simp +decide only [unbroken_append_iff, word, name, ty, place, and_true]
  | body => exact word
  | call callee =>
      have called := mentioned callee (by rw [kind]; rfl)
      simp +decide only [unbroken_append_iff, word, ty, called, and_true]
  | ret target =>
      have left := mentioned target (by rw [kind]; rfl)
      simp +decide only [unbroken_append_iff, word, ty, left, and_true]
  | getValue _ => simp +decide only [unbroken_append_iff, word, name, ty, and_true]
  | literal value =>
      have shown := value.unbroken_text
      simp +decide only [unbroken_append_iff, word, ty, shown, and_true]
  | typeRef => simp +decide only [unbroken_append_iff, word, ty, and_true]

theorem unbroken_annotationSuffix {tags : List AnnotationTag}
    (each : ∀ tag ∈ tags, Unbroken tag.text) : Unbroken (annotationSuffix tags) := by
  refine unbroken_join fun text listed => ?_
  obtain ⟨tag, member, rfl⟩ := List.mem_map.mp listed
  exact (unbroken_append_iff _ _).mpr ⟨by decide, each tag member⟩

/-- **A node whose names have no line breaks is shown on one line.** -/
theorem unbroken_line {node : Node} (unbroken : node.IsUnbroken) : Unbroken node.line :=
  (unbroken_append_iff _ _).mpr
    ⟨unbroken_headline unbroken, unbroken_annotationSuffix unbroken.tags⟩

/-- A line starts with the word for the kind of its node. -/
theorem headline_eq (node : Node) : ∃ more, node.headline = node.tag.text ++ more := by
  unfold headline
  simp only [String.append_assoc]
  cases node.kind with
  | body => exact ⟨"", String.append_empty.symm⟩
  | _ => exact ⟨_, rfl⟩

/-- **No line starts with a blank**, and none is empty. -/
theorem line_eq_cons (node : Node) : ∃ c cs, node.line.toList = c :: cs ∧ c ≠ ' ' := by
  obtain ⟨more, starts⟩ := node.headline_eq
  have word : ∃ c cs, node.tag.text.toList = c :: cs ∧ c ≠ ' ' := by
    cases node.tag <;> exact ⟨_, _, rfl, by decide⟩
  obtain ⟨c, cs, first, solid⟩ := word
  refine ⟨c, cs ++ (more ++ annotationSuffix node.annotations.tags).toList, ?_, solid⟩
  rw [line, starts, String.append_assoc, String.toList_append, first, List.cons_append]

end Node

end DeclTree
