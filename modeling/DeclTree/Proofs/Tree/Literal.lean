/-
**The line of a literal tells the literal.**

A text is shown between quotes, a number by its digits, a truth value by its word, so the first
character of what is shown tells which of them it is (`Literal.Starts`), and the rest tells the
value: `Literal.textBy_inj`. On a line this stands between the type and the annotations, so among
literals that have these in common, `literal_lines_tell`: **lines are equal exactly if the values
are**. As in `Text.quoteBy`, it makes no difference which characters count as visible.
-/

import DeclTree.Proofs.Json.Number
import DeclTree.Proofs.Text.Quoted
import DeclTree.Proofs.Host.Run
import DeclTree.Tree.Line

namespace DeclTree

open Text

/-! ### Values -/

namespace Literal

/-- The value of a literal as it is shown, where it is given which characters can be seen on their
own. -/
def textBy (visible : Char → Bool) : Literal → String
  | string value => quoteBy visible value
  | int value => Int.repr value.toInt
  | boolean true => "true"
  | boolean false => "false"

theorem text_eq (literal : Literal) : literal.text = literal.textBy isVisible := by
  cases literal with
  | string value => exact congrFun quote_eq value
  | int value => rfl
  | boolean value => cases value <;> rfl

/-- The characters that a literal of that kind may start with when it is shown. -/
def Starts : Literal → Char → Prop
  | string _, c => c = '"'
  | int _, c => c.isDigit = true ∨ c = '-'
  | boolean _, c => c = 't' ∨ c = 'f'

theorem exists_starts (visible : Char → Bool) (literal : Literal) :
    ∃ c cs, (literal.textBy visible).toList = c :: cs ∧ literal.Starts c := by
  cases literal with
  | string value => exact ⟨_, _, toList_quoteBy visible value, rfl⟩
  | int value => exact Json.toList_repr_eq_cons value.toInt
  | boolean value =>
      cases value with
      | true =>
          have word : "true".toList = ['t', 'r', 'u', 'e'] := by decide
          exact ⟨'t', _, word, .inl rfl⟩
      | false =>
          have word : "false".toList = ['f', 'a', 'l', 's', 'e'] := by decide
          exact ⟨'f', _, word, .inr rfl⟩

variable {visible : Char → Bool} {value other : Literal}

theorem starts_of_textBy_eq (same : value.textBy visible = other.textBy visible) :
    ∃ c, value.Starts c ∧ other.Starts c := by
  obtain ⟨c, cs, shown, starts⟩ := value.exists_starts visible
  obtain ⟨d, ds, otherShown, otherStarts⟩ := other.exists_starts visible
  rw [same, otherShown] at shown
  obtain ⟨rfl, -⟩ := List.cons.inj shown
  exact ⟨d, starts, otherStarts⟩

/-- No text is shown as a number is. -/
theorem textBy_string_ne_int (text : String) (number : Int64) :
    (string text).textBy visible ≠ (int number).textBy visible := by
  intro same
  obtain ⟨c, rfl, digit | sign⟩ := starts_of_textBy_eq same
  · exact absurd digit (by decide)
  · exact absurd sign (by decide)

/-- No text is shown as a truth value is. -/
theorem textBy_string_ne_boolean (text : String) (truth : Bool) :
    (string text).textBy visible ≠ (boolean truth).textBy visible := by
  intro same
  obtain ⟨c, rfl, yes | no⟩ := starts_of_textBy_eq same
  · exact absurd yes (by decide)
  · exact absurd no (by decide)

/-- No number is shown as a truth value is. -/
theorem textBy_int_ne_boolean (number : Int64) (truth : Bool) :
    (int number).textBy visible ≠ (boolean truth).textBy visible := by
  intro same
  obtain ⟨c, begins, rfl | rfl⟩ := starts_of_textBy_eq same
  · rcases begins with digit | sign
    · exact absurd digit (by decide)
    · exact absurd sign (by decide)
  · rcases begins with digit | sign
    · exact absurd digit (by decide)
    · exact absurd sign (by decide)

/-- **No two literals are shown alike.** -/
theorem textBy_inj : value.textBy visible = other.textBy visible ↔ value = other := by
  refine ⟨fun same => ?_, fun same => same ▸ rfl⟩
  cases value with
  | string text =>
      cases other with
      | string more => rw [(quoteBy_inj visible).mp same]
      | int number => exact absurd same (textBy_string_ne_int text number)
      | boolean truth => exact absurd same (textBy_string_ne_boolean text truth)
  | int number =>
      cases other with
      | string text => exact absurd same.symm (textBy_string_ne_int text number)
      | int more => rw [Int64.toInt_inj.mp (Json.repr_inj same)]
      | boolean truth => exact absurd same (textBy_int_ne_boolean number truth)
  | boolean truth =>
      cases other with
      | string text => exact absurd same.symm (textBy_string_ne_boolean text truth)
      | int number => exact absurd same.symm (textBy_int_ne_boolean number truth)
      | boolean more =>
          have apart : "true" ≠ "false" := by decide
          cases truth with
          | true =>
              cases more with
              | true => rfl
              | false => exact absurd same apart
          | false =>
              cases more with
              | true => exact absurd same.symm apart
              | false => rfl

end Literal

/-! ### Lines -/

/-- The line of a literal of some type with some annotations, where it is given which characters can
be seen on their own. -/
def literalLine (visible : Char → Bool) (ty : Ty) (tags : List AnnotationTag) (value : Literal) :
    String :=
  NodeTag.literal.text ++ " type:" ++ ty.text ++ " value=" ++ value.textBy visible ++
    Node.annotationSuffix tags

theorem literalLine_inj {visible : Char → Bool} {ty : Ty} {tags : List AnnotationTag}
    {value other : Literal} :
    literalLine visible ty tags value = literalLine visible ty tags other ↔ value = other := by
  refine ⟨fun same => ?_, fun same => same ▸ rfl⟩
  have chars := congrArg String.toList same
  simp only [literalLine, String.toList_append, List.append_assoc, List.append_cancel_left_eq,
    List.append_cancel_right_eq] at chars
  exact Literal.textBy_inj.mp (String.toList_inj.mp chars)

theorem Node.line_of_literal {node : Node} {value : Literal} (kind : node.kind = .literal value) :
    node.line = literalLine isVisible node.ty node.annotations.tags value := by
  have word : node.tag = .literal := congrArg NodeKind.tag kind
  have head : node.headline =
      node.tag.text ++ " type:" ++ node.ty.text ++ " value=" ++ value.text := by
    unfold headline
    rw [kind]
  rw [line, head, word, value.text_eq, literalLine]

theorem Tree.line_of_literal {tree : Tree} {id : NodeId} {node : Node} {value : Literal}
    (found : tree.node? id = some node) (kind : node.kind = .literal value) :
    tree.line id = .ok (literalLine isVisible node.ty node.annotations.tags value) := by
  unfold Tree.line
  rw [(node_eq_ok_iff tree id node).mpr found, ← Node.line_of_literal kind]
  rfl

/-- **Literals of one type and with the same annotations have the same line exactly if they have the
same value**, wherever they are: no two texts, no two numbers, and no text and a number or a truth
value are shown alike, whether the type fits the value or not. This does not depend on which
characters count as visible. A text is shown between two quotes, between which there is no line
break, and no quote but behind a backslash that escapes it; the last quote is not escaped. -/
theorem literal_lines_tell {tree other : Tree} {id twin : NodeId} {node like : Node}
    {value payload : Literal} (found : tree.node? id = some node)
    (kind : node.kind = .literal value) (foundTwin : other.node? twin = some like)
    (kindTwin : like.kind = .literal payload) (ty : like.ty = node.ty)
    (tags : like.annotations.tags = node.annotations.tags) :
    tree.line id = .ok (literalLine isVisible node.ty node.annotations.tags value) ∧
      (tree.line id = other.line twin ↔ value = payload) ∧
      ∀ visible : Char → Bool,
        (literalLine visible node.ty node.annotations.tags value =
          literalLine visible like.ty like.annotations.tags payload ↔ value = payload) ∧
        ∀ text, value = .string text →
          ∃ inner, (value.textBy visible).toList = '"' :: (inner ++ ['"']) ∧ '\n' ∉ inner ∧
            (∀ before after, inner = before ++ '"' :: after → escapesNext before = true) ∧
            escapesNext inner = false := by
  refine ⟨Tree.line_of_literal found kind, ?_, fun visible => ⟨?_, ?_⟩⟩
  · rw [Tree.line_of_literal found kind, Tree.line_of_literal foundTwin kindTwin, ty, tags,
      Except.ok.injEq]
    exact literalLine_inj
  · rw [ty, tags]
    exact literalLine_inj
  · rintro text rfl
    exact ⟨_, toList_quoteBy visible text, newline_not_mem_escapeBy visible _,
      fun _ _ place => escapesNext_of_quote place, escapesNext_flatMap visible _⟩

/-- The text `4` and the number 4, both said to be texts. -/
theorem literal_lines_tell_digits :
    let tree := ((Workspace.ofModule (.identifier "app") {} []).after
      [.create .builtin (.literal (.string "4")) (.special "<const>") .string,
        .create .builtin (.literal (.int 4)) (.special "<const>") .string]).tree
    let text : Node := { kind := .literal (.string "4"), name := .special "<const>", ty := .string }
    let number : Node := { kind := .literal (.int 4), name := .special "<const>", ty := .string }
    (tree.node? ⟨1⟩ = some text ∧ tree.node? ⟨2⟩ = some number ∧ number.ty = text.ty ∧
      number.annotations.tags = text.annotations.tags) ∧ tree.line ⟨1⟩ ≠ tree.line ⟨2⟩ := by
  intro tree text number
  have found : tree.node? ⟨1⟩ = some text := rfl
  have foundTwin : tree.node? ⟨2⟩ = some number := rfl
  refine ⟨⟨found, foundTwin, rfl, rfl⟩, fun same => ?_⟩
  obtain ⟨_, tells, _⟩ := literal_lines_tell found rfl foundTwin rfl rfl rfl
  exact absurd (tells.mp same) (by decide)

end DeclTree
