/-
**The last segment of a text.**

The last segment ends where the text ends and begins behind its last dot, so nothing that stands
before a dot makes a difference to it (`lastSegment_append_dot`), and there is no dot in it. A
qualified name ends in a segment (`QualName.EndsIn`) if there is no dot in the segment and the name
is the segment, with something and a dot in front of it or with nothing.

* `lastSegment_eq_self_iff`: the texts that are their own last segment are those without dots;
* `QualName.endsIn_iff`: **a qualified name ends in its short name, and in nothing else**.
-/

import DeclTree.Name
import DeclTree.Proofs.Text.Delimited

namespace DeclTree

/-! ### Texts -/

/-- What stands before a dot does not belong to the last segment. -/
theorem lastSegment_append_dot (before after : List Char) :
    lastSegment (before ++ '.' :: after) = lastSegment after := by
  have reversed : (before ++ '.' :: after).reverse = after.reverse ++ '.' :: before.reverse := by
    simp
  unfold lastSegment
  rw [reversed, Text.takeWhile_append_cons]

theorem dot_not_mem_lastSegment (text : List Char) : '.' ∉ lastSegment text := by
  unfold lastSegment
  rw [List.mem_reverse]
  exact Text.not_mem_takeWhile '.' text.reverse

/-- A text is its own last segment if it has no dots. -/
theorem lastSegment_eq_self_iff (text : List Char) : lastSegment text = text ↔ '.' ∉ text := by
  unfold lastSegment
  rw [List.reverse_eq_iff, Text.takeWhile_eq_self_iff, List.mem_reverse]

/-- Where there is a dot, there is one with nothing but the last segment behind it. -/
theorem exists_append_dot {text : List Char} (member : '.' ∈ text) :
    ∃ before, text = before ++ '.' :: lastSegment text := by
  obtain ⟨after, before, split, dotless⟩ := List.eq_append_cons_of_mem (List.mem_reverse.mpr member)
  have place : text = before.reverse ++ '.' :: after.reverse := by
    rw [← List.reverse_reverse text, split]
    simp
  have last : lastSegment text = after.reverse := by
    rw [place, lastSegment_append_dot, lastSegment_eq_self_iff, List.mem_reverse]
    exact dotless
  refine ⟨before.reverse, ?_⟩
  rw [last]
  exact place

/-! ### Qualified names -/

namespace QualName

/-- A qualified name ends in a segment. There is no dot in the segment, and there is one in front of
it, unless it is the whole name. -/
structure EndsIn (name : QualName) (segment : String) : Prop where
  dotless : '.' ∉ segment.toList
  place : name.text = segment ∨ ∃ before, name.text = before ++ "." ++ segment

theorem dot_not_mem_shortName (name : QualName) : '.' ∉ name.shortName.toList := by
  unfold shortName
  rw [String.toList_ofList]
  exact dot_not_mem_lastSegment name.text.toList

theorem shortName_eq_text_iff (name : QualName) :
    name.shortName = name.text ↔ '.' ∉ name.text.toList := by
  rw [← lastSegment_eq_self_iff, ← String.toList_inj, shortName, String.toList_ofList]

/-- **A name ends in its short name, and in nothing else.** -/
theorem endsIn_iff {name : QualName} {segment : String} :
    name.EndsIn segment ↔ segment = name.shortName := by
  constructor
  · rintro ⟨dotless, whole | ⟨before, behind⟩⟩
    · rw [← whole] at dotless ⊢
      exact (name.shortName_eq_text_iff.mpr dotless).symm
    · have place : name.text.toList = before.toList ++ '.' :: segment.toList := by
        rw [behind]
        simp
      rw [← String.toList_inj, shortName, String.toList_ofList, place, lastSegment_append_dot]
      exact ((lastSegment_eq_self_iff _).mpr dotless).symm
  · rintro rfl
    refine ⟨name.dot_not_mem_shortName, ?_⟩
    by_cases member : '.' ∈ name.text.toList
    · obtain ⟨before, place⟩ := exists_append_dot member
      refine .inr ⟨String.ofList before, ?_⟩
      rw [← String.toList_inj, place, shortName]
      simp
    · exact .inl (name.shortName_eq_text_iff.mpr member).symm

example : EndsIn ⟨"std.io.println"⟩ "println" := endsIn_iff.mpr (by decide +kernel)

end QualName

end DeclTree
