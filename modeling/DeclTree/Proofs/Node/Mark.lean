/-
**The calls behind the annotations of a node.**

A `Mark` is a call that put an annotation on a node. A node has no annotations at first, so those
that it has after some marks can be read from the marks on it (`Mark.onNode`):

* `Annotations.tags_record`: its tags are the tags of these marks, each once, in the order in which
  they first came;
* `Annotations.find?_record`: the arguments of a tag are those of the last mark with this tag.
-/

import DeclTree.Node.Annotations
import DeclTree.Node.Id
import Mathlib.Data.List.Induction

namespace DeclTree

/-- An annotation that was put on a node. -/
structure Mark where
  node : NodeId
  tag : AnnotationTag
  arguments : List Literal
deriving DecidableEq, Repr

namespace Mark

/-- The marks on one node. -/
def onNode (id : NodeId) (marks : List Mark) : List Mark := marks.filter fun mark => mark.node = id

/-- The arguments of the last mark with a tag. -/
def lastArguments (tag : AnnotationTag) (marks : List Mark) : Option (List Literal) :=
  (marks.filter fun mark => mark.tag = tag).getLast?.map arguments

variable {id : NodeId} {marks : List Mark}

@[simp] theorem onNode_append (id : NodeId) (marks later : List Mark) :
    onNode id (marks ++ later) = onNode id marks ++ onNode id later :=
  List.filter_append marks later

theorem onNode_eq_nil (elsewhere : ∀ mark ∈ marks, mark.node ≠ id) : onNode id marks = [] :=
  List.filter_eq_nil_iff.mpr fun mark member here =>
    elsewhere mark member (of_decide_eq_true here)

/-- Which tags are among the marks on a node. -/
theorem mem_map_tag_onNode {tag : AnnotationTag} :
    tag ∈ (onNode id marks).map Mark.tag ↔ ∃ arguments, ⟨id, tag, arguments⟩ ∈ marks := by
  rw [List.mem_map]
  constructor
  · rintro ⟨⟨node, tag, arguments⟩, member, rfl⟩
    obtain ⟨listed, here⟩ := List.mem_filter.mp member
    obtain rfl : node = id := of_decide_eq_true here
    exact ⟨arguments, listed⟩
  · rintro ⟨arguments, listed⟩
    exact ⟨_, List.mem_filter.mpr ⟨listed, decide_eq_true rfl⟩, rfl⟩

theorem lastArguments_concat (tag : AnnotationTag) (marks : List Mark) (mark : Mark) :
    lastArguments tag (marks ++ [mark]) =
      if tag = mark.tag then some mark.arguments else lastArguments tag marks := by
  unfold lastArguments
  rw [List.filter_append]
  by_cases same : tag = mark.tag
  · subst same
    simp
  · have other : mark.tag ≠ tag := Ne.symm same
    simp [same, other]

end Mark

namespace Annotations

/-- The annotations after some marks were put on the node, the first one first. -/
def record (annotations : Annotations) (marks : List Mark) : Annotations :=
  marks.foldl (fun annotations mark => annotations.put mark.tag mark.arguments) annotations

@[simp] theorem record_nil (annotations : Annotations) : annotations.record [] = annotations := rfl

theorem record_append (annotations : Annotations) (marks later : List Mark) :
    annotations.record (marks ++ later) = (annotations.record marks).record later :=
  List.foldl_append

theorem record_concat (annotations : Annotations) (marks : List Mark) (mark : Mark) :
    annotations.record (marks ++ [mark]) =
      (annotations.record marks).put mark.tag mark.arguments :=
  record_append annotations marks [mark]

/-- One tag more comes last, or it was there already. -/
theorem eraseDups_concat (tags : List AnnotationTag) (tag : AnnotationTag) :
    (tags ++ [tag]).eraseDups =
      if tag ∈ tags.eraseDups then tags.eraseDups else tags.eraseDups ++ [tag] := by
  rw [List.eraseDups_append]
  have single : [tag].eraseDups = [tag] := rfl
  by_cases again : tag ∈ tags <;> simp [List.removeAll, again, single]

/-- **The tags are in the order in which they first came**, each once. -/
theorem tags_record (marks : List Mark) :
    (empty.record marks).tags = (marks.map Mark.tag).eraseDups := by
  induction marks using List.reverseRecOn with
  | nil => rfl
  | append_singleton marks mark ih =>
      rw [record_concat, tags_put, ih, List.map_append]
      exact (eraseDups_concat _ _).symm

/-- **The arguments of a tag are those that came last.** -/
theorem find?_record (marks : List Mark) (tag : AnnotationTag) :
    (empty.record marks).find? tag = Mark.lastArguments tag marks := by
  induction marks using List.reverseRecOn with
  | nil => rfl
  | append_singleton marks mark ih =>
      rw [record_concat, find?_put, ih, Mark.lastArguments_concat]

end Annotations

end DeclTree
