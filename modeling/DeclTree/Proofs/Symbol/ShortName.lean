/-
**Qualified names and what they are called for short.**

A package is put in front of a name with a dot between them, or not at all. What stands before a dot
makes no difference to the last segment (`lastSegment_append_dot`). So the package is not seen in a
short name, whatever dots the package or the name has itself (`QualName.shortName_child`).

* `QualName.child_eq_child_iff`, `QualName.child_child`: names of a package are told apart by their
  texts, and packages nest;
* `shortNames_agree`: **members of a package are called by their own short names**, which is what
  calls and types are shown by.
-/

import DeclTree.Proofs.Host.CallOutcome
import DeclTree.Proofs.Symbol.LastSegment

namespace DeclTree

/-! ### Members of packages -/

namespace QualName

variable (package : QualName)

/-- The text of a member: the package and a dot stand in front of it, unless it is in the root
package. -/
theorem toList_text_child (name : Name) :
    (package.child name).text.toList =
      if package.text = "" then name.text.toList
      else package.text.toList ++ '.' :: name.text.toList := by
  unfold child
  split
  · rfl
  · simp

/-- **The package is not seen in a short name.** -/
theorem shortName_child (name : Name) :
    (package.child name).shortName = shortName ⟨name.text⟩ := by
  unfold shortName
  rw [toList_text_child]
  split
  · rfl
  · rw [lastSegment_append_dot]

/-- A member of a package is known by its text, whichever kind of name it has. -/
theorem child_eq_child_iff (name other : Name) :
    package.child name = package.child other ↔ name.text = other.text := by
  refine ⟨fun same => ?_, fun same => by rw [child, child, same]⟩
  have texts : (package.child name).text.toList = (package.child other).text.toList := by rw [same]
  rw [toList_text_child, toList_text_child] at texts
  rw [← String.toList_inj]
  split at texts
  · exact texts
  · exact List.tail_eq_of_cons_eq (List.append_cancel_left texts)

/-- A package in a package: the two names may as well be one, with a dot in it. -/
theorem child_child {outer inner joined : Name} (named : outer.text ≠ "")
    (join : joined.text = outer.text ++ "." ++ inner.text) :
    (package.child outer).child inner = package.child joined := by
  have inside : (package.child outer).text ≠ "" := by
    rw [Ne, ← String.toList_inj, toList_text_child]
    split
    · rwa [String.toList_inj]
    · simp
  rw [child, if_neg inside, child, child, join]
  split
  · rfl
  · simp only [String.append_assoc]

end QualName

/-- The name of a call that was made is the short name of its callee. -/
theorem Builder.name_of_call {builder : Builder} {callee : Symbol} {arguments : List NodeId}
    {before after : Workspace} {id : NodeId}
    (made : builder.call callee arguments before = .ok id after) :
    (after.tree.node? id).map Node.name = some (.identifier callee.name.shortName) := by
  obtain ⟨accepts, rfl, rfl⟩ := Builder.call_eq_ok_iff.mp made
  obtain ⟨segment, ends, there⟩ := (Tree.calls_linkAll accepts.unlinked accepts.nodup).call
  dsimp only
  rw [there, QualName.endsIn_iff.mp ends]
  rfl

/-- **Short names agree**, for any package, with any dots in it. A member of the package has the
short name of its own text, in which there is no dot, and which is the whole text exactly if this
has no dots; members are the same exactly if their texts are; and a member of a member is the member
whose text is both texts with a dot between them. So a type is shown, and a call is named, by what
the class or the callee is called without the package. -/
theorem shortNames_agree (package : QualName) :
    (∀ name : Name,
      (package.child name).shortName = QualName.shortName ⟨name.text⟩ ∧
      '.' ∉ (package.child name).shortName.toList ∧
      ((package.child name).shortName = name.text ↔ '.' ∉ name.text.toList)) ∧
    (∀ name other : Name, package.child name = package.child other ↔ name.text = other.text) ∧
    (∀ outer inner joined : Name, outer.text ≠ "" →
      joined.text = outer.text ++ "." ++ inner.text →
        (package.child outer).child inner = package.child joined) ∧
    (∀ (name : Name) (nullable : Bool),
      Ty.text ⟨package.child name, nullable⟩ = Ty.text ⟨⟨name.text⟩, nullable⟩) ∧
    ∀ (name : Name) (builder : Builder) (callee : Symbol) (arguments : List NodeId)
      (before after : Workspace) (id : NodeId), callee.name = package.child name →
        builder.call callee arguments before = .ok id after →
          (after.tree.node? id).map Node.name =
            some (.identifier (QualName.shortName ⟨name.text⟩)) := by
  refine ⟨fun name => ⟨?_, ?_, ?_⟩, package.child_eq_child_iff, fun _ _ _ => package.child_child,
    fun name nullable => ?_, fun name builder callee arguments before after id named made => ?_⟩
  · exact package.shortName_child name
  · exact (package.child name).dot_not_mem_shortName
  · rw [package.shortName_child]
    exact QualName.shortName_eq_text_iff ⟨name.text⟩
  · unfold Ty.text
    rw [package.shortName_child]
  · rw [Builder.name_of_call made, named, package.shortName_child]

/-- A package with empty segments, and a member of a member whose name ends in a dot. -/
theorem shortNames_agree_dots :
    let package : QualName := ⟨"std..io."⟩
    let outer : Name := .identifier "a."
    let inner : Name := .special "<b>"
    let joined : Name := .identifier "a..<b>"
    let callee : Symbol :=
      { name := package.child joined, kind := .function, parameters := [], result := .unit,
        id := ⟨1⟩ }
    let builder : Builder := { context := .builtin }
    let before := Workspace.ofModule (.identifier "app") {} []
    (outer.text ≠ "" ∧ joined.text = outer.text ++ "." ++ inner.text) ∧
      (package.child outer).child inner = package.child joined ∧
      ∃ after, builder.call callee [] before = .ok ⟨1⟩ after ∧
        (after.tree.node? ⟨1⟩).map Node.name = some (.identifier "<b>") := by
  intro package outer inner joined callee builder before
  have named : outer.text ≠ "" := by decide
  have join : joined.text = outer.text ++ "." ++ inner.text := by decide
  obtain ⟨_, _, nested, _, called⟩ := shortNames_agree package
  have short : QualName.shortName ⟨joined.text⟩ = "<b>" := by decide +kernel
  refine ⟨⟨named, join⟩, nested outer inner joined named join, _, rfl, ?_⟩
  rw [← short]
  exact called joined builder callee [] before _ ⟨1⟩ rfl rfl

end DeclTree
